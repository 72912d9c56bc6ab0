/-!
# UTF-8

Octets of a text and back. `pieces` cuts octets into characters and ill-formed stretches, each as long
as the start of a character that it could have been; `decodeLossy` puts one replacement character for a
stretch, `decode?` refuses it.
-/

namespace InterceptAddons.Text

def encode (cs : List Char) : List UInt8 := cs.flatMap String.utf8EncodeChar

def octets (s : String) : List UInt8 := encode s.toList

def byteSize : List Char → Nat
  | [] => 0
  | c :: cs => c.utf8Size + byteSize cs

/-- A stretch of octets: a character, or `size` octets that begin none. -/
inductive Piece
  | char (c : Char)
  | illFormed (size : Nat)
  deriving Repr, DecidableEq

def isTail (b : UInt8) : Bool := 0x80 ≤ b && b ≤ 0xBF

/-- The least and the greatest second octet after a lead octet of three or four. -/
def secondBounds (lead : UInt8) : UInt8 × UInt8 :=
  if lead = 0xE0 then (0xA0, 0xBF)
  else if lead = 0xED then (0x80, 0x9F)
  else if lead = 0xF0 then (0x90, 0xBF)
  else if lead = 0xF4 then (0x80, 0x8F)
  else (0x80, 0xBF)

/-- Whether `b` may follow `lead`. -/
def isSecond (lead b : UInt8) : Bool := (secondBounds lead).1 ≤ b && b ≤ (secondBounds lead).2

def low6 (b : UInt8) : Nat := b.toNat % 64

/-- The piece that starts with `lead`, and how many octets it takes after the lead. -/
def firstPiece (lead : UInt8) (rest : List UInt8) : Piece × Nat :=
  if lead < 0x80 then (.char (Char.ofNat lead.toNat), 0)
  else if 0xC2 ≤ lead && lead ≤ 0xDF then
    match rest with
    | b :: _ =>
      if isTail b then (.char (Char.ofNat (64 * (lead.toNat - 0xC0) + low6 b)), 1)
      else (.illFormed 1, 0)
    | [] => (.illFormed 1, 0)
  else if 0xE0 ≤ lead && lead ≤ 0xEF then
    match rest with
    | b :: more =>
      if isSecond lead b then
        match more with
        | c :: _ =>
          if isTail c then
            (.char (Char.ofNat (64 * (64 * (lead.toNat - 0xE0) + low6 b) + low6 c)), 2)
          else (.illFormed 2, 1)
        | [] => (.illFormed 2, 1)
      else (.illFormed 1, 0)
    | [] => (.illFormed 1, 0)
  else if 0xF0 ≤ lead && lead ≤ 0xF4 then
    match rest with
    | b :: more =>
      if isSecond lead b then
        match more with
        | c :: more' =>
          if isTail c then
            match more' with
            | d :: _ =>
              if isTail d then
                (.char (Char.ofNat
                  (64 * (64 * (64 * (lead.toNat - 0xF0) + low6 b) + low6 c) + low6 d)), 3)
              else (.illFormed 3, 2)
            | [] => (.illFormed 3, 2)
          else (.illFormed 2, 1)
        | [] => (.illFormed 2, 1)
      else (.illFormed 1, 0)
    | [] => (.illFormed 1, 0)
  else (.illFormed 1, 0)

def pieces : List UInt8 → List Piece
  | [] => []
  | b :: rest => (firstPiece b rest).1 :: pieces (rest.drop (firstPiece b rest).2)
termination_by l => l.length
decreasing_by simp only [List.length_cons, List.length_drop]; omega

/-- The text of octets, with U+FFFD for each ill-formed stretch. -/
def decodeLossy (bs : List UInt8) : List Char :=
  (pieces bs).map fun
    | .char c => c
    | .illFormed _ => '\uFFFD'

/-- The text of octets that are well formed throughout. -/
def decode? (bs : List UInt8) : Option (List Char) :=
  (pieces bs).mapM fun
    | .char c => some c
    | .illFormed _ => none

/-- The characters of octets, with a blank for every octet that belongs to none. -/
def decodeUnits (bs : List UInt8) : List (Option Char) :=
  (pieces bs).flatMap fun
    | .char c => [some c]
    | .illFormed n => List.replicate n none

end InterceptAddons.Text
