import InterceptAddons.Json.Fault
import InterceptAddons.Text.Numeral

/-!
# Tokens of JSON

`lex` cuts a text into tokens. The text is a list of characters in which a blank stands for an octet that
belongs to no character. Strings and numbers are cut by their outline alone and carry the fault at which
the outline breaks off, so that a reader decides how closely to look at them. Nothing is read after a
fault.
-/

namespace InterceptAddons.Json

open InterceptAddons.Text

/-! ### Types -/

/-- A part of a string: a character as it stands or by a short escape, or a unit of 16 bits by number. -/
inductive Part
  | char (c : Option Char)
  | unit (n : Nat)
  deriving Repr, DecidableEq

/-- A string up to its closing quote or to a fault. -/
structure Quotation where
  parts : List Part
  fault : Option Fault
  deriving Repr, DecidableEq

/-- A number up to its end or to a fault: the digits before and after the point, and the exponent with
its sign. -/
structure Numeral where
  isNegative : Bool
  whole : List Char
  fraction : Option (List Char)
  exponent : Option (Bool × List Char)
  fault : Option Fault
  deriving Repr, DecidableEq

/-- A token. -/
inductive Token
  | beginArray
  | endArray
  | beginObject
  | endObject
  | comma
  | colon
  | null
  | bool (b : Bool)
  | number (n : Numeral)
  | string (q : Quotation)
  | broken (f : Fault)
  deriving Repr, DecidableEq

/-- A text to be read. -/
abbrev Source := List (Option Char)

/-- The fault of a text that breaks off before `rest`. -/
def faultAt (rest : Source) : Fault := if rest.isEmpty then .truncated else .malformed

/-! ### Strings -/

/-- The octets that a stretch of text takes. -/
def octetSize : Source → Nat
  | [] => 0
  | c :: cs => c.elim 1 Char.utf8Size + octetSize cs

def shortEscape? (c : Char) : Option Char :=
  match c with
  | '"' | '\\' | '/' => some c
  | 'b' => some '\x08'
  | 'f' => some '\x0c'
  | 'n' => some '\n'
  | 'r' => some '\r'
  | 't' => some '\t'
  | _ => none

def unitValue? (ds : Source) : Option Nat := (ds.mapM id).bind (digitsValue? 16 0)

/-- A character that may not stand in a string as it is. -/
def isControl (c : Option Char) : Bool := c.any (·.toNat < 0x20)

abbrev StringCut := Quotation × Source

def StringCut.cons (p : Part) (r : StringCut) : StringCut := (⟨p :: r.1.parts, r.1.fault⟩, r.2)

def StringCut.stop (f : Fault) : StringCut := (⟨[], some f⟩, [])

/-- The string after its opening quote, and what follows it. -/
def scanString : Source → StringCut
  | [] => .stop .truncated
  | some '"' :: cs => (⟨[], none⟩, cs)
  | some '\\' :: [] => .stop .truncated
  | some '\\' :: some 'u' :: a :: b :: c :: d :: cs =>
    match unitValue? [a, b, c, d] with
    | some n => (scanString cs).cons (.unit n)
    | none => .stop .malformed
  | some '\\' :: some 'u' :: cs => .stop (if octetSize cs < 4 then .truncated else .malformed)
  | some '\\' :: some e :: cs =>
    match shortEscape? e with
    | some c => (scanString cs).cons (.char (some c))
    | none => .stop .malformed
  | some '\\' :: none :: _ => .stop .malformed
  | c :: cs => if isControl c then .stop .malformed else (scanString cs).cons (.char c)

/-! ### Numbers -/

def isDigit (c : Option Char) : Bool := c.any Char.isDigit

def digitsOf (cs : Source) : List Char := (cs.takeWhile isDigit).filterMap id

/-- The sign of an exponent and what follows it. -/
def cutSign : Source → Bool × Source
  | some '-' :: ds => (true, ds)
  | some '+' :: ds => (false, ds)
  | ds => (false, ds)

/-- Reads the exponent, if there is one. -/
def scanExponent (n : Numeral) (cs : Source) : Numeral × Source :=
  match cs with
  | c :: rest =>
    if c = some 'e' ∨ c = some 'E' then
      let (isNegative, digits) := cutSign rest
      if (digitsOf digits).isEmpty then ({ n with fault := some (faultAt digits) }, [])
      else ({ n with exponent := some (isNegative, digitsOf digits) }, digits.dropWhile isDigit)
    else (n, cs)
  | [] => (n, [])

/-- Reads the digits after the point, if there is one, and the exponent. -/
def scanFraction (n : Numeral) (cs : Source) : Numeral × Source :=
  match cs with
  | some '.' :: rest =>
    if (digitsOf rest).isEmpty then ({ n with fault := some (faultAt rest) }, [])
    else scanExponent { n with fraction := some (digitsOf rest) } (rest.dropWhile isDigit)
  | cs => scanExponent n cs

/-- Reads a number without its sign. A leading zero stands alone. -/
def scanNumber (isNegative : Bool) (cs : Source) : Numeral × Source :=
  let n : Numeral := ⟨isNegative, digitsOf cs, none, none, none⟩
  match digitsOf cs with
  | [] => ({ n with fault := some (faultAt cs) }, [])
  | '0' :: _ :: _ => ({ n with fault := some .malformed }, [])
  | _ => scanFraction n (cs.dropWhile isDigit)

/-! ### Tokens -/

/-- A token whose first character is known, with the rest of its letters still to come. -/
def scanWord (t : Token) : List Char → Source → Token × Source
  | [], cs => (t, cs)
  | _ :: _, [] => (.broken .truncated, [])
  | w :: ws, c :: cs => if c = some w then scanWord t ws cs else (.broken .malformed, [])

def isSpace (c : Option Char) : Bool :=
  c == some ' ' || c == some '\n' || c == some '\t' || c == some '\r'

/-- The token that starts with `c`, and what follows it. -/
def scan (c : Option Char) (cs : Source) : Token × Source :=
  match c with
  | some '[' => (.beginArray, cs)
  | some ']' => (.endArray, cs)
  | some '\x7b' => (.beginObject, cs)
  | some '\x7d' => (.endObject, cs)
  | some ',' => (.comma, cs)
  | some ':' => (.colon, cs)
  | some '"' => let (q, rest) := scanString cs; (.string q, rest)
  | some 'n' => scanWord .null "ull".toList cs
  | some 't' => scanWord (.bool true) "rue".toList cs
  | some 'f' => scanWord (.bool false) "alse".toList cs
  | some '-' => let (n, rest) := scanNumber true cs; (.number n, rest)
  | c =>
    if isDigit c then
      let (n, rest) := scanNumber false (c :: cs)
      (.number n, rest)
    else (.broken .malformed, [])

/-! ### Progress -/

theorem length_dropWhile_isDigit_le (cs : Source) :
    (cs.dropWhile isDigit).length ≤ cs.length := (List.dropWhile_sublist isDigit).length_le

theorem scanString_length (cs : Source) : (scanString cs).2.length ≤ cs.length := by
  fun_induction scanString cs <;>
    simp_all [StringCut.cons, StringCut.stop] <;> omega

theorem cutSign_length (cs : Source) : (cutSign cs).2.length ≤ cs.length := by
  unfold cutSign
  split <;> simp

theorem scanExponent_length (n : Numeral) (cs : Source) :
    (scanExponent n cs).2.length ≤ cs.length := by
  unfold scanExponent
  split
  · next c rest =>
    split
    · dsimp only
      split
      · simp
      · exact Nat.le_trans (length_dropWhile_isDigit_le _)
          (Nat.le_trans (cutSign_length rest) (Nat.le_succ _))
    · exact Nat.le_refl _
  · exact Nat.le_refl _

theorem scanFraction_length (n : Numeral) (cs : Source) :
    (scanFraction n cs).2.length ≤ cs.length := by
  unfold scanFraction
  split
  · next rest =>
    split
    · simp
    · refine Nat.le_trans (scanExponent_length _ _) ?_
      exact Nat.le_trans (length_dropWhile_isDigit_le rest) (Nat.le_succ _)
  · exact scanExponent_length n cs

theorem scanNumber_length {isNegative : Bool} {cs : Source} :
    (scanNumber isNegative cs).2.length ≤ (cs.dropWhile isDigit).length := by
  unfold scanNumber
  dsimp only
  split
  · simp
  · simp
  · exact scanFraction_length _ _

theorem scanWord_length (t : Token) (ws : List Char) (cs : Source) :
    (scanWord t ws cs).2.length ≤ cs.length := by
  fun_induction scanWord t ws cs with
  | case1 => exact Nat.le_refl _
  | case2 => exact Nat.le_refl _
  | case3 ws w cs ih => exact Nat.le_succ_of_le ih
  | case4 => exact Nat.zero_le _

theorem scan_length (c : Option Char) (cs : Source) : (scan c cs).2.length ≤ cs.length := by
  unfold scan
  split <;> try simp
  · exact scanString_length cs
  · exact scanWord_length _ _ cs
  · exact scanWord_length _ _ cs
  · exact scanWord_length _ _ cs
  · exact Nat.le_trans scanNumber_length (length_dropWhile_isDigit_le cs)
  · split
    · next h =>
      refine Nat.le_trans scanNumber_length ?_
      rw [List.dropWhile_cons_of_pos h]
      exact length_dropWhile_isDigit_le cs
    · simp

def lex : Source → List Token
  | [] => []
  | c :: cs =>
    if isSpace c then lex cs
    else (scan c cs).1 :: lex (scan c cs).2
termination_by cs => cs.length
decreasing_by
  · exact Nat.lt_succ_self _
  · exact Nat.lt_succ_of_le (scan_length c cs)

def Source.ofString (s : String) : Source := s.toList.map some

end InterceptAddons.Json
