import InterceptAddons.Json.Token
import InterceptAddons.Text.Shortest

/-!
# Numbers

What a numeral denotes, and how a number is written. Integers of 64 bits are kept exactly, and any other
numeral becomes a floating-point number: its leading digits are taken as a word and scaled by powers of
ten. A number too large for that is malformed.
-/

namespace InterceptAddons.Json

open InterceptAddons.Text

/-- A number. -/
inductive Number
  | integer (n : Int)
  | real (x : Float)
  deriving Repr

/-! ### From numerals -/

/-- The digits of a numeral as far as a word of 64 bits holds them. -/
structure Significand where
  word : UInt64
  deriving Repr, DecidableEq

/-- One more digit, if the word still holds the number. -/
def Significand.push? (s : Significand) (d : Char) : Option Significand :=
  let n := 10 * s.word.toNat + (d.toNat - '0'.toNat)
  if n < 0x10000000000000000 then some ⟨UInt64.ofNat n⟩ else none

/-- Takes digits until the word is full; the digits left over come with it. -/
def Significand.pushAll (s : Significand) : List Char → Significand × List Char
  | [] => (s, [])
  | d :: ds =>
    match s.push? d with
    | some s' => s'.pushAll ds
    | none => (s, d :: ds)

def tenTo (n : Nat) : Float := Float.ofScientific 1 false n

/-- Multiplies a number by ten to the power `e`. -/
def scaleBy (x : Float) (e : Int) : Except Fault Float :=
  if -308 ≤ e ∧ e ≤ 308 then
    if 0 ≤ e then
      let y := x * tenTo e.toNat
      if y.isInf then .error .malformed else .ok y
    else .ok (x / tenTo (-e).toNat)
  else if x == 0 then .ok x
  else if 0 ≤ e then .error .malformed
  else scaleBy (x / tenTo 308) (e + 308)
termination_by e.natAbs
decreasing_by omega

/-- The greatest exponent that is read as a number. -/
def maxExponent : Nat := 0x7FFFFFFF

/-- A significand with the exponent of a numeral. -/
def scaleSignificand (s : Significand) (start : Int) (exponent : Option (Bool × List Char)) :
    Except Fault Float :=
  match exponent with
  | none => scaleBy s.word.toFloat start
  | some (isNegative, digits) =>
    let e := ((numeralValue? 10 digits).getD 0 : Nat)
    if maxExponent < e then
      if s.word != 0 && !isNegative then .error .malformed else .ok 0
    else scaleBy s.word.toFloat (if isNegative then start - e else start + e)

/-- The floating-point number of a numeral without its sign. -/
def Numeral.real (n : Numeral) : Except Fault Float :=
  let (s, left) := Significand.pushAll ⟨0⟩ n.whole
  let (t, more) := s.pushAll (n.fraction.getD [])
  let taken := (n.fraction.getD []).length - more.length
  scaleSignificand t (left.length - taken) n.exponent

/-- The integer that a numeral without its sign denotes, if it has no point and no exponent and a word
holds it. -/
def Numeral.word? (n : Numeral) : Option Nat :=
  match Significand.pushAll ⟨0⟩ n.whole, n.fraction, n.exponent with
  | (s, []), none, none => some s.word.toNat
  | _, _, _ => none

/-- The number that a numeral denotes. Zero with a minus sign is no integer. -/
def Numeral.value (n : Numeral) : Except Fault Number :=
  match n.fault with
  | some f => .error f
  | none =>
    match n.word? with
    | some w =>
      if !n.isNegative then .ok (.integer w)
      else if 0 < w ∧ w ≤ 0x8000000000000000 then .ok (.integer (-(w : Int)))
      else .ok (.real (-(UInt64.ofNat w).toFloat))
    | none => n.real.map fun x => .real (if n.isNegative then -x else x)

/-! ### Writing -/

/-- The least and the greatest exponent of a number that is written without one. -/
def positional (e : Int) : Bool := -5 ≤ e && e ≤ 15

def exponentChars (e : Int) : List Char :=
  (if e < 0 then '-' else '+') :: Nat.toDigits 10 e.natAbs

/-- A decimal as it is written, with a point in it or an exponent behind it. -/
def decimalChars (d : Decimal) : List Char :=
  let digits := Nat.toDigits 10 d.digits
  let point := d.exponent + digits.length
  if positional (point - 1) then
    if 0 ≤ d.exponent then digits ++ List.replicate d.exponent.toNat '0' ++ ['.', '0']
    else if 0 < point then digits.take point.toNat ++ '.' :: digits.drop point.toNat
    else '0' :: '.' :: List.replicate (-point).toNat '0' ++ digits
  else
    match digits with
    | [] => []
    | [c] => c :: 'e' :: exponentChars (point - 1)
    | c :: cs => c :: '.' :: cs ++ 'e' :: exponentChars (point - 1)

/-- A finite floating-point number as it is written: the shortest digits that determine it. -/
def floatChars (x : Float) : List Char :=
  let sign := if x.toBits.toNat < 0x8000000000000000 then [] else ['-']
  if x == 0 then sign ++ ['0', '.', '0'] else sign ++ decimalChars (Binary.ofFloat x).shortest

def Number.chars : Number → List Char
  | .integer n => (toString n).toList
  | .real x => floatChars x

end InterceptAddons.Json
