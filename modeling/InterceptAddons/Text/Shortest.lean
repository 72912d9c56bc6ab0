/-!
# Shortest decimals

The fewest decimal digits that determine a positive floating-point number of 64 bits. Such a number is
`m * 2 ^ q`, and the reals between its neighbours' midpoints round to it, the midpoints themselves when `m`
is even. For one digit, two digits and so on, the two points of the decimal grid around the number are
tried; the first grid with a hit wins. Everything is computed in natural numbers, scaled by `scale`.
-/

namespace InterceptAddons.Text

/-- A positive decimal `digits * 10 ^ exponent`. -/
structure Decimal where
  digits : Nat
  exponent : Int
  deriving Repr, DecidableEq

/-- The number `m * 2 ^ (e - 1074)`, for `m < 2 ^ 53`. -/
structure Binary where
  m : Nat
  e : Nat
  deriving Repr, DecidableEq

namespace Binary

/-- A power of ten above the inverse of the smallest number. -/
def shift : Nat := 400

/-- What all numbers are multiplied by. -/
def scale : Nat := Nat.pow 10 shift <<< 1076

/-- The number of quarters of a unit `2 ^ (e - 1074)`, scaled. -/
def quarters (x : Binary) (n : Nat) : Nat := n * Nat.pow 10 shift <<< x.e

/-- The number, scaled. -/
def value (x : Binary) : Nat := x.quarters (4 * x.m)

/-- The bit that leads the digits of all but the smallest numbers. -/
def leadingBit : Nat := 0x10000000000000

/-- The midpoint to the next smaller number, scaled; below a power of two numbers are twice as dense. -/
def lower (x : Binary) : Nat :=
  x.quarters (if x.m = leadingBit ∧ 0 < x.e then 4 * x.m - 1 else 4 * x.m - 2)

/-- The midpoint to the next greater number, scaled. -/
def upper (x : Binary) : Nat := x.quarters (4 * x.m + 2)

/-- Whether a scaled real rounds to the number. -/
def covers (x : Binary) (r : Nat) : Bool :=
  if x.m % 2 = 0 then x.lower ≤ r && r ≤ x.upper else x.lower < r && r < x.upper

/-- The exponent of the power of ten above the number, shifted. -/
def magnitude (x : Binary) : Nat := (Nat.toDigits 10 (x.value >>> 1076)).length

/-- The point nearer to the number, of the two around it on the grid of multiples of `unit`; an exact tie
goes to the even multiple. -/
def nearer (x : Binary) (unit : Nat) : Nat :=
  let k := x.value / unit
  let low := x.value - k * unit
  let high := (k + 1) * unit - x.value
  if low < high then k else if high < low then k + 1 else if k % 2 = 0 then k else k + 1

/-- The multiple of `unit` that determines the number, if one of the two around it does. -/
def onGrid? (x : Binary) (unit : Nat) : Option Nat :=
  let k := x.value / unit
  match x.covers (k * unit), x.covers ((k + 1) * unit) with
  | true, true => some (x.nearer unit)
  | true, false => some k
  | false, true => some (k + 1)
  | false, false => none

/-- Tries grids from `n` digits on; `left` more grids may be tried. -/
def search (x : Binary) (n left : Nat) : Decimal :=
  let exponent : Int := (x.magnitude : Int) - shift - n
  let unit := Nat.pow 10 (x.magnitude - n) <<< 1076
  match left, x.onGrid? unit with
  | _, some k => ⟨k, exponent⟩
  | 0, none => ⟨x.value / unit, exponent⟩
  | left + 1, none => search x (n + 1) left

end Binary

def Decimal.trim (d : Decimal) : Nat → Decimal
  | 0 => d
  | fuel + 1 => if d.digits % 10 = 0 then trim ⟨d.digits / 10, d.exponent + 1⟩ fuel else d

/-- The shortest decimal that determines the number. -/
def Binary.shortest (x : Binary) : Decimal := (x.search 1 16).trim 17

/-- The parts of a finite floating-point number other than zero, without its sign. -/
def Binary.ofFloat (x : Float) : Binary :=
  let bits := x.toBits.toNat
  let e := bits / leadingBit % 0x800
  let f := bits % leadingBit
  if e = 0 then ⟨f, 0⟩ else ⟨leadingBit + f, e - 1⟩

end InterceptAddons.Text
