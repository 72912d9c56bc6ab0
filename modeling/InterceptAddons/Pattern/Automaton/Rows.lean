import InterceptAddons.Text.CharSet
import InterceptAddons.Text.Utf8

/-!
# Sets of characters as rows of octets

An automaton reads octets, so a range of characters is cut into rows: a row is a range for each octet of
an encoded character, and it stands for every way to take one octet from each. The rows of a set are in
the order of its characters and have none in common.
-/

namespace InterceptAddons.Pattern

open InterceptAddons.Text

/-- The least and the greatest octet at each place. -/
abbrev Row := List (UInt8 × UInt8)

/-- The row from one character to another, both encoded in the same number of octets. -/
def rowOf (lo hi : Nat) : Row :=
  (String.utf8EncodeChar (Char.ofNat lo)).zip (String.utf8EncodeChar (Char.ofNat hi))

/-- Where a range that is no single row is cut first: after the last character of a length, else where the
octets that follow the first one that differs do not take all their values. -/
def cutAfter? (lo hi : Nat) : Option Nat :=
  [0x7F, 0x7FF, 0xFFFF].find? (fun m => lo ≤ m && m < hi) <|>
    if hi < 0x80 then none
    else
      [0x40, 0x1000, 0x40000].findSome? fun block =>
        if lo / block = hi / block then none
        else if lo % block ≠ 0 then some (lo / block * block + block - 1)
        else if hi % block ≠ block - 1 then some (hi / block * block - 1)
        else none

/-- The rows of the characters from `lo` to `hi`. -/
def rangeRows (lo hi : Nat) : List Row :=
  match cutAfter? lo hi with
  | some m =>
    if lo ≤ m ∧ m < hi then rangeRows lo m ++ rangeRows (m + 1) hi else [rowOf lo hi]
  | none => [rowOf lo hi]
termination_by hi - lo

/-- The rows of a set. The code points of halves of pairs are left out, for no text holds them. -/
def setRows (s : CharSet) : List Row :=
  s.ranges.flatMap fun (lo, hi) =>
    (if lo < 0xD800 then rangeRows lo (Nat.min hi 0xD7FF) else []) ++
      if 0xDFFF < hi then rangeRows (Nat.max lo 0xE000) hi else []

/-- Rows as a tree: each branch takes an octet of a range, as the last of a row or as a step to further
branches. -/
inductive Branches
  | nil
  | last (lo hi : UInt8) (more : Branches)
  | step (lo hi : UInt8) (next more : Branches)
  deriving Repr

/-- The tree of some rows, of which neighbours that start alike share their start. No row is longer than
the given depth. -/
def Branches.ofRows : Nat → List Row → Branches
  | 0, _ => .nil
  | depth + 1, rows =>
    (rows.splitBy fun a b => a.head? == b.head?).foldr
      (fun group more =>
        match group with
        | [(lo, hi)] :: _ => .last lo hi more
        | ((lo, hi) :: _) :: _ => .step lo hi (Branches.ofRows depth (group.map List.tail)) more
        | _ => more)
      .nil

end InterceptAddons.Pattern
