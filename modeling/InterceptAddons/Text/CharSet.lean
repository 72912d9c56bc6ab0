import InterceptAddons.Text.Numeral

/-!
# Sets of characters

A set of characters is an increasing list of inclusive ranges of code points. The operations keep the
ranges increasing and apart; `CharSet.read` takes a table written in hexadecimal.
-/

namespace InterceptAddons.Text

/-- A set of characters, as inclusive ranges of code points. -/
structure CharSet where
  ranges : List (Nat × Nat)
  deriving Repr, DecidableEq

namespace CharSet

def empty : CharSet := ⟨[]⟩

def all : CharSet := ⟨[(0, 0x10FFFF)]⟩

def range (lo hi : Char) : CharSet := ⟨[(lo.toNat, hi.toNat)]⟩

def single (c : Char) : CharSet := range c c

/-- Whether a character lies in the set; the search ends at the first range above it. -/
def contains (s : CharSet) (c : Char) : Bool :=
  go s.ranges c.toNat
where
  go : List (Nat × Nat) → Nat → Bool
    | [], _ => false
    | (lo, hi) :: rest, n => if n < lo then false else n ≤ hi || go rest n

/-! ### Operations -/

/-- Joins a range with those that it touches, in a list ordered by lower bound. -/
def joinFrom (lo hi : Nat) : List (Nat × Nat) → List (Nat × Nat)
  | [] => [(lo, hi)]
  | (lo', hi') :: rest =>
    if lo' ≤ hi + 1 then joinFrom lo (max hi hi') rest else (lo, hi) :: joinFrom lo' hi' rest

/-- Joins ranges that touch, in a list ordered by lower bound. -/
def join : List (Nat × Nat) → List (Nat × Nat)
  | [] => []
  | (lo, hi) :: rest => joinFrom lo hi rest

/-- The set that a list of ranges in any order covers. -/
def ofRanges (rs : List (Nat × Nat)) : CharSet :=
  ⟨join (rs.mergeSort fun a b => a.1 ≤ b.1)⟩

def union (s t : CharSet) : CharSet := ofRanges (s.ranges ++ t.ranges)

/-- The characters from `n` on that lie in no range of the list. -/
def gaps : Nat → List (Nat × Nat) → List (Nat × Nat)
  | n, [] => if n ≤ 0x10FFFF then [(n, 0x10FFFF)] else []
  | n, (lo, hi) :: rest => if n < lo then (n, lo - 1) :: gaps (hi + 1) rest else gaps (hi + 1) rest

def complement (s : CharSet) : CharSet := ⟨gaps 0 s.ranges⟩

def inter (s t : CharSet) : CharSet := (s.complement.union t.complement).complement

def diff (s t : CharSet) : CharSet := s.inter t.complement

def symmDiff (s t : CharSet) : CharSet := (s.union t).diff (s.inter t)

/-- Whether some character lies in both the set and the list. -/
def meets (s : CharSet) (cs : List Char) : Bool := cs.any s.contains

def isAscii (s : CharSet) : Bool := s.ranges.all fun r => r.2 < 0x80

/-! ### Tables -/

/-- Reads `lo` or `lo-hi` entries parted by spaces; `acc` holds the bounds of the entry being read. -/
def readEntries : List Char → Option Nat → Nat → List (Nat × Nat)
  | [], lo, n => [(lo.getD n, n)]
  | ' ' :: cs, lo, n => (lo.getD n, n) :: readEntries cs none 0
  | '-' :: cs, _, n => readEntries cs (some n) 0
  | c :: cs, lo, n => readEntries cs lo (16 * n + (hexValue? c).getD 0)

/-- The set that the lines of a table of hexadecimal ranges list, in increasing order. -/
def read (table : List String) : CharSet :=
  ⟨readEntries (String.intercalate " " table).toList none 0⟩

end CharSet

end InterceptAddons.Text
