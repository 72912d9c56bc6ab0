import InterceptAddons.Pattern.Automaton.Build
import InterceptAddons.Pattern.Automaton.Rows
import Std.Data.HashMap

/-!
# The states of a set of characters

A set in an automaton that reads forward is the tree of its rows, with one state for equal sets of links.
In one that reads backward it is a chain of states for each row, and rows that start alike share the end
of their chains. A table of bounded size remembers the states made so far: of two states with one place in
it the later stays, and the earlier is made again when it is needed again.
-/

namespace InterceptAddons.Pattern

open InterceptAddons.Text

/-- The making of a set's states: the tally, and which state each place of the table remembers for which
key. -/
structure Sharing (κ : Type) where
  tally : Tally
  made : Std.HashMap Nat (κ × Nat) := ∅

/-- The place of a key's numbers in a table: each number is mixed in by a sum without carry and a product
modulo 2 to the 64. -/
def tablePlace (size : Nat) (numbers : List UInt64) : Nat :=
  (numbers.foldl (fun h n => (h ^^^ n) * 1099511628211) 14695981039346656037).toNat % size

/-- The state that the table remembers at a place for a key. -/
def Sharing.known? {κ : Type} [DecidableEq κ] (s : Sharing κ) (place : Nat) (key : κ) : Option Nat :=
  match s.made[place]? with
  | some (key', i) => if key' = key then some i else none
  | none => none

/-- Makes a state, which takes its place in the table. -/
def Sharing.make {κ : Type} (s : Sharing κ) (place : Nat) (key : κ) (links : Nat) :
    Option (Nat × Sharing κ) :=
  match s with
  | ⟨tally, made⟩ =>
    (tally.add 1 links).map fun t =>
      (tally.states, { tally := t, made := made.insert place (key, tally.states) })

/-- The state for a key: the one that the table remembers, or a new one. -/
def Sharing.state {κ : Type} [DecidableEq κ] (s : Sharing κ) (place : Nat) (key : κ) (links : Nat) :
    Option (Nat × Sharing κ) :=
  match s.known? place key with
  | some i => some (i, s)
  | none => s.make place key links

/-- The links of a state that reads an octet: the least and the greatest octet, and where it leads. -/
abbrev Links := List (UInt8 × UInt8 × Nat)

def linksState (links : Links) (s : Sharing Links) : Option (Nat × Sharing Links) :=
  let numbers := links.flatMap fun (lo, hi, next) => [lo.toUInt64, hi.toUInt64, next.toUInt64]
  s.state (tablePlace 10000 numbers) links (rangeLink * links.length)

/-- The links of a state with some branches, the last of which lead to `target`. States with equal links
are one state. -/
def Branches.share (target : Nat) : Branches → Sharing Links → Option (Links × Sharing Links)
  | .nil, s => some ([], s)
  | .last lo hi more, s => do
    let (links, s) ← more.share target s
    return ((lo, hi, target) :: links, s)
  | .step lo hi next more, s => do
    let (links, s) ← next.share target s
    let (i, s) ← linksState links s
    let (links, s) ← more.share target s
    return ((lo, hi, i) :: links, s)

/-- The states that read a row from its last octet to its first, where `last` goes on. -/
def chainRow (row : Row) (last : Nat) (s : Sharing (Nat × UInt8 × UInt8)) :
    Option (Nat × Sharing (Nat × UInt8 × UInt8)) :=
  row.foldlM
    (fun (next, s) (lo, hi) =>
      s.state (tablePlace 1000 [next.toUInt64, lo.toUInt64, hi.toUInt64]) (next, lo, hi) 0)
    (last, s)

/-- The making of a set of characters: links to one end if they are all ASCII, rows otherwise. -/
def setBuild (d : Direction) (s : CharSet) : Build :=
  if s.isAscii then .states 2 (rangeLink * s.ranges.length)
  else
    let rows := setRows s
    match d with
    | .forward =>
      let branches := Branches.ofRows 4 rows
      ⟨fun t => do
        let (links, s) ← branches.share t.states { tally := ← t.add 1 0 }
        let (_, s) ← linksState links s
        return s.tally⟩
    | .backward =>
      ⟨fun t => do
        let next ← t.add 2 (plainLink * rows.length)
        let s ← rows.foldlM
          (fun s row => (chainRow row (t.states + 1) s).map Prod.snd) { tally := next }
        return s.tally⟩

end InterceptAddons.Pattern
