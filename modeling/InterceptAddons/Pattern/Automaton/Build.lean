/-!
# Counting states

An automaton is counted while it is made. Its states have numbers from zero on, and `Tally` holds how many
there are and how many octets their links take. `Build` is a part of the making, which stops where the
automaton outgrows the limit.
-/

namespace InterceptAddons.Pattern

/-- The way an automaton reads a text. -/
inductive Direction
  | forward | backward
  deriving Repr, DecidableEq

/-- The octets that an automaton may take. -/
def sizeLimit : Nat := 10 * 1024 * 1024

/-- The octets of one state without its links. -/
def stateSize : Nat := 32

/-- The octets of a link that reads an octet of a range. -/
def rangeLink : Nat := 8

/-- The octets of a link that reads nothing. -/
def plainLink : Nat := 4

/-- The states made so far, and the octets that their links take. -/
structure Tally where
  states : Nat := 0
  links : Nat := 0
  deriving Repr, DecidableEq

/-- Counts more states and links, within the limit. -/
def Tally.add (t : Tally) (states links : Nat) : Option Tally :=
  let t' : Tally := ⟨t.states + states, t.links + links⟩
  if stateSize * t'.states + t'.links ≤ sizeLimit then some t' else none

/-- A part of the making of an automaton; none where the automaton outgrows the limit. -/
structure Build where
  run : Tally → Option Tally

namespace Build

def states (count links : Nat) : Build := ⟨fun t => t.add count links⟩

def seq (a b : Build) : Build := ⟨fun t => (a.run t).bind b.run⟩

def all : List Build → Build
  | [] => ⟨some⟩
  | b :: bs => b.seq (all bs)

/-- What `n` steps in a row lead to. -/
def iterate (step : Tally → Option Tally) : Nat → Tally → Option Tally
  | 0, t => some t
  | n + 1, t =>
    match step t with
    | some t => iterate step n t
    | none => none

def times (b : Build) (n : Nat) : Build := ⟨fun t => iterate b.run n t⟩

end Build

end InterceptAddons.Pattern
