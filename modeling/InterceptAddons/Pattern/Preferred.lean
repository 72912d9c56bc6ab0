import InterceptAddons.Pattern.Regex

/-!
# The preferred match

Of the matches that start at one place a search prefers the first branch of an alternation, and more or
fewer repetitions as each operator says. `Regex.preferredEnd?` finds it by running a program of steps
depth first, entering no step twice at one place.
-/

namespace InterceptAddons.Pattern

open InterceptAddons.Text

/-- One step of a program; `split` tries its first target first. -/
inductive Step
  | set (s : CharSet)
  | look (l : Look)
  | split (first second : Nat)
  | jump (target : Nat)
  deriving Repr

def Regex.canBeEmpty : Regex → Bool
  | .empty => true
  | .look _ => true
  | .set _ => false
  | .cat a b => a.canBeEmpty && b.canBeEmpty
  | .alt a b => a.canBeEmpty || b.canBeEmpty
  | .rep r min _ _ => min == 0 || r.canBeEmpty

/-- A choice between going on at one step and leaving for another. -/
def choice (greedy : Bool) (on off : Nat) : Step := if greedy then .split on off else .split off on

def times (emit : Array Step → Array Step) : Nat → Array Step → Array Step
  | 0, p => p
  | n + 1, p => times emit n (emit p)

/-- Appends at most `n` repetitions, nested so that each can only follow the one before it. Answers the
places of the choices, whose way out is still open. -/
def optional (emit : Array Step → Array Step) : Nat → Array Step → Array Step × List Nat
  | 0, p => (p, [])
  | n + 1, p =>
    let (q, holes) := optional emit n (emit (p.push (.jump 0)))
    (q, p.size :: holes)

def plus (emit : Array Step → Array Step) (greedy : Bool) (p : Array Step) : Array Step :=
  let q := emit p
  q.push (choice greedy p.size (q.size + 1))

/-- Appends the program of an expression; it leaves by the end of the array. -/
def Regex.emit : Regex → Array Step → Array Step
  | .empty, p => p
  | .set s, p => p.push (.set s)
  | .look l, p => p.push (.look l)
  | .cat a b, p => b.emit (a.emit p)
  | .alt a b, p =>
    let q := a.emit (p.push (.jump 0))
    let q' := b.emit (q.push (.jump 0))
    (q'.setIfInBounds p.size (.split (p.size + 1) (q.size + 1))).setIfInBounds q.size (.jump q'.size)
  | .rep r min max greedy, p =>
    match max with
    | some max =>
      let p := times r.emit min p
      let (q, holes) := optional r.emit (max - min) p
      holes.foldl (fun q i => q.setIfInBounds i (choice greedy (i + 1) q.size)) q
    | none =>
      match min with
      | 0 =>
        if r.canBeEmpty then
          let q := plus r.emit greedy (p.push (.jump 0))
          q.setIfInBounds p.size (choice greedy (p.size + 1) q.size)
        else
          let q := (r.emit (p.push (.jump 0))).push (.jump p.size)
          q.setIfInBounds p.size (choice greedy (p.size + 1) q.size)
      | k + 1 => plus r.emit greedy (times r.emit k p)

/-- Runs a program from a stack of steps and places, the preferred first; `seen` marks the pairs already
entered. Each pair is entered once and adds at most two, which bounds `fuel`. -/
def search (program : Array Step) (text : Array Char) :
    Nat → Array Bool → List (Nat × Nat) → Option Nat
  | 0, _, _ => none
  | _, _, [] => none
  | fuel + 1, seen, (pc, i) :: stack =>
    let key := pc * (text.size + 1) + i
    if seen.getD key false then search program text fuel seen stack
    else
      let seen := seen.setIfInBounds key true
      let before := if i = 0 then none else text[i - 1]?
      match program[pc]? with
      | none => some i
      | some (.set s) =>
        search program text fuel seen
          (if text[i]?.any s.contains then (pc + 1, i + 1) :: stack else stack)
      | some (.look l) =>
        search program text fuel seen (if l.holds before text[i]? then (pc + 1, i) :: stack else stack)
      | some (.split a b) => search program text fuel seen ((a, i) :: (b, i) :: stack)
      | some (.jump a) => search program text fuel seen ((a, i) :: stack)

/-- Where the preferred match that starts a text ends. -/
def Regex.preferredEnd? (r : Regex) (text : List Char) : Option Nat :=
  let program := r.emit #[]
  let pairs := (program.size + 1) * (text.length + 1)
  search program text.toArray (2 * pairs + 2) (Array.replicate pairs false) [(0, 0)]

end InterceptAddons.Pattern
