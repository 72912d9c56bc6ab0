import InterceptAddons.Pattern.Regex

/-!
# Normal forms

`Form` is an expression as its automaton is made from it. `Form.sequence`, `Form.alternation` and
`Form.repeated` simplify as they build: neighbouring literals are one literal, lists stand in no list of
their own kind, branches of one character each are a set, and what all branches start with stands before
them. None of this changes what an expression matches or which match it prefers; `Form.regex` forgets the
groups and leaves the expression that is matched.
-/

namespace InterceptAddons.Pattern

open InterceptAddons.Text

/-- An expression in normal form. -/
inductive Form
  | empty
  | literal (cs : List Char)
  | set (s : CharSet)
  | look (l : Look)
  | rep (f : Form) (min : Nat) (max : Option Nat) (greedy : Bool)
  | capture (f : Form)
  | cat (fs : List Form)
  | alt (fs : List Form)
  deriving Repr

namespace Form

/-! ### What a form is sure to take -/

mutual

/-- The least number of characters in a match; none where some part can match nothing at all. -/
def minLength : Form → Option Nat
  | .empty => some 0
  | .literal cs => some cs.length
  | .set s => if s.ranges.isEmpty then none else some 1
  | .look _ => some 0
  | .rep f min _ _ => f.minLength.map (· * min)
  | .capture f => f.minLength
  | .cat fs => sumLength fs
  | .alt fs => leastLength fs

def sumLength : List Form → Option Nat
  | [] => some 0
  | f :: fs => do return (← f.minLength) + (← sumLength fs)

/-- The least length of any of the forms. -/
def leastLength : List Form → Option Nat
  | [] => none
  | [f] => f.minLength
  | f :: fs => do return Nat.min (← f.minLength) (← leastLength fs)

end

mutual

/-- Whether a form can match nothing but the empty text. -/
def onlyEmpty : Form → Bool
  | .empty | .look _ => true
  | .literal _ | .set _ => false
  | .rep f _ max _ => f.onlyEmpty && max.isSome
  | .capture f => f.onlyEmpty
  | .cat fs | .alt fs => allOnlyEmpty fs

def allOnlyEmpty : List Form → Bool
  | [] => true
  | f :: fs => f.onlyEmpty && allOnlyEmpty fs

end

mutual

/-- Whether every match makes a test at its start. -/
def startsWith (l : Look) : Form → Bool
  | .look k => k = l
  | .rep f min _ _ => 0 < min && f.startsWith l
  | .capture f => f.startsWith l
  | .cat fs => someStarts l fs
  | .alt fs => allStart l fs
  | .empty | .literal _ | .set _ => false

def someStarts (l : Look) : List Form → Bool
  | [] => false
  | f :: fs => f.startsWith l || (f.onlyEmpty && someStarts l fs)

def allStart (l : Look) : List Form → Bool
  | [] => true
  | f :: fs => f.startsWith l && allStart l fs

end

mutual

/-- Whether every match makes a test at its end. -/
def endsWith (l : Look) : Form → Bool
  | .look k => k = l
  | .rep f min _ _ => 0 < min && f.endsWith l
  | .capture f => f.endsWith l
  | .cat fs => someEnds l fs
  | .alt fs => allEnd l fs
  | .empty | .literal _ | .set _ => false

def someEnds (l : Look) : List Form → Bool
  | [] => false
  | f :: fs => someEnds l fs || (allOnlyEmpty fs && f.endsWith l)

def allEnd (l : Look) : List Form → Bool
  | [] => true
  | f :: fs => f.endsWith l && allEnd l fs

end

mutual

/-- Whether two forms are the same. Two groups never are, for each has a number of its own. -/
def same : Form → Form → Bool
  | .empty, .empty => true
  | .literal a, .literal b => a == b
  | .set s, .set t => s == t
  | .look k, .look l => k == l
  | .rep f min max greedy, .rep f' min' max' greedy' =>
    f.same f' && min == min' && max == max' && greedy == greedy'
  | .cat fs, .cat gs | .alt fs, .alt gs => sameAll fs gs
  | _, _ => false

def sameAll : List Form → List Form → Bool
  | [], [] => true
  | f :: fs, g :: gs => f.same g && sameAll fs gs
  | _, _ => false

end

/-! ### Building -/

/-- The form of a set: a set of one character is a literal. -/
def ofSet (s : CharSet) : Form :=
  match s.ranges with
  | [(lo, hi)] => if lo = hi then .literal [Char.ofNat lo] else .set s
  | _ => .set s

/-- The items that a form puts into a sequence. -/
def items : Form → List Form
  | .empty => []
  | .cat fs => fs
  | f => [f]

def joinLiterals : List Form → List Form
  | [] => []
  | .literal a :: fs =>
    match joinLiterals fs with
    | .literal b :: more => .literal (a ++ b) :: more
    | more => .literal a :: more
  | f :: fs => f :: joinLiterals fs

def sequence (fs : List Form) : Form :=
  match joinLiterals (fs.flatMap items) with
  | [] => .empty
  | [f] => f
  | fs => .cat fs

/-- Repetition. What can match only the empty text is repeated once at most. -/
def repeated (f : Form) (min : Nat) (max : Option Nat) (greedy : Bool) : Form :=
  let min := if f.onlyEmpty then Nat.min min 1 else min
  let max := if f.onlyEmpty then some ((max.map (Nat.min 1)).getD 1) else max
  if max = some 0 then .empty
  else if min = 1 ∧ max = some 1 then f
  else .rep f min max greedy

def branches : Form → List Form
  | .alt fs => fs
  | f => [f]

/-- The characters of a branch that is a literal of one character. -/
def oneChar? : Form → Option CharSet
  | .literal [c] => some (CharSet.single c)
  | _ => none

def chars? : Form → Option CharSet
  | .set s => some s
  | _ => none

def unionAll (ss : List CharSet) : CharSet := CharSet.ofRanges (ss.flatMap CharSet.ranges)

/-- The form of a list of branches, none of which is an alternation; `lift` may take out what all of
several branches start with. -/
def choose (lift : List Form → Option Form) : List Form → Form
  | [] => .set CharSet.empty
  | [f] => f
  | fs =>
    match fs.mapM oneChar? <|> fs.mapM chars? with
    | some ss => ofSet (unionAll ss)
    | none => (lift fs).getD (.alt fs)

def sequence? : Form → Option (List Form)
  | .cat fs => some fs
  | _ => none

def sharedItems : List Form → List Form → List Form
  | f :: fs, g :: gs => if f.same g then f :: sharedItems fs gs else []
  | _, _ => []

/-- Puts what several sequences start with before them. What is left of them shares no first item. -/
def liftShared (fs : List Form) : Option Form := do
  let first :: more ← fs.mapM sequence? | none
  let shared := more.foldl sharedItems first
  if shared.isEmpty then none
  let rest := (first :: more).map fun items => sequence (items.drop shared.length)
  return sequence (shared ++ [choose (fun _ => none) (rest.flatMap branches)])

/-- Any one of some forms, the earlier ones preferred. -/
def alternation (fs : List Form) : Form := choose liftShared (fs.flatMap branches)

/-! ### The expression that is matched -/

mutual

def regex : Form → Regex
  | .empty => .empty
  | .literal cs => Regex.catAll (cs.map fun c => .set (CharSet.single c))
  | .set s => .set s
  | .look l => .look l
  | .rep f min max greedy => .rep f.regex min max greedy
  | .capture f => f.regex
  | .cat fs => Regex.catAll (regexes fs)
  | .alt fs => Regex.altAll (regexes fs)

def regexes : List Form → List Regex
  | [] => []
  | f :: fs => f.regex :: regexes fs

end

end Form

end InterceptAddons.Pattern
