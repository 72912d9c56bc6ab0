import InterceptAddons.Pattern.Syntax.Escape

/-!
# Bracketed classes

Reads a class between brackets, with nested classes, ranges, named ASCII classes and the operators
`&&`, `--` and `~~`, which bind alike and to the left.
-/

namespace InterceptAddons.Pattern

/-- What an unfinished class waits for: the end of an inner class, or the right side of an operator. -/
inductive ClassFrame
  | inner (outer : List ClassSet) (negated : Bool)
  | operator (op : SetOperator) (lhs : ClassSet)
  deriving Repr

/-- The set that a list of items, the last one first, stands for. -/
def itemsSet : List ClassSet → ClassSet
  | [] => .empty
  | [s] => s
  | items => .union items.reverse

/-- Completes the operator on top of the stack, if there is one. -/
def closeOperator (rhs : ClassSet) : List ClassFrame → ClassSet × List ClassFrame
  | .operator op lhs :: stack => (.operator op lhs rhs, stack)
  | stack => (rhs, stack)

def PosixClass.ofName? : String → Option PosixClass
  | "alnum" => some .alnum
  | "alpha" => some .alpha
  | "ascii" => some .ascii
  | "blank" => some .blank
  | "cntrl" => some .cntrl
  | "digit" => some .digit
  | "graph" => some .graph
  | "lower" => some .lower
  | "print" => some .print
  | "punct" => some .punct
  | "space" => some .space
  | "upper" => some .upper
  | "word" => some .word
  | "xdigit" => some .xdigit
  | _ => none

/-- Whether a class opens with a `^`, and what follows it. -/
def readCaret : List Char → Bool × List Char
  | '^' :: cs => (true, cs)
  | cs => (false, cs)

/-- A named ASCII class after its opening bracket; nothing where the text is not one. -/
def readPosix (cs : List Char) : Option (ClassSet × List Char) := do
  let ':' :: cs := cs | none
  let (negated, cs) := readCaret cs
  let rest := cs.dropWhile (· != ':')
  let ':' :: ']' :: rest := rest | none
  let k ← PosixClass.ofName? (String.ofList (cs.takeWhile (· != ':')))
  return (.posix k negated, rest)

/-- The start of a class after its bracket: a `^`, literal hyphens, and a literal `]` if it comes first.
Answers the items read, the last one first. -/
def openClass (verbose : Bool) (cs : List Char) : Option (Bool × List ClassSet × List Char) :=
  let (negated, cs) := readCaret (skip verbose cs)
  let (hyphens, cs) := takeSpaced verbose (· == '-') (skip verbose cs)
  let items := hyphens.map fun c => ClassSet.literal ⟨c, false⟩
  match items, cs with
  | [], ']' :: rest =>
    match skip verbose rest with
    | [] => none
    | rest => some (negated, [.literal ⟨']', false⟩], rest)
  | _, [] => none
  | items, cs => some (negated, items, cs)

def readClassPrimitive (verbose : Bool) : List Char → Option (Primitive × List Char)
  | [] => none
  | '\\' :: cs => readEscape verbose cs
  | c :: cs => some (.literal ⟨c, false⟩, cs)

def Primitive.item? : Primitive → Option ClassSet
  | .literal s => some (.literal s)
  | .short k negated => some (.short k negated)
  | .property p negated => some (.property p negated)
  | _ => none

/-- A primitive, or a range between two. -/
def readClassItem (verbose : Bool) (cs : List Char) : Option (ClassSet × List Char) := do
  let (first, cs) ← readClassPrimitive verbose cs
  match skip verbose cs with
  | [] => none
  | '-' :: rest =>
    if peek verbose rest == some ']' || peek verbose rest == some '-' then
      return (← first.item?, '-' :: rest)
    else
      let (second, rest) ← readClassPrimitive verbose (skip verbose rest)
      match first, second with
      | .literal lo, .literal hi => if lo.char ≤ hi.char then return (.range lo hi, rest) else none
      | _, _ => none
  | cs => return (← first.item?, cs)

/-- Reads up to the bracket that closes the outermost class. `items` are those of the innermost open
class, the last one first, and every step takes at least one character, so `fuel` never runs out when it
starts at the length of the text. -/
def readClassItems (verbose : Bool) : Nat → List ClassFrame → List ClassSet → List Char →
    Option (Bool × ClassSet × List Char)
  | 0, _, _, _ => none
  | fuel + 1, stack, items, cs =>
    let operator (op : SetOperator) (rest : List Char) :=
      let (lhs, stack) := closeOperator (itemsSet items) stack
      readClassItems verbose fuel (.operator op lhs :: stack) [] rest
    match skip verbose cs with
    | [] => none
    | '[' :: rest =>
      match readPosix rest with
      | some (s, rest) => readClassItems verbose fuel stack (s :: items) rest
      | none => do
        let (negated, inner, rest) ← openClass verbose rest
        readClassItems verbose fuel (.inner items negated :: stack) inner rest
    | ']' :: rest =>
      match closeOperator (itemsSet items) stack with
      | (s, [.inner _ negated]) => some (negated, s, rest)
      | (s, .inner outer negated :: stack) =>
        readClassItems verbose fuel stack (.bracketed negated s :: outer) rest
      | _ => none
    | '&' :: '&' :: rest => operator .intersection rest
    | '-' :: '-' :: rest => operator .difference rest
    | '~' :: '~' :: rest => operator .symmetricDifference rest
    | cs => do
      let (s, rest) ← readClassItem verbose cs
      readClassItems verbose fuel stack (s :: items) rest

/-- A class after its opening bracket: whether it is negated, its set, and the rest. -/
def readClass (verbose : Bool) (cs : List Char) : Option (Bool × ClassSet × List Char) := do
  let (negated, items, rest) ← openClass verbose cs
  readClassItems verbose (cs.length + 1) [.inner [] negated] items rest

end InterceptAddons.Pattern
