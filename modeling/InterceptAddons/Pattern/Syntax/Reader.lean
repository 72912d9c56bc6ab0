import InterceptAddons.Pattern.Syntax.Brackets
import InterceptAddons.Text.Unicode.Letters

/-!
# Reading a pattern

`Ast.read?` turns a pattern's source into its syntax, or answers nothing where the source is malformed:
unbalanced groups, operators without an operand, unknown escapes or flags, repeated names, nesting
beyond the limit.
-/

namespace InterceptAddons.Pattern

open InterceptAddons.Text

/-! ### Repetition -/

/-- A `?` after an operator makes it prefer fewer repetitions. Answers whether it is greedy. -/
def readGreed : List Char → Bool × List Char
  | '?' :: cs => (false, cs)
  | cs => (true, cs)

/-- The bounds of a counted repetition, without the braces, and the rest. -/
def readRange (verbose : Bool) (cs : List Char) : Option (Nat × Option Nat × List Char) :=
  let (least, cs) := readDecimal verbose (skip verbose cs)
  match cs with
  | ',' :: cs =>
    match skip verbose cs with
    | '\x7d' :: rest => least.map fun n => (n, none, '\x7d' :: rest)
    | cs => do
      let (most, cs) := readDecimal verbose cs
      return (← least, some (← most), cs)
  | cs => least.map fun n => (n, some n, cs)

/-- The bounds of a counted repetition after its opening brace, whether it is greedy, and the rest. -/
def readBounds (verbose : Bool) (cs : List Char) :
    Option (Nat × Option Nat × Bool × List Char) := do
  let (least, most, cs) ← readRange verbose cs
  let '\x7d' :: cs := cs | none
  if most.any (· < least) then none
  else
    match skip verbose cs with
    | '?' :: rest => return (least, most, false, rest)
    | _ => return (least, most, true, cs)

/-- Whether an operator may apply to the expression. -/
def Ast.isRepeatable : Ast → Bool
  | .empty | .flags _ => false
  | _ => true

/-! ### Groups -/

def Flag.ofLetter? : Char → Option Flag
  | 'i' => some .ignoreCase
  | 'm' => some .multiLine
  | 's' => some .dotAll
  | 'U' => some .swapGreed
  | 'u' => some .unicode
  | 'R' => some .crlf
  | 'x' => some .verbose
  | _ => none

/-- Flags up to the `:` or `)` that ends them, which is left in the rest. `off` says whether a hyphen
has been read and `dangling` whether it was the last character. No flag is named twice. -/
def readFlags : Bool → Bool → FlagChanges → List Char → Option (FlagChanges × List Char)
  | _, _, _, [] => none
  | off, dangling, changes, c :: cs =>
    if c = ':' ∨ c = ')' then if dangling then none else some (changes, c :: cs)
    else if c = '-' then if off then none else readFlags true true changes cs
    else
      match Flag.ofLetter? c with
      | none => none
      | some f =>
        if changes.any (·.1 = f) then none else readFlags off false (changes ++ [(f, !off)]) cs

def FlagChanges.value? (changes : FlagChanges) (f : Flag) : Option Bool :=
  (List.find? (·.1 = f) changes).map Prod.snd

def isNameChar (first : Bool) (c : Char) : Bool :=
  if first then c == '_' || isAlphabetic c
  else c == '_' || c == '.' || c == '[' || c == ']' || isAlphanumeric c

/-- A group's name up to its `>`. -/
def readName (cs : List Char) : Option (List Char × List Char) := do
  let first :: more := cs | none
  if !isNameChar true first then none
  let name := more.takeWhile (isNameChar false)
  let '>' :: rest := more.dropWhile (isNameChar false) | none
  return (first :: name, rest)

/-- What follows an opening parenthesis. -/
inductive GroupStart
  | flags (changes : FlagChanges)
  | group (captures : Bool) (changes : FlagChanges) (name : Option (List Char))
  deriving Repr

/-- Reads what follows an opening parenthesis, up to the content of the group. Look-around is refused. -/
def readGroupStart (verbose : Bool) (cs : List Char) : Option (GroupStart × List Char) :=
  match skip verbose cs with
  | '?' :: '=' :: _ | '?' :: '!' :: _ | '?' :: '<' :: '=' :: _ | '?' :: '<' :: '!' :: _ => none
  | '?' :: 'P' :: '<' :: rest => (readName rest).map fun (n, rest) => (.group true [] (some n), rest)
  | '?' :: '<' :: rest => (readName rest).map fun (n, rest) => (.group true [] (some n), rest)
  | '?' :: rest =>
    match readFlags false false [] rest with
    | some (changes, ')' :: after) =>
      if rest.head? == some ')' then none else some (.flags changes, after)
    | some (changes, ':' :: after) => some (.group false changes none, after)
    | _ => none
  | rest => some (.group true [] none, rest)

/-! ### Expressions -/

/-- What an unfinished expression waits for: the end of a group, with the items before it and the mode
outside of it, or further branches of an alternation. -/
inductive Frame
  | group (outer : List Ast) (captures : Bool) (changes : FlagChanges) (verbose : Bool)
  | alternation (branches : List Ast)
  deriving Repr

/-- The expression that a list of items, the last one first, stands for. -/
def itemsAst : List Ast → Ast
  | [] => .empty
  | [a] => a
  | items => .sequence items.reverse

/-- Completes the alternation on top of the stack, if there is one. -/
def closeAlternation (last : Ast) : List Frame → Ast × List Frame
  | .alternation branches :: stack => (.alternation (branches ++ [last]), stack)
  | stack => (last, stack)

/-- Where the reader stands: its mode, the names given so far, the unfinished expressions, and the items
of the innermost sequence, the last one first. -/
structure ReaderState where
  verbose : Bool := false
  names : List (List Char) := []
  stack : List Frame := []
  items : List Ast := []

namespace ReaderState

def push (s : ReaderState) (a : Ast) : ReaderState := { s with items := a :: s.items }

def repeatLast (s : ReaderState) (least : Nat) (most : Option Nat) (greedy : Bool) :
    Option ReaderState :=
  match s.items with
  | a :: items =>
    if a.isRepeatable then some { s with items := .repeated a least most greedy :: items } else none
  | [] => none

def branch (s : ReaderState) : ReaderState :=
  match s.stack with
  | .alternation branches :: stack =>
    { s with stack := .alternation (branches ++ [itemsAst s.items]) :: stack, items := [] }
  | stack => { s with stack := .alternation [itemsAst s.items] :: stack, items := [] }

/-- Opens a group, or changes flags for what follows. -/
def openGroup (s : ReaderState) : GroupStart → Option ReaderState
  | .flags changes =>
    some { s.push (.flags changes) with verbose := (changes.value? .verbose).getD s.verbose }
  | .group captures changes name =>
    if name.any s.names.contains then none
    else some { s with
      names := name.toList ++ s.names
      verbose := (changes.value? .verbose).getD s.verbose
      stack := .group s.items captures changes s.verbose :: s.stack
      items := [] }

def closeGroup (s : ReaderState) : Option ReaderState :=
  match closeAlternation (itemsAst s.items) s.stack with
  | (inner, .group outer captures changes verbose :: stack) =>
    some { s with verbose, stack, items := .group captures changes inner :: outer }
  | _ => none

def finish (s : ReaderState) : Option Ast :=
  match closeAlternation (itemsAst s.items) s.stack with
  | (a, []) => some a
  | _ => none

/-- Reads one element of the pattern. -/
def step (s : ReaderState) : List Char → Option (ReaderState × List Char)
  | [] => none
  | '(' :: cs => do
    let (start, rest) ← readGroupStart s.verbose cs
    return (← s.openGroup start, rest)
  | ')' :: cs => s.closeGroup.map (·, cs)
  | '|' :: cs => some (s.branch, cs)
  | '[' :: cs =>
    (readClass s.verbose cs).map fun (negated, inner, rest) => (s.push (.bracketed negated inner), rest)
  | '?' :: cs => let (greedy, rest) := readGreed cs; (s.repeatLast 0 (some 1) greedy).map (·, rest)
  | '*' :: cs => let (greedy, rest) := readGreed cs; (s.repeatLast 0 none greedy).map (·, rest)
  | '+' :: cs => let (greedy, rest) := readGreed cs; (s.repeatLast 1 none greedy).map (·, rest)
  | '\x7b' :: cs => do
    let (least, most, greedy, rest) ← readBounds s.verbose cs
    return (← s.repeatLast least most greedy, rest)
  | '\\' :: cs => do
    let (p, rest) ← readEscape s.verbose cs
    match p with
    | .literal c => return (s.push (.literal c), rest)
    | .assertion a => return (s.push (.assertion a), rest)
    | .short k negated => return (s.push (.short k negated), rest)
    | .property p negated => return (s.push (.property p negated), rest)
  | '.' :: cs => some (s.push .dot, cs)
  | '^' :: cs => some (s.push (.assertion .lineStart), cs)
  | '$' :: cs => some (s.push (.assertion .lineEnd), cs)
  | c :: cs => some (s.push (.literal ⟨c, false⟩), cs)

/-- Reads to the end. Every step takes at least one character, so `fuel` never runs out when it starts
above the length of the text. -/
def run : Nat → ReaderState → List Char → Option Ast
  | 0, _, _ => none
  | fuel + 1, s, cs =>
    match skip s.verbose cs with
    | [] => s.finish
    | cs => do
      let (s, rest) ← s.step cs
      run fuel s rest

end ReaderState

def Ast.read? (source : String) : Option Ast := do
  let a ← ReaderState.run (source.toList.length + 1) {} source.toList
  if a.depth ≤ nestingLimit then some a else none

end InterceptAddons.Pattern
