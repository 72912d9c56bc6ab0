/-!
# Pattern syntax

What a pattern's source says, before its flags are applied: `Ast` for expressions and `ClassSet` for the
inside of brackets. `depth` is the nesting that the reader limits.
-/

namespace InterceptAddons.Pattern

/-- A character written in a pattern; `octet` marks one written as a backslash, `x` and two digits. -/
structure Scalar where
  char : Char
  octet : Bool := false
  deriving Repr, DecidableEq

/-- The classes `d`, `s` and `w`. -/
inductive ShortClass
  | digit | space | word
  deriving Repr, DecidableEq

/-- The named classes of ASCII characters, written between colons inside brackets. -/
inductive PosixClass
  | alnum | alpha | ascii | blank | cntrl | digit | graph | lower | print | punct | space | upper
  | word | xdigit
  deriving Repr, DecidableEq

/-- How a character property is named: by itself, or as a value that another property has or, if
`other`, does not have. -/
inductive PropertyName
  | plain (name : List Char)
  | valued (name : List Char) (other : Bool) (value : List Char)
  deriving Repr, DecidableEq

/-- Whether a name asks for the characters without the value that it gives. -/
def PropertyName.isOther : PropertyName → Bool
  | .plain _ => false
  | .valued _ other _ => other

/-- The assertions as written; what some of them test depends on the flags. -/
inductive Assertion
  | lineStart | lineEnd | textStart | textEnd
  | wordBoundary | notWordBoundary | wordStart | wordEnd | wordStartHalf | wordEndHalf
  deriving Repr, DecidableEq

/-- The operators between sets inside brackets. -/
inductive SetOperator
  | intersection | difference | symmetricDifference
  deriving Repr, DecidableEq

/-- The inside of brackets. -/
inductive ClassSet
  | empty
  | literal (s : Scalar)
  | range (lo hi : Scalar)
  | posix (k : PosixClass) (negated : Bool)
  | short (k : ShortClass) (negated : Bool)
  | property (p : PropertyName) (negated : Bool)
  | bracketed (negated : Bool) (inner : ClassSet)
  | union (items : List ClassSet)
  | operator (op : SetOperator) (lhs rhs : ClassSet)
  deriving Repr

/-- The flags a pattern can set. -/
inductive Flag
  | ignoreCase | multiLine | dotAll | swapGreed | unicode | crlf | verbose
  deriving Repr, DecidableEq

/-- A group of flag changes: each flag with the value it takes. -/
abbrev FlagChanges := List (Flag × Bool)

/-- An expression. -/
inductive Ast
  | empty
  | flags (changes : FlagChanges)
  | literal (s : Scalar)
  | dot
  | assertion (a : Assertion)
  | short (k : ShortClass) (negated : Bool)
  | property (p : PropertyName) (negated : Bool)
  | bracketed (negated : Bool) (inner : ClassSet)
  | repeated (inner : Ast) (min : Nat) (max : Option Nat) (greedy : Bool)
  | group (captures : Bool) (changes : FlagChanges) (inner : Ast)
  | alternation (branches : List Ast)
  | sequence (items : List Ast)
  deriving Repr

/-! ### Nesting -/

mutual

/-- How deep brackets, lists and operators nest. -/
def ClassSet.depth : ClassSet → Nat
  | .bracketed _ inner => inner.depth + 1
  | .union items => ClassSet.depthList items + 1
  | .operator _ l r => max l.depth r.depth + 1
  | _ => 0

def ClassSet.depthList : List ClassSet → Nat
  | [] => 0
  | s :: rest => max s.depth (ClassSet.depthList rest)

end

mutual

/-- How deep groups, repetitions, lists and brackets nest. -/
def Ast.depth : Ast → Nat
  | .bracketed _ inner => inner.depth + 1
  | .repeated inner _ _ _ => inner.depth + 1
  | .group _ _ inner => inner.depth + 1
  | .alternation branches => Ast.depthList branches + 1
  | .sequence items => Ast.depthList items + 1
  | _ => 0

def Ast.depthList : List Ast → Nat
  | [] => 0
  | a :: rest => max a.depth (Ast.depthList rest)

end

def nestingLimit : Nat := 250

end InterceptAddons.Pattern
