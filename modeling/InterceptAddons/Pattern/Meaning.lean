import InterceptAddons.Pattern.Automaton.Size
import InterceptAddons.Pattern.Syntax.Reader
import InterceptAddons.Pattern.Unicode.Fold
import InterceptAddons.Pattern.Unicode.Named

/-!
# From syntax to expressions

`Ast.form?` applies the flags in force at each place. Without the flag `u` a class holds ASCII alone: a
class that would reach beyond it, and a property, are refused, for a text is never cut inside a
character. A change of flags lasts to the end of its group, also across the branches of an alternation.
-/

namespace InterceptAddons.Pattern

open InterceptAddons.Text

/-- The flags in force. -/
structure Flags where
  ignoreCase : Bool := false
  multiLine : Bool := false
  dotAll : Bool := false
  swapGreed : Bool := false
  unicode : Bool := true
  crlf : Bool := false
  deriving Repr, DecidableEq

def Flags.change (f : Flags) (changes : FlagChanges) : Flags where
  ignoreCase := (changes.value? .ignoreCase).getD f.ignoreCase
  multiLine := (changes.value? .multiLine).getD f.multiLine
  dotAll := (changes.value? .dotAll).getD f.dotAll
  swapGreed := (changes.value? .swapGreed).getD f.swapGreed
  unicode := (changes.value? .unicode).getD f.unicode
  crlf := (changes.value? .crlf).getD f.crlf

/-! ### Sets -/

def asciiChars : CharSet := ⟨[(0, 0x7F)]⟩

def PosixClass.chars : PosixClass → CharSet
  | .alnum => ⟨[(0x30, 0x39), (0x41, 0x5A), (0x61, 0x7A)]⟩
  | .alpha => ⟨[(0x41, 0x5A), (0x61, 0x7A)]⟩
  | .ascii => asciiChars
  | .blank => ⟨[(0x09, 0x09), (0x20, 0x20)]⟩
  | .cntrl => ⟨[(0x00, 0x1F), (0x7F, 0x7F)]⟩
  | .digit => ⟨[(0x30, 0x39)]⟩
  | .graph => ⟨[(0x21, 0x7E)]⟩
  | .lower => ⟨[(0x61, 0x7A)]⟩
  | .print => ⟨[(0x20, 0x7E)]⟩
  | .punct => ⟨[(0x21, 0x2F), (0x3A, 0x40), (0x5B, 0x60), (0x7B, 0x7E)]⟩
  | .space => ⟨[(0x09, 0x0D), (0x20, 0x20)]⟩
  | .upper => ⟨[(0x41, 0x5A)]⟩
  | .word => ⟨[(0x30, 0x39), (0x41, 0x5A), (0x5F, 0x5F), (0x61, 0x7A)]⟩
  | .xdigit => ⟨[(0x30, 0x39), (0x41, 0x46), (0x61, 0x66)]⟩

def ShortClass.chars (unicode : Bool) : ShortClass → CharSet
  | .digit => if unicode then Unicode.digitChars else PosixClass.digit.chars
  | .space => if unicode then blank else PosixClass.space.chars
  | .word => if unicode then Unicode.wordChars else PosixClass.word.chars

/-- Adds the other cases of the members, if case is ignored. -/
def Flags.foldSet (f : Flags) (s : CharSet) : CharSet :=
  if !f.ignoreCase then s
  else if f.unicode then Unicode.fold s
  else (Unicode.fold s).inter asciiChars

/-- Negates a set if asked to; without `u` the result would leave ASCII. -/
def Flags.negate? (f : Flags) (negated : Bool) (s : CharSet) : Option CharSet :=
  if !negated then some s else if f.unicode then some s.complement else none

/-- The character that a literal stands for; without `u` an octet above 127 stands for none. -/
def Flags.char? (f : Flags) (s : Scalar) : Option Char :=
  if !f.unicode && s.octet && s.char.toNat ≥ 0x80 then none else some s.char

/-- The character that a literal stands for inside brackets; without `u` it must be ASCII. -/
def Flags.classChar? (f : Flags) (s : Scalar) : Option Char :=
  if !f.unicode && s.char.toNat ≥ 0x80 then none else some s.char

def Flags.shortSet? (f : Flags) (k : ShortClass) (negated : Bool) : Option CharSet :=
  f.negate? negated (k.chars f.unicode)

/-- The members of a property, negated or not; a name that asks for the others negates once more. -/
def Flags.propertySet? (f : Flags) (p : PropertyName) (negated : Bool) : Option CharSet := do
  if !f.unicode then none
  f.negate? (negated != p.isOther) (f.foldSet (← Unicode.property? p))

def SetOperator.apply : SetOperator → CharSet → CharSet → CharSet
  | .intersection => CharSet.inter
  | .difference => CharSet.diff
  | .symmetricDifference => CharSet.symmDiff

mutual

/-- The members of the inside of brackets. -/
def ClassSet.chars? (f : Flags) : ClassSet → Option CharSet
  | .empty => some CharSet.empty
  | .literal s => (f.classChar? s).map CharSet.single
  | .range lo hi => do return CharSet.range (← f.classChar? lo) (← f.classChar? hi)
  | .posix k negated => f.negate? negated (f.foldSet k.chars)
  | .short k negated => f.shortSet? k negated
  | .property p negated => f.propertySet? p negated
  | .bracketed negated inner => do f.negate? negated (f.foldSet (← inner.chars? f))
  | .union items => ClassSet.unionChars? f items
  | .operator op l r => do return op.apply (f.foldSet (← l.chars? f)) (f.foldSet (← r.chars? f))

def ClassSet.unionChars? (f : Flags) : List ClassSet → Option CharSet
  | [] => some CharSet.empty
  | s :: rest => do return (← s.chars? f).union (← ClassSet.unionChars? f rest)

end

/-! ### Expressions -/

def Flags.literal (f : Flags) (c : Char) : Form :=
  if f.ignoreCase && (f.unicode || c.toNat < 0x80) then .ofSet (f.foldSet (CharSet.single c))
  else .literal [c]

/-- The characters that a dot matches; without `u` it would match parts of characters. -/
def Flags.dot? (f : Flags) : Option CharSet :=
  if !f.unicode then none
  else if f.dotAll then some CharSet.all
  else if f.crlf then some (CharSet.complement ⟨[(0x0A, 0x0A), (0x0D, 0x0D)]⟩)
  else some (CharSet.complement ⟨[(0x0A, 0x0A)]⟩)

/-- What an assertion tests under the flags. -/
def Flags.look (f : Flags) : Assertion → Look
  | .lineStart =>
    if f.multiLine then if f.crlf then .crlfLineStart else .lineStart else .textStart
  | .lineEnd => if f.multiLine then if f.crlf then .crlfLineEnd else .lineEnd else .textEnd
  | .textStart => .textStart
  | .textEnd => .textEnd
  | .wordBoundary => .boundary f.unicode
  | .notWordBoundary => .notBoundary f.unicode
  | .wordStart => .wordStart f.unicode
  | .wordEnd => .wordEnd f.unicode
  | .wordStartHalf => .wordStartHalf f.unicode
  | .wordEndHalf => .wordEndHalf f.unicode

mutual

/-- The form of a piece of syntax and the flags in force after it. -/
def Ast.form? (f : Flags) : Ast → Option (Form × Flags)
  | .empty => some (.empty, f)
  | .flags changes => some (.empty, f.change changes)
  | .literal s => do return (f.literal (← f.char? s), f)
  | .dot => do return (.ofSet (← f.dot?), f)
  | .assertion a => some (.look (f.look a), f)
  | .short k negated => do return (.ofSet (← f.shortSet? k negated), f)
  | .property p negated => do return (.ofSet (← f.propertySet? p negated), f)
  | .bracketed negated inner => do
    return (.ofSet (← f.negate? negated (f.foldSet (← inner.chars? f))), f)
  | .repeated inner least most greedy => do
    let (r, f) ← inner.form? f
    return (.repeated r least most (greedy != f.swapGreed), f)
  | .group captures changes inner => do
    let (r, _) ← inner.form? (f.change changes)
    return (if captures then .capture r else r, f)
  | .alternation branches => do
    let (rs, f) ← Ast.forms? f branches
    return (.alternation rs, f)
  | .sequence items => do
    let (rs, f) ← Ast.forms? f items
    return (.sequence rs, f)

/-- The forms of a list, each under the flags that the one before it leaves. -/
def Ast.forms? (f : Flags) : List Ast → Option (List Form × Flags)
  | [] => some ([], f)
  | a :: rest => do
    let (r, f) ← a.form? f
    let (rs, f) ← Ast.forms? f rest
    return (r :: rs, f)

end

/-- The expression that a source text stands for; none if it is malformed or its automata would be too
large. -/
def Regex.ofSource? (source : String) : Option Regex := do
  let a ← Ast.read? source
  let (form, _) ← a.form? {}
  if form.fits then some form.regex else none

end InterceptAddons.Pattern
