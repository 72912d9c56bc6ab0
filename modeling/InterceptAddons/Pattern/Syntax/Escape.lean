import InterceptAddons.Pattern.Syntax
import InterceptAddons.Pattern.Syntax.Layout
import InterceptAddons.Text.CharSet

/-!
# Escapes in patterns

What may follow a backslash, inside and outside of brackets. Every reader here answers what it read and
the rest of the pattern, or nothing where the source is malformed.
-/

namespace InterceptAddons.Pattern

open InterceptAddons.Text

/-- The smallest things a pattern is made of. -/
inductive Primitive
  | literal (s : Scalar)
  | assertion (a : Assertion)
  | short (k : ShortClass) (negated : Bool)
  | property (p : PropertyName) (negated : Bool)
  deriving Repr

/-- The characters with a meaning of their own somewhere in a pattern. -/
def isMeta (c : Char) : Bool := "\\.+*?()|[]\x7b\x7d^$#&-~".toList.contains c

/-- The characters that stand for themselves after a backslash. -/
def isEscapable (c : Char) : Bool :=
  isMeta c || (c.toNat < 0x80 && !c.isAlphanum && c != '<' && c != '>')

def isHexDigit (c : Char) : Bool := (hexValue? c).isSome

def charOfHex? (digits : List Char) : Option Char :=
  let n := digits.foldl (fun n d => 16 * n + (hexValue? d).getD 0) 0
  if h : n.isValidChar then some (Char.ofNatAux n h) else none

/-- Exactly `n` hexadecimal digits. -/
def readHexDigits (verbose : Bool) : Nat → List Char → Option (List Char × List Char)
  | 0, cs => some ([], cs)
  | n + 1, c :: cs =>
    if isHexDigit c then
      (readHexDigits verbose n (skip verbose cs)).map fun (ds, rest) => (c :: ds, rest)
    else none
  | _ + 1, [] => none

/-- The character after `x`, `u` or `U`: a fixed number of digits, or any number between braces. -/
def readHex (verbose : Bool) (width : Nat) (cs : List Char) : Option (Scalar × List Char) :=
  match skip verbose cs with
  | '\x7b' :: rest =>
    let (digits, rest) := takeSpaced verbose isHexDigit (skip verbose rest)
    match rest with
    | '\x7d' :: rest =>
      if digits.isEmpty then none
      else (charOfHex? digits).map fun c => (⟨c, false⟩, skip verbose rest)
    | _ => none
  | cs => do
    let (digits, rest) ← readHexDigits verbose width cs
    let c ← charOfHex? digits
    return (⟨c, width == 2⟩, rest)

/-- The parts before and after the first occurrence of `part`. -/
def cutAtPart (part : List Char) : List Char → Option (List Char × List Char)
  | [] => none
  | c :: cs =>
    if part.isPrefixOf (c :: cs) then some ([], (c :: cs).drop part.length)
    else (cutAtPart part cs).map fun (a, b) => (c :: a, b)

/-- Reads the text between braces as a property name, with `!=`, `:` or `=` before a value. -/
def propertyName (name : List Char) : PropertyName :=
  match cutAtPart ['!', '='] name with
  | some (n, v) => .valued n true v
  | none =>
    match cutAtPart [':'] name with
    | some (n, v) => .valued n false v
    | none =>
      match cutAtPart ['='] name with
      | some (n, v) => .valued n false v
      | none => .plain name

/-- The property after `p` or `P`: one letter, or a name between braces. -/
def readProperty (verbose : Bool) (cs : List Char) : Option (PropertyName × List Char) :=
  match skip verbose cs with
  | [] => none
  | '\x7b' :: rest =>
    let (name, rest) := takeSpaced verbose (· != '\x7d') (skip verbose rest)
    match rest with
    | _ :: rest => some (propertyName name, rest)
    | [] => none
  | '\\' :: _ => none
  | c :: rest => some (.plain [c], skip verbose rest)

/-- What may stand between the braces of a word boundary. -/
def isBoundaryNameChar (c : Char) : Bool := c.isAlpha || c == '-'

/-- The assertion after `b`: braces that open with a letter or `-` must name one of the four halves of a
word boundary, any others are left alone. -/
def readBoundary (verbose : Bool) (cs : List Char) : Option (Assertion × List Char) :=
  match cs with
  | '\x7b' :: inner =>
    match skip verbose inner with
    | [] => none
    | c :: more =>
      if isBoundaryNameChar c then
        let (name, rest) := takeSpaced verbose isBoundaryNameChar (c :: more)
        match rest with
        | '\x7d' :: rest =>
          match String.ofList name with
          | "start" => some (.wordStart, rest)
          | "end" => some (.wordEnd, rest)
          | "start-half" => some (.wordStartHalf, rest)
          | "end-half" => some (.wordEndHalf, rest)
          | _ => none
        | _ => none
      else some (.wordBoundary, cs)
  | _ => some (.wordBoundary, cs)

/-- What follows a backslash. -/
def readEscape (verbose : Bool) : List Char → Option (Primitive × List Char)
  | [] => none
  | c :: cs =>
    let literal (c : Char) := some (Primitive.literal ⟨c, false⟩, cs)
    let short (k : ShortClass) (negated : Bool) := some (Primitive.short k negated, cs)
    let assertion (a : Assertion) := some (Primitive.assertion a, cs)
    match c with
    | 'x' => (readHex verbose 2 cs).map fun (s, rest) => (.literal s, rest)
    | 'u' => (readHex verbose 4 cs).map fun (s, rest) => (.literal s, rest)
    | 'U' => (readHex verbose 8 cs).map fun (s, rest) => (.literal s, rest)
    | 'p' => (readProperty verbose cs).map fun (p, rest) => (.property p false, rest)
    | 'P' => (readProperty verbose cs).map fun (p, rest) => (.property p true, rest)
    | 'd' => short .digit false
    | 'D' => short .digit true
    | 's' => short .space false
    | 'S' => short .space true
    | 'w' => short .word false
    | 'W' => short .word true
    | 'a' => literal '\x07'
    | 'f' => literal '\x0c'
    | 't' => literal '\t'
    | 'n' => literal '\n'
    | 'r' => literal '\r'
    | 'v' => literal '\x0b'
    | 'A' => assertion .textStart
    | 'z' => assertion .textEnd
    | 'b' => (readBoundary verbose cs).map fun (a, rest) => (.assertion a, rest)
    | 'B' => assertion .notWordBoundary
    | '<' => assertion .wordStart
    | '>' => assertion .wordEnd
    | c => if isEscapable c then literal c else none

end InterceptAddons.Pattern
