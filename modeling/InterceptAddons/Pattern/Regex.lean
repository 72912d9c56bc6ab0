import InterceptAddons.Pattern.Unicode.Lookup

/-!
# Regular expressions

`Regex` is a pattern with its flags resolved: sets of characters, tests of a place in the text, and the
three ways to combine them.
-/

namespace InterceptAddons.Pattern

open InterceptAddons.Text

/-- A test of a place between two characters; `unicode` selects the words of every script. -/
inductive Look
  | textStart | textEnd | lineStart | lineEnd | crlfLineStart | crlfLineEnd
  | boundary (unicode : Bool) | notBoundary (unicode : Bool)
  | wordStart (unicode : Bool) | wordEnd (unicode : Bool)
  | wordStartHalf (unicode : Bool) | wordEndHalf (unicode : Bool)
  deriving Repr, DecidableEq

/-- An expression over characters. -/
inductive Regex
  | empty
  | set (s : CharSet)
  | look (l : Look)
  | cat (a b : Regex)
  | alt (a b : Regex)
  | rep (r : Regex) (min : Nat) (max : Option Nat) (greedy : Bool)
  deriving Repr, DecidableEq

def inWord (unicode : Bool) (c : Char) : Bool :=
  if unicode then Unicode.isWordChar c else c.isAlphanum || c == '_'

/-- Whether a test holds between two characters, either of which is absent at an end of the text. -/
def Look.holds (l : Look) (before after : Option Char) : Bool :=
  let wordBefore (u : Bool) := before.any (inWord u)
  let wordAfter (u : Bool) := after.any (inWord u)
  match l with
  | .textStart => before.isNone
  | .textEnd => after.isNone
  | .lineStart => before.isNone || before == some '\n'
  | .lineEnd => after.isNone || after == some '\n'
  | .crlfLineStart =>
    before.isNone || before == some '\n' || (before == some '\r' && after != some '\n')
  | .crlfLineEnd =>
    after.isNone || after == some '\r' || (after == some '\n' && before != some '\r')
  | .boundary u => wordBefore u != wordAfter u
  | .notBoundary u => wordBefore u == wordAfter u
  | .wordStart u => !wordBefore u && wordAfter u
  | .wordEnd u => wordBefore u && !wordAfter u
  | .wordStartHalf u => !wordBefore u
  | .wordEndHalf u => !wordAfter u

namespace Regex

/-- The expression that matches nothing at all. -/
def fail : Regex := .set CharSet.empty

def catAll : List Regex → Regex
  | [] => .empty
  | [r] => r
  | r :: rs => .cat r (catAll rs)

/-- Any one of some expressions, the earlier ones preferred. -/
def altAll : List Regex → Regex
  | [] => fail
  | [r] => r
  | r :: rs => .alt r (altAll rs)

end Regex

end InterceptAddons.Pattern
