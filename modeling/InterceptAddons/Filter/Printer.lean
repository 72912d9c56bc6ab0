import InterceptAddons.Filter.Expr
import InterceptAddons.Text.Quoted

/-!
# Printing filters

The text of an expression: parenthesised forms with one space between their parts, and `true` and `false`
for the constants. Strings are quoted with escapes for quotes, backslashes and controls; patterns stand
between raw quotes as they are.
-/

namespace InterceptAddons.Filter

open InterceptAddons.Text

/-- How one character stands inside a quoted string. -/
def escapeChar (c : Char) : List Char :=
  if c = '"' then ['\\', '"']
  else if c = '\\' then ['\\', '\\']
  else if c = '\n' then ['\\', 'n']
  else if c = '\t' then ['\\', 't']
  else if c = '\r' then ['\\', 'r']
  else if c.toNat < 0x20 ∨ c = '\x7f' then
    ['\\', 'x', Nat.digitChar (c.toNat / 16), Nat.digitChar (c.toNat % 16)]
  else [c]

def boolChars (b : Bool) : List Char := if b then "true".toList else "false".toList

def Literal.chars : Literal → List Char
  | .str s => '"' :: s.toList.flatMap escapeChar ++ ['"']
  | .regex p => 'r' :: '"' :: p.source.toList ++ ['"']
  | .bool b => boolChars b
  | .int n => (toString n.toInt).toList

/-- Items, each after a space. -/
def spaced : List (List Char) → List Char
  | [] => []
  | cs :: rest => ' ' :: cs ++ spaced rest

/-- A form with the given head and items. -/
def formChars (head : List Char) (items : List (List Char)) : List Char :=
  '(' :: head ++ spaced items ++ [')']

mutual

def Expr.chars : Expr → List Char
  | .all [] => boolChars true
  | .any [] => boolChars false
  | .all (e :: es) => formChars "and".toList (e.chars :: Expr.charsList es)
  | .any (e :: es) => formChars "or".toList (e.chars :: Expr.charsList es)
  | .not e => formChars "not".toList [e.chars]
  | .predicate name args => formChars name.toList (args.map Literal.chars)

def Expr.charsList : List Expr → List (List Char)
  | [] => []
  | e :: es => e.chars :: Expr.charsList es

end

def Literal.print (l : Literal) : String := String.ofList l.chars

def Expr.print (e : Expr) : String := String.ofList e.chars

end InterceptAddons.Filter
