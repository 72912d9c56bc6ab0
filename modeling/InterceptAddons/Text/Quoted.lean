import InterceptAddons.Text.Unicode.Unprintable

/-!
# Texts for developers

The form in which values are shown to a developer. A text stands between double quotes, with a backslash
before quotes and backslashes, short escapes for the usual controls, and the number of any other character
that has no shape of its own. A record has its name and its fields, and a list stands in brackets.
-/

namespace InterceptAddons.Text

/-- The hexadecimal digits of a number, lower case and without leading zeros. -/
def hexDigits (n : Nat) : List Char := Nat.toDigits 16 n

def quoteChar (c : Char) : List Char :=
  match c with
  | '"' => ['\\', '"']
  | '\\' => ['\\', '\\']
  | '\n' => ['\\', 'n']
  | '\t' => ['\\', 't']
  | '\r' => ['\\', 'r']
  | '\x00' => ['\\', '0']
  | c =>
    if isUnprintable c then ['\\', 'u', '\x7b'] ++ hexDigits c.toNat ++ ['\x7d']
    else [c]

def quoted (s : String) : String :=
  String.ofList ('"' :: s.toList.flatMap quoteChar ++ ['"'])

def quotedOption : Option String → String
  | none => "None"
  | some s => "Some(" ++ quoted s ++ ")"

def shownBool (b : Bool) : String := if b then "true" else "false"

/-- A list whose items are shown already. -/
def shownList (items : List String) : String := "[" ++ String.intercalate ", " items ++ "]"

/-- A record with its fields, whose values are shown already. -/
def shownRecord (name : String) (fields : List (String × String)) : String :=
  name ++ " \x7b " ++ String.intercalate ", " (fields.map fun f => f.1 ++ ": " ++ f.2) ++ " \x7d"

end InterceptAddons.Text
