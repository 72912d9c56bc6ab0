import InterceptAddons.Json.Value

/-!
# Printing values

A value on one line without spaces, and a value on several lines with two spaces for each level. Members
are written in the order in which they stand.
-/

namespace InterceptAddons.Json

def stringChar (c : Char) : List Char :=
  match c with
  | '"' => ['\\', '"']
  | '\\' => ['\\', '\\']
  | '\x08' => ['\\', 'b']
  | '\x0c' => ['\\', 'f']
  | '\n' => ['\\', 'n']
  | '\r' => ['\\', 'r']
  | '\t' => ['\\', 't']
  | c =>
    if c.toNat < 0x20 then
      ['\\', 'u', '0', '0', Nat.digitChar (c.toNat / 16), Nat.digitChar (c.toNat % 16)]
    else [c]

def stringChars (s : String) : List Char := '"' :: s.toList.flatMap stringChar ++ ['"']

/-- How the parts of an array or object are parted: what stands before the first, between two, and behind
the last, and what stands behind a key. -/
structure Layout where
  first : List Char
  between : List Char
  last : List Char
  afterKey : List Char

def Layout.join (l : Layout) : List (List Char) → List Char
  | [] => []
  | item :: items => l.first ++ item ++ items.flatMap (l.between ++ ·) ++ l.last

def Layout.compact : Layout := ⟨[], [','], [], [':']⟩

/-- A line for each part, at a level. -/
def Layout.lines (level : Nat) : Layout :=
  let inner := '\n' :: List.replicate (2 * (level + 1)) ' '
  ⟨inner, ',' :: inner, '\n' :: List.replicate (2 * level) ' ', [':', ' ']⟩

mutual

/-- A value at a level, with a layout for each level. -/
def Value.charsWith (layout : Nat → Layout) (level : Nat) : Value → List Char
  | .null => "null".toList
  | .bool b => if b then "true".toList else "false".toList
  | .number n => n.chars
  | .string s => stringChars s
  | .array items => '[' :: (layout level).join (charsOfItems layout (level + 1) items) ++ [']']
  | .object members =>
    '\x7b' :: (layout level).join (charsOfMembers layout (level + 1) (layout level).afterKey members) ++
      ['\x7d']

def charsOfItems (layout : Nat → Layout) (level : Nat) : List Value → List (List Char)
  | [] => []
  | v :: vs => v.charsWith layout level :: charsOfItems layout level vs

def charsOfMembers (layout : Nat → Layout) (level : Nat) (afterKey : List Char) :
    List (String × Value) → List (List Char)
  | [] => []
  | (k, v) :: ms =>
    (stringChars k ++ afterKey ++ v.charsWith layout level) ::
      charsOfMembers layout level afterKey ms

end

/-- A value on one line. -/
def Value.print (v : Value) : String := String.ofList (v.charsWith (fun _ => .compact) 0)

/-- A value on several lines. -/
def Value.printLines (v : Value) : String := String.ofList (v.charsWith Layout.lines 0)

end InterceptAddons.Json
