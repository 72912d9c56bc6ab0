import InterceptAddons.Pattern.Unicode.Category
import InterceptAddons.Pattern.Unicode.Property
import InterceptAddons.Pattern.Unicode.Script
import InterceptAddons.Pattern.Unicode.ScriptExtension

/-!
# Character properties by name

Names are compared loosely: case, spaces, hyphens, underscores and a leading `is` do not count. A plain
name is a binary property, a general category or a script, tried in that order.
-/

namespace InterceptAddons.Pattern.Unicode

open InterceptAddons.Text

/-- The loose form of a name, as it stands in the tables. -/
def looseName (name : List Char) : String :=
  let (isForm, body) := match name with
    | i :: s :: rest => if i.toLower = 'i' ∧ s.toLower = 's' then (true, rest) else (false, name)
    | _ => (false, name)
  let kept := (body.filter fun c => c != ' ' && c != '_' && c != '-' && c.toNat < 0x80).map
    Char.toLower
  let kept := String.ofList kept
  if isForm && kept == "c" then "isc" else kept

/-- The entry of a table under one of its names. -/
def lookup? {α : Type} (table : List (List String × α)) (name : String) : Option α :=
  (table.find? fun entry => entry.1.contains name).map Prod.snd

/-- The code points set aside for pairs of 16-bit units, which no text holds. -/
def surrogates : CharSet := ⟨[(0xD800, 0xDFFF)]⟩

/-- The members of a general category or of a group of them. -/
def category? (name : String) : Option CharSet :=
  match name with
  | "any" => some CharSet.all
  | "assigned" => some (assigned.union surrogates)
  | "ascii" => some ⟨[(0, 0x7F)]⟩
  | "cn" | "unassigned" => some (assigned.union surrogates).complement
  | "c" | "other" =>
    some (CharSet.ofRanges
      ((categories.filter fun entry => !(entry.1.head?.any (·.startsWith "c"))).flatMap
        fun entry => entry.2.ranges)).complement
  | name =>
    match lookup? categories name with
    | some s => some s
    | none =>
      (lookup? categoryGroups name).map fun members =>
        CharSet.ofRanges (members.flatMap fun m => ((lookup? categories m).map CharSet.ranges).getD [])

def scriptExtension? (name : String) : Option CharSet := do
  let entry ← scripts.find? fun entry => entry.1.contains name
  let short ← entry.1.head?
  return ((scriptExtensions.find? (·.1 == short)).map Prod.snd).getD entry.2

def plain? (name : String) : Option CharSet :=
  lookup? properties name <|> category? name <|> lookup? scripts name

/-- The characters of several properties, categories and scripts together. -/
def among (names : List String) : CharSet :=
  CharSet.ofRanges (names.flatMap fun name => ((plain? name).map CharSet.ranges).getD [])

/-! ### Classes with a short name -/

/-- Letters, marks, decimal digits, connectors and joiners of every script. -/
def wordChars : CharSet := among ["alphabetic", "m", "nd", "pc", "joinc"]

def isWordChar (c : Char) : Bool :=
  if c.toNat < 0x80 then c.isAlphanum || c == '_' else wordChars.contains c

def digitChars : CharSet := among ["nd"]

end InterceptAddons.Pattern.Unicode
