import InterceptAddons.Pattern.Syntax
import InterceptAddons.Pattern.Unicode.Age
import InterceptAddons.Pattern.Unicode.Break

/-!
# Properties that patterns may name

A name alone is a binary property, a general category or a script; a name with a value is one of the
properties that take many values.
-/

namespace InterceptAddons.Pattern.Unicode

open InterceptAddons.Text

/-- The members of a property with one of its values. -/
def valued? (name value : String) : Option CharSet :=
  match name with
  | "gc" | "generalcategory" => category? value
  | "sc" | "script" => lookup? scripts value
  | "scx" | "scriptextensions" => scriptExtension? value
  | "age" => age? value
  | "gcb" | "graphemeclusterbreak" => lookup? letterBreaks value
  | "wb" | "wordbreak" => lookup? wordBreaks value
  | "sb" | "sentencebreak" => lookup? sentenceBreaks value
  | _ => none

def property? : PropertyName → Option CharSet
  | .plain name => plain? (looseName name)
  | .valued name _ value => valued? (looseName name) (looseName value)

end InterceptAddons.Pattern.Unicode
