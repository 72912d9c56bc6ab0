import InterceptAddons.Text.Split

/-!
# Scopes

Which URLs belong to the target of a test.
-/

namespace InterceptAddons

/-- A scope decides for each URL whether it belongs to the target. -/
abbrev Scope := String → Bool

namespace Scope

def none : Scope := fun _ => false

def ofStarts (starts : List String) : Scope := fun url =>
  starts.any fun s => Text.startsWith s.toList url.toList

def containing (part : String) : Scope := fun url => Text.hasPart part.toList url.toList

end Scope

end InterceptAddons
