import InterceptAddons.Text.Quoted

/-!
# Addon ids

An addon is known by the name that its author chose, or else by its place among the declarations.
-/

namespace InterceptAddons

/-- Identifies an addon. -/
inductive AddonId
  | named (name : String)
  | index (i : Nat)
  deriving Repr, DecidableEq

namespace AddonId

/-- The id as text, by which configuration refers to it. -/
def print : AddonId → String
  | .named name => name
  | .index i => "addon#" ++ toString i

/-- The id as it is shown to a developer. -/
def describe : AddonId → String
  | .named name => "Named(" ++ Text.quoted name ++ ")"
  | .index i => "Index(" ++ toString i ++ ")"

end AddonId

end InterceptAddons
