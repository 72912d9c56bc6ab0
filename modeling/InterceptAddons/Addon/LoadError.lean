import InterceptAddons.Addon.Id
import InterceptAddons.Filter.SyntaxError
import InterceptAddons.Http.Traffic

/-!
# Load errors

An addon is rejected when the text of one of its two filters cannot be read.
-/

namespace InterceptAddons

open Http

/-- A rejected addon: which of its filters cannot be read, and why. -/
structure LoadError where
  addon : AddonId
  slot : EventKind
  error : Filter.SyntaxError
  deriving Repr, DecidableEq

def slotName (slot : EventKind) : String := slot.name ++ " filter"

def LoadError.message (e : LoadError) : String :=
  "addon " ++ e.addon.print ++ " rejected: " ++ slotName e.slot ++ ": " ++ e.error.print

end InterceptAddons
