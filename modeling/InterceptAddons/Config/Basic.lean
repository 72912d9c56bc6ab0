import InterceptAddons.Addon.LoadError
import InterceptAddons.Filter.Basic

/-!
# Configuration

Switches that apply before any addon is asked, and adjustments of single addons. `EngineConfig.validate`
says in advance whether every filter in a configuration can be read and resolved.
-/

namespace InterceptAddons

open Http

/-- Switches for all messages: whether any are dispatched, and whether only those in scope or only live
traffic are. -/
structure DispatchOptions where
  isActive : Bool := true
  inScopeOnly : Bool := false
  proxyOnly : Bool := false
  deriving Repr, DecidableEq

/-- An adjustment of the addon with a given id: whether it is loaded, and filter texts in place of its
own. -/
structure AddonOverride where
  id : String
  isEnabled : Bool := true
  requestFilter : Option String := none
  responseFilter : Option String := none
  deriving Repr, DecidableEq

namespace AddonOverride

def disable (id : String) : AddonOverride := { id, isEnabled := false }

def filterText (o : AddonOverride) : EventKind → Option String
  | .request => o.requestFilter
  | .response => o.responseFilter

end AddonOverride

/-- A configuration. -/
structure EngineConfig where
  options : DispatchOptions := {}
  addons : List AddonOverride := []
  deriving Repr, DecidableEq

/-- Why a configuration is refused. -/
inductive ConfigError
  | load (e : LoadError)
  | eval (e : Filter.EvalError)
  deriving Repr, DecidableEq

def ConfigError.message : ConfigError → String
  | .load e => e.message
  | .eval e => e.message

namespace EngineConfig

/-- Checks one filter text of an adjustment. -/
def checkFilter (o : AddonOverride) (slot : EventKind) : Except ConfigError Unit :=
  match o.filterText slot with
  | none => .ok ()
  | some text =>
    match Filter.parse text with
    | .error e => .error (.load ⟨.named o.id, slot, e⟩)
    | .ok f =>
      match f.check with
      | .error e => .error (.eval e)
      | .ok _ => .ok ()

/-- Checks the filter texts of adjustments, in order and requests first. -/
def checkAll : List AddonOverride → Except ConfigError Unit
  | [] => .ok ()
  | o :: os =>
    (checkFilter o .request).bind fun _ => (checkFilter o .response).bind fun _ => checkAll os

def validate (c : EngineConfig) : Except ConfigError Unit := checkAll c.addons

end EngineConfig

end InterceptAddons
