import InterceptAddons.Engine.State
import InterceptAddons.Text.Quoted

/-!
# What developers see

Declarations, contexts, registries and engines as they are shown to a developer. Callbacks are only said to
be there or not.
-/

namespace InterceptAddons

open Http Text

variable {ν : Type}

def AddonSpec.describe (spec : AddonSpec ν) : String :=
  shownRecord "AddonSpec" [("name", quotedOption spec.name),
    ("request_filter", quotedOption spec.requestFilter),
    ("response_filter", quotedOption spec.responseFilter),
    ("on_request", shownBool spec.onRequest.isSome), ("on_response", shownBool spec.onResponse.isSome)]

def EventCtx.describe (ctx : EventCtx ν) : String :=
  shownRecord "EventCtx" [("addon", ctx.addon.describe), ("kind", ctx.kind.label),
    ("message_id", toString ctx.id.toNat), ("annotator", shownBool ctx.services.annotator.isSome),
    ("crypto", shownBool ctx.services.crypto.isSome)]

def describeSyntaxError (e : Filter.SyntaxError) : String :=
  shownRecord "SyntaxError" [("position", toString e.position), ("message", quoted e.message)]

def LoadError.describe (e : LoadError) : String :=
  shownRecord "LoadError" [("addon", e.addon.describe), ("slot", e.slot.label),
    ("error", describeSyntaxError e.error)]

def Addon.describe (a : Addon ν) : String :=
  shownRecord "Addon" [("id", a.id.describe), ("order", toString a.order),
    ("request_filter", quoted a.requestFilter.print), ("response_filter", quoted a.responseFilter.print),
    ("on_request", shownBool a.onRequest.isSome), ("on_response", shownBool a.onResponse.isSome)]

def Registry.describe (r : Registry ν) : String :=
  shownRecord "Registry" [("addons", shownList (r.addons.map Addon.describe)),
    ("rejected", shownList (r.rejected.map LoadError.describe)), ("generation", toString r.generation)]

def DispatchOptions.describe (o : DispatchOptions) : String :=
  shownRecord "DispatchOptions" [("active", shownBool o.isActive),
    ("in_scope_only", shownBool o.inScopeOnly), ("proxy_only", shownBool o.proxyOnly)]

def Engine.describe (s : Engine ν) (services : Services ν) : String :=
  shownRecord "Dispatcher" [("registry", s.installed.elim "" Registry.describe),
    ("options", s.options.describe), ("annotator", shownBool services.annotator.isSome),
    ("crypto", shownBool services.crypto.isSome)]

end InterceptAddons
