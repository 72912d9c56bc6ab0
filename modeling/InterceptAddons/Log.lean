import InterceptAddons.Addon.Action
import InterceptAddons.Config.Basic

/-!
# Log records

What the engine reports, one constructor for each kind of event, and how a record is worded: a level, a
message or the name of a span, and fields. Remarks of addons and of the host stand among the records in
the order in which all of them happened.
-/

namespace InterceptAddons

open Http

/-- The weight of a record. -/
inductive Level
  | trace | debug | info | warn | error
  deriving Repr, DecidableEq

def Level.name : Level → String
  | .trace => "TRACE"
  | .debug => "DEBUG"
  | .info => "INFO"
  | .warn => "WARN"
  | .error => "ERROR"

/-- The two callbacks outside of traffic. -/
inductive Stage
  | init
  | cleanup
  deriving Repr, DecidableEq

def Stage.name : Stage → String
  | .init => "init"
  | .cleanup => "cleanup"

/-- What is written by others than the engine: an addon's record about a message, or a note of the host. -/
inductive Remark (ν : Type)
  | log (level : Level) (addon : AddonId) (id : UInt64) (text : String) (error : Option String)
  | host (note : ν)
  deriving Repr, DecidableEq

/-- Something that happened. -/
inductive Record (ν : Type)
  | loading (generation : Nat)
  | addonDisabled (addon : AddonId)
  | addonRejected (error : LoadError)
  | addonLoaded (addon : AddonId) (requestFilter responseFilter : String)
  | overrideUnmatched (id : String)
  | registryLoaded (generation loaded rejected : Nat)
  | registryReplaced (old new : Nat)
  | registryUnloaded (generation : Nat)
  | lifecycleFailed (addon : AddonId) (stage : Stage) (failure : Failure)
  | optionsUpdated (options : DispatchOptions)
  | bypassed (kind : EventKind) (id : UInt64)
  | dispatching (kind : EventKind) (id : UInt64) (generation : Nat)
  | filterMissed (addon : AddonId)
  | filterFailed (addon : AddonId) (error : Filter.EvalError)
  | dropped (addon : AddonId)
  | intercepted (addon : AddonId)
  | callbackFailed (addon : AddonId) (kind : EventKind) (id : UInt64) (failure : Failure)
  | remark (r : Remark ν)
  deriving Repr, DecidableEq

/-- The value of a field. -/
inductive FieldValue
  | text (s : String)
  | number (n : Nat)
  | bool (b : Bool)
  deriving Repr, DecidableEq

/-- How a record is worded. -/
inductive Entry (ν : Type)
  | event (level : Level) (message : String) (fields : List (String × FieldValue))
  | span (level : Level) (name : String) (fields : List (String × FieldValue))
  | host (note : ν)
  deriving Repr, DecidableEq

def addonField (id : AddonId) : String × FieldValue := ("addon", .text id.print)

def messageField (id : UInt64) : String × FieldValue := ("message_id", .text (toString id.toNat))

def kindField (kind : EventKind) : String × FieldValue := ("event", .text kind.name)

def Remark.entry {ν : Type} : Remark ν → Entry ν
  | .log level a id text error =>
    .event level text
      ([addonField a, messageField id] ++ error.elim [] fun e => [("error", .text e)])
  | .host note => .host note

def Record.entry {ν : Type} : Record ν → Entry ν
  | .loading g => .span .debug "registry_load" [("generation", .number g)]
  | .addonDisabled a => .event .info "addon disabled by configuration" [addonField a]
  | .addonRejected e =>
    .event .warn "addon rejected" [addonField e.addon, ("error", .text e.message)]
  | .addonLoaded a request response =>
    .event .debug "addon loaded"
      [addonField a, ("request_filter", .text request), ("response_filter", .text response)]
  | .overrideUnmatched id =>
    .event .warn "configuration override matches no addon" [("addon", .text id)]
  | .registryLoaded g loaded rejected =>
    .event .info "registry loaded"
      [("generation", .number g), ("loaded", .number loaded), ("rejected", .number rejected)]
  | .registryReplaced old new =>
    .event .info "registry replaced" [("from", .number old), ("to", .number new)]
  | .registryUnloaded g => .event .debug "registry unloaded" [("generation", .number g)]
  | .lifecycleFailed a stage (.returned text) =>
    .event .error "lifecycle callback failed"
      [addonField a, ("stage", .text stage.name), ("error", .text text)]
  | .lifecycleFailed a stage (.panicked text) =>
    .event .error "lifecycle callback panicked"
      [addonField a, ("stage", .text stage.name), ("panic", .text (Failure.panicText text))]
  | .optionsUpdated o =>
    .event .info "dispatch options updated"
      [("active", .bool o.isActive), ("in_scope_only", .bool o.inScopeOnly),
        ("proxy_only", .bool o.proxyOnly)]
  | .bypassed kind id =>
    .event .trace "event bypassed by dispatch options" [kindField kind, messageField id]
  | .dispatching kind id g =>
    .span .debug "dispatch" [kindField kind, messageField id, ("generation", .number g)]
  | .filterMissed a => .event .trace "filter did not match" [addonField a]
  | .filterFailed a e =>
    .event .warn "filter failed, treated as no match" [addonField a, ("error", .text e.message)]
  | .dropped a => .event .debug "dropped" [addonField a]
  | .intercepted a => .event .debug "intercepted" [addonField a]
  | .callbackFailed a kind id failure =>
    .event .error "addon callback failed, continuing with the previous message"
      [addonField a, kindField kind, messageField id, ("error", .text failure.message)]
  | .remark r => r.entry

end InterceptAddons
