import InterceptAddons.Engine.State
import InterceptAddons.Engine.Walk

/-!
# Dispatching

A dispatch takes the registry and the switches that are in force when it begins and keeps to them, whatever
its callbacks ask in between. Callbacks may ask for everything that can be asked from outside, also for
dispatches of their own, which nest up to a given depth; a deeper one passes its message on.
-/

namespace InterceptAddons

open Http

/-- Whether the switches let a message be dispatched. -/
def DispatchOptions.admits {k : EventKind} (o : DispatchOptions) (scope : Scope) (m : Traffic k) : Bool :=
  o.isActive && (!o.proxyOnly || m.message.tool.isProxy) && (!o.inScopeOnly || scope m.request.url)

def Addon.context {ν : Type} {k : EventKind} (a : Addon ν) (services : Services ν) (m : Traffic k) :
    EventCtx ν where
  addon := a.id
  kind := k
  id := m.message.id
  services := services

namespace Engine

variable {ν : Type}

/-- Performs an operation in a state. -/
abbrev Performer (ν : Type) := Operation ν → Engine ν → Answer × Engine ν

/-- Walks with programs whose operations are performed by `ask`. -/
def walker (services : Services ν) (ask : Performer ν) (k : EventKind) : Walker ν (Engine ν) k where
  select a m s := ((a.filter k).selects (.of m services.scope), s)
  call a f m s := (f m (a.context services m)).run ask (fun r s => s.write (.remark r)) s
  write r s := s.write r

/-- Runs a message through the addons of the installed registry. -/
def dispatch (services : Services ν) (ask : Performer ν) {k : EventKind} (m : Traffic k)
    (s : Engine ν) : Action (Traffic k) × Engine ν :=
  match s.installed with
  | none => (.proceed m, s)
  | some r =>
    if s.options.admits services.scope m then
      let s := (s.enter r).write (.dispatching k m.message.id r.generation)
      let (action, s) := (walker services ask k).walk r.addons m s
      (action, s.leave r)
    else (.proceed m, s.write (.bypassed k m.message.id))

def registryAnswer (s : Engine ν) : Answer := s.installed.elim .done fun r => .registry r.view

/-- Performs an operation. Dispatches nest up to `depth`. -/
def perform (services : Services ν) : Nat → Performer ν
  | _, .reload specs overrides, s =>
    let (r, s) := s.load specs overrides
    let s := s.replace r
    (.registry r.view, s)
  | _, .replace specs overrides keep, s =>
    let (r, s) := s.load specs overrides
    (s.registryAnswer, if keep then s.replaceAndHold r else s.replace r)
  | _, .load specs overrides, s =>
    let (r, s) := s.load specs overrides
    (.registry r.view, s.keep r)
  | _, .hold, s => (.count s.hold.held.length, s.hold)
  | _, .share i, s => (.count (s.shareHeld i).held.length, s.shareHeld i)
  | _, .install i, s =>
    (if s.held[i]?.isSome then s.registryAnswer else .done, s.installHeld i)
  | _, .release i, s => (.done, s.releaseHeld i)
  | _, .releaseAll, s => (.done, s.releaseAll)
  | _, .setOptions options, s => (.options options, s.setOptions options)
  | 0, .dispatch ⟨_, m⟩, s => (.action (.proceed m), s)
  | depth + 1, .dispatch ⟨_, m⟩, s =>
    let (action, s) := s.dispatch services (perform services depth) m
    (.action action, s)

/-- How deep dispatches nest when operations come from outside. -/
def maxNesting : Nat := 256

/-! ### Sessions -/

/-- An engine whose first registry is loaded from declarations. -/
def start (specs : List (AddonSpec ν)) (overrides : List AddonOverride) : Engine ν :=
  let (r, s) := load {} specs overrides
  s.install r

/-- An engine that is set up by a configuration. -/
def ofConfig (specs : List (AddonSpec ν)) (config : EngineConfig) : Engine ν :=
  (start specs config.addons).setOptions config.options

end Engine

end InterceptAddons
