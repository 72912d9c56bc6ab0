import InterceptAddons.Addon.Program

/-!
# Registries

A registry is an ordered set of loaded addons that never changes. `Registry.load` sorts each declaration
into disabled, rejected or loaded; loaded addons keep the order and the places of their declarations.
-/

namespace InterceptAddons

open Http

/-! ### Loaded addons -/

/-- A loaded addon; `order` is its place among the declarations. -/
structure Addon (ν : Type) where
  id : AddonId
  order : Nat
  requestFilter : Filter
  responseFilter : Filter
  onRequest : Option (Callback ν .request)
  onResponse : Option (Callback ν .response)
  onInit : Option (Lifecycle ν)
  onCleanup : Option (Lifecycle ν)

namespace Addon

variable {ν : Type}

def filter (a : Addon ν) : EventKind → Filter
  | .request => a.requestFilter
  | .response => a.responseFilter

def callback? (a : Addon ν) : (k : EventKind) → Option (Callback ν k)
  | .request => a.onRequest
  | .response => a.onResponse

/-- The addon without its callbacks. -/
def view (a : Addon ν) : AddonView where
  id := a.id
  order := a.order
  requestFilter := a.requestFilter
  responseFilter := a.responseFilter
  handlesRequests := a.onRequest.isSome
  handlesResponses := a.onResponse.isSome

end Addon

/-- What is written when a callback outside of traffic runs. -/
def Lifecycle.run {ν : Type} (l : Lifecycle ν) (addon : AddonId) (stage : Stage) : List (Record ν) :=
  l.notes.map (.remark <| .host ·) ++ l.failure.elim [] fun f => [.lifecycleFailed addon stage f]

/-- What is written when a callback outside of traffic runs, if it is set. -/
def runStage {ν : Type} (l : Option (Lifecycle ν)) (addon : AddonId) (stage : Stage) :
    List (Record ν) :=
  l.elim [] fun l => l.run addon stage

/-! ### Sorting declarations -/

/-- What becomes of a declaration. -/
inductive Sorted (ν : Type)
  | disabled (id : AddonId)
  | rejected (e : LoadError)
  | loaded (a : Addon ν)

namespace Sorted

variable {ν : Type}

def addon? : Sorted ν → Option (Addon ν)
  | .loaded a => some a
  | _ => none

def error? : Sorted ν → Option LoadError
  | .rejected e => some e
  | _ => none

/-- What is written of it; a loaded addon is initialised. -/
def records : Sorted ν → List (Record ν)
  | .disabled id => [.addonDisabled id]
  | .rejected e => [.addonRejected e]
  | .loaded a =>
    runStage a.onInit a.id .init ++
      [.addonLoaded a.id a.requestFilter.print a.responseFilter.print]

end Sorted

/-- The first adjustment of an addon. -/
def overrideOf? (overrides : List AddonOverride) (id : AddonId) : Option AddonOverride :=
  overrides.find? (·.id == id.print)

/-- The filter that a text denotes; without a text it selects everything. -/
def readFilter (id : AddonId) (slot : EventKind) (text : Option String) : Except LoadError Filter :=
  match text with
  | none => .ok .always
  | some text =>
    match Filter.parse text with
    | .ok f => .ok f
    | .error e => .error ⟨id, slot, e⟩

/-- Loads the addon that is declared at a place, with the filter texts that an adjustment gives. -/
def AddonSpec.load {ν : Type} (spec : AddonSpec ν) (i : Nat) (o : Option AddonOverride) : Sorted ν :=
  let text (slot : EventKind) := (o.bind (·.filterText slot)).or (spec.filterText slot)
  match readFilter (spec.id i) .request (text .request) with
  | .error e => .rejected e
  | .ok requestFilter =>
    match readFilter (spec.id i) .response (text .response) with
    | .error e => .rejected e
    | .ok responseFilter =>
      .loaded {
        id := spec.id i
        order := i
        requestFilter
        responseFilter
        onRequest := spec.onRequest
        onResponse := spec.onResponse
        onInit := spec.onInit
        onCleanup := spec.onCleanup }

def AddonSpec.sort {ν : Type} (overrides : List AddonOverride) (spec : AddonSpec ν) (i : Nat) :
    Sorted ν :=
  match overrideOf? overrides (spec.id i) with
  | some o => if o.isEnabled then spec.load i (some o) else .disabled (spec.id i)
  | none => spec.load i none

def sortAll {ν : Type} (overrides : List AddonOverride) (specs : List (AddonSpec ν)) :
    List (Sorted ν) :=
  specs.mapIdx fun i spec => spec.sort overrides i

/-! ### Registries -/

/-- Loaded addons in order, and the errors of those that were rejected. -/
structure Registry (ν : Type) where
  generation : Nat
  addons : List (Addon ν)
  rejected : List LoadError

/-- The adjustments that match none of the given ids, besides those that have come; of several for one id
only the first matches. -/
def unmatchedAmong (ids : List String) : List String → List AddonOverride → List AddonOverride
  | _, [] => []
  | seen, o :: os =>
    if ids.contains o.id && !seen.contains o.id then unmatchedAmong ids (o.id :: seen) os
    else o :: unmatchedAmong ids (o.id :: seen) os

/-- The adjustments that match no declaration. -/
def unmatched {ν : Type} (overrides : List AddonOverride) (specs : List (AddonSpec ν)) :
    List AddonOverride :=
  unmatchedAmong (specs.mapIdx fun i spec => (spec.id i).print) [] overrides

namespace Registry

variable {ν : Type}

/-- Loads declarations as the registry of a generation. -/
def load (generation : Nat) (specs : List (AddonSpec ν)) (overrides : List AddonOverride) :
    Registry ν where
  generation := generation
  addons := (sortAll overrides specs).filterMap Sorted.addon?
  rejected := (sortAll overrides specs).filterMap Sorted.error?

def loadRecords (generation : Nat) (specs : List (AddonSpec ν)) (overrides : List AddonOverride) :
    List (Record ν) :=
  let r := load generation specs overrides
  [.loading generation] ++
  (sortAll overrides specs).flatMap Sorted.records ++
  (unmatched overrides specs).map (fun o => .overrideUnmatched o.id) ++
  [.registryLoaded generation r.addons.length r.rejected.length]

/-- What is written when a registry is unloaded: every addon is cleaned up, in order. -/
def unloadRecords (r : Registry ν) : List (Record ν) :=
  r.addons.flatMap (fun a => runStage a.onCleanup a.id .cleanup) ++ [.registryUnloaded r.generation]

def view (r : Registry ν) : RegistryView where
  generation := r.generation
  addons := r.addons.map Addon.view
  rejected := r.rejected

end Registry

end InterceptAddons
