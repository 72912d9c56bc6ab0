import InterceptAddons.Log
import InterceptAddons.Services

/-!
# Addons

The declarations of addons. A callback is a function from a message and a context to a program, which may
make remarks and ask the dispatcher to do something before it ends. What a program asks can bring new
addons with it, so programs, operations and declarations are defined together.
-/

namespace InterceptAddons

open Http

/-! ### Contexts -/

/-- What a callback is told: the addon, the message as it came to this addon, and the services. -/
structure EventCtx (ν : Type) where
  addon : AddonId
  kind : EventKind
  id : UInt64
  services : Services ν

namespace EventCtx

variable {ν : Type}

def inScope (ctx : EventCtx ν) (url : String) : Bool := ctx.services.scope url

/-- What the host notes when the message is marked, if there is a service for it. -/
def annotate (ctx : EventCtx ν) (a : Mark) : Option ν :=
  ctx.services.annotator.map fun f => f ctx.id a

def remark (ctx : EventCtx ν) (level : Level) (text : String) (error : Option String) : Remark ν :=
  .log level ctx.addon ctx.id text error

/-- Makes a cipher, if there is a service for it. -/
def newCipher (ctx : EventCtx ν) (spec : String) : Except String (List UInt8 → Except String Cipher) :=
  match ctx.services.crypto with
  | some factory => factory spec
  | none => .error ("no crypto service available for `" ++ spec ++ "`")

end EventCtx

/-! ### What is seen of a registry -/

/-- A loaded addon without its callbacks. -/
structure AddonView where
  id : AddonId
  order : Nat
  requestFilter : Filter
  responseFilter : Filter
  handlesRequests : Bool
  handlesResponses : Bool

/-- A registry without its callbacks. -/
structure RegistryView where
  generation : Nat
  addons : List AddonView
  rejected : List LoadError

namespace RegistryView

def get? (r : RegistryView) (id : AddonId) : Option AddonView := r.addons.find? (·.id == id)

end RegistryView

/-- The answer to an operation. -/
inductive Answer
  | done
  | count (n : Nat)
  | registry (r : RegistryView)
  | options (o : DispatchOptions)
  | request (a : Action Request)
  | response (a : Action Response)

def Answer.action : {k : EventKind} → Action (Traffic k) → Answer
  | .request, a => .request a
  | .response, a => .response a

/-! ### Programs -/

/-- A callback outside of traffic: what the host notes when it runs, and its failure if it fails. -/
structure Lifecycle (ν : Type) where
  notes : List ν
  failure : Option Failure

mutual

/-- What a callback for messages of a kind does: it ends, makes a remark, or asks the dispatcher for
something and goes on with the answer. -/
inductive Program (ν : Type) : EventKind → Type
  | finish {k : EventKind} (ending : Ending (Traffic k)) : Program ν k
  | say {k : EventKind} (remark : Remark ν) (next : Program ν k) : Program ν k
  | ask {k : EventKind} (op : Operation ν) (next : Answer → Program ν k) : Program ν k

/-- What can be asked of a dispatcher. Handles to registries are held on a stack, the latest first. -/
inductive Operation (ν : Type) : Type
  | reload (specs : List (AddonSpec ν)) (overrides : List AddonOverride)
  | replace (specs : List (AddonSpec ν)) (overrides : List AddonOverride) (keep : Bool)
  | load (specs : List (AddonSpec ν)) (overrides : List AddonOverride)
  | hold
  | share (index : Nat)
  | install (index : Nat)
  | release (index : Nat)
  | releaseAll
  | setOptions (options : DispatchOptions)
  | dispatch (event : Event)

/-- The declaration of an addon. A filter that is not given selects everything. -/
structure AddonSpec (ν : Type) : Type where
  name : Option String
  requestFilter : Option String
  responseFilter : Option String
  onRequest : Option (Request → EventCtx ν → Program ν .request)
  onResponse : Option (Response → EventCtx ν → Program ν .response)
  onInit : Option (Lifecycle ν)
  onCleanup : Option (Lifecycle ν)

end

/-- A callback for messages of a kind. -/
abbrev Callback (ν : Type) (k : EventKind) := Traffic k → EventCtx ν → Program ν k

namespace AddonSpec

variable {ν : Type}

def empty : AddonSpec ν := ⟨none, none, none, none, none, none, none⟩

instance : Inhabited (AddonSpec ν) := ⟨empty⟩

/-- The id of the addon that is declared at a place. -/
def id (spec : AddonSpec ν) (i : Nat) : AddonId := spec.name.elim (.index i) .named

def filterText (spec : AddonSpec ν) : EventKind → Option String
  | .request => spec.requestFilter
  | .response => spec.responseFilter

end AddonSpec

namespace Program

variable {ν : Type} {k : EventKind}

/-- Runs a program in a state; `ask` performs operations and `say` takes remarks. -/
def run {σ : Type} (ask : Operation ν → σ → Answer × σ) (say : Remark ν → σ → σ) :
    Program ν k → σ → Ending (Traffic k) × σ
  | .finish ending, s => (ending, s)
  | .say remark next, s => run ask say next (say remark s)
  | .ask op next, s =>
    let (a, s) := ask op s
    run ask say (next a) s
termination_by structural p => p

end Program

end InterceptAddons
