import InterceptAddons.Engine.Describe
import InterceptAddons.Http.Edit

/-!
# Scripted addons

Callbacks that are described by data: steps that change a copy of the message or use the services, and how
the callback ends. A scripted callback leaves traces of what it does among the log records.
-/

namespace InterceptAddons.Script

open Http

/-! ### Traces -/

/-- What a scripted callback leaves behind. -/
inductive Trace
  | callback (addon : AddonId) (kind : EventKind)
  | stage (stage : Stage) (addon : String)
  | returned (value : Bool)
  | context (addon : AddonId) (kind : EventKind) (id : UInt64) (hasAnnotator : Bool)
  | description (text : String)
  | inScope (value : Bool)
  | marked (id : UInt64) (mark : Mark)
  | nested (result : Except EditError Answer)

/-! ### Scripts -/

/-- The edits of messages of a kind. -/
abbrev Edit : EventKind → Type
  | .request => RequestEdit
  | .response => ResponseEdit

def applyEdit : {k : EventKind} → Edit k → Traffic k → Except EditError (Traffic k)
  | .request, e, r => RequestEdit.apply e r
  | .response, e, r => ResponseEdit.apply e r

def setBody : {k : EventKind} → Traffic k → List UInt8 → Traffic k
  | .request, r, body => Request.modify r (·.setBody body)
  | .response, r, body => Response.modify r (·.setBody body)

/-- A step of a script. An operation that cannot be built counts as done with an error. -/
inductive Step (k : EventKind)
  | edit (e : Edit k)
  | mark (a : Mark)
  | log (level : Level) (text : String) (error : Option String)
  | context
  | describe
  | inScope (url : String)
  | cipher (spec : String) (key : List UInt8) (decrypt : Bool)
  | ask (op : Except EditError (Operation Trace))

/-- How a script ends. -/
inductive Last
  | proceed
  | drop
  | intercept
  | fail (f : Failure)

/-- A scripted callback. -/
structure Body (k : EventKind) where
  steps : List (Step k)
  last : Last

/-! ### Meaning -/

def Last.ending {α : Type} (m : α) : Last → Ending α
  | .proceed => .ok (.proceed m)
  | .drop => .ok .drop
  | .intercept => .ok (.intercept m)
  | .fail f => .error f

def cipherBody {k : EventKind} (ctx : EventCtx Trace) (spec : String) (key : List UInt8) (decrypt : Bool)
    (m : Traffic k) : Except String (Traffic k) :=
  (ctx.newCipher spec).bind fun withKey =>
    (withKey key).bind fun c =>
      ((if decrypt then c.decrypt else c.encrypt) m.message.body).map fun body => setBody m body

/-- Goes on with the result of a step, or ends with its error. -/
def andThen {k : EventKind} {α : Type} (r : Except String α) (next : α → Program Trace k) :
    Program Trace k :=
  match r with
  | .ok a => next a
  | .error text => .finish (.error (.returned text))

def leave {k : EventKind} (t : Trace) (next : Program Trace k) : Program Trace k :=
  .say (.host t) next

/-- The program of steps that start with a message. -/
def runSteps {k : EventKind} (ctx : EventCtx Trace) (last : Last) :
    List (Step k) → Traffic k → Program Trace k
  | [], m => .finish (last.ending m)
  | .edit e :: steps, m =>
    andThen ((applyEdit e m).mapError EditError.message) (runSteps ctx last steps)
  | .mark a :: steps, m =>
    match ctx.annotate a with
    | some t => leave t (leave (.returned true) (runSteps ctx last steps m))
    | none => leave (.returned false) (runSteps ctx last steps m)
  | .log level text error :: steps, m =>
    .say (ctx.remark level text error) (runSteps ctx last steps m)
  | .context :: steps, m =>
    leave (.context ctx.addon ctx.kind ctx.id ctx.services.annotator.isSome)
      (runSteps ctx last steps m)
  | .describe :: steps, m => leave (.description ctx.describe) (runSteps ctx last steps m)
  | .inScope url :: steps, m => leave (.inScope (ctx.inScope url)) (runSteps ctx last steps m)
  | .cipher spec key decrypt :: steps, m =>
    andThen (cipherBody ctx spec key decrypt m) (runSteps ctx last steps)
  | .ask (.ok op) :: steps, m =>
    .ask op fun answer => leave (.nested (.ok answer)) (runSteps ctx last steps m)
  | .ask (.error e) :: steps, m => leave (.nested (.error e)) (runSteps ctx last steps m)

def Body.callback {k : EventKind} (b : Body k) (m : Traffic k) (ctx : EventCtx Trace) :
    Program Trace k :=
  leave (.callback ctx.addon ctx.kind) (runSteps ctx b.last b.steps m)

/-- A scripted callback outside of traffic, of an addon that may have a name. -/
def lifecycle (stage : Stage) (addon : Option String) (failure : Option Failure) : Lifecycle Trace where
  notes := [.stage stage (addon.getD "?")]
  failure := failure

/-! ### Services -/

/-- A service that leaves a trace of every mark. -/
def annotator : Annotator Trace := fun id a => .marked id a

/-- Combines octets with a key that is repeated as often as needed. -/
def xorWith (key data : List UInt8) : List UInt8 :=
  data.mapIdx fun i b => b ^^^ key.getD (i % key.length) 0

/-- A service with one cipher, which combines the body with a key. -/
def crypto : CipherFactory := fun spec =>
  if spec = "XOR" then
    .ok fun key =>
      if key.isEmpty then .error "empty key"
      else .ok ⟨fun data => .ok (xorWith key data), fun data => .ok (xorWith key data)⟩
  else .error ("unsupported cipher " ++ spec)

end InterceptAddons.Script
