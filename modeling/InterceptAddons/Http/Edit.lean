import InterceptAddons.Http.Response

/-!
# Edits

The changes of messages as data, so that a list of them can be carried out in order. An edit that cannot be
carried out says why.
-/

namespace InterceptAddons.Http

/-- Why an edit cannot be carried out. -/
inductive EditError
  | badMethod
  | badStatus
  | uri (e : UriError)
  | json (f : Json.Fault)
  deriving Repr, DecidableEq

def EditError.message : EditError → String
  | .badMethod => "invalid HTTP method"
  | .badStatus => "invalid status code"
  | .uri e => e.message
  | .json f => "json " ++ f.category ++ " error"

/-- A change of the common part. -/
inductive MessageEdit
  | setHeader (name value : String)
  | addHeader (name value : String)
  | eraseHeader (name : String)
  | setHeaders (headers : Headers)
  | setBody (body : List UInt8)
  | setJson (text : String)
  | attach (key value : String)
  | setTool (tool : Tool)
  | setId (id : UInt64)

/-- A change of a request. -/
inductive RequestEdit
  | setMethod (name : String)
  | setVersion (version : Version)
  | setUri (url : String)
  | setPath (path : String)
  | setQueryParam (key value : String)
  | setHost (host : String)
  | common (edit : MessageEdit)

/-- A change of a response. -/
inductive ResponseEdit
  | setStatus (code : Nat)
  | setReason (reason : String)
  | common (edit : MessageEdit)

def MessageEdit.apply (edit : MessageEdit) (m : Message) : Except EditError Message :=
  match edit with
  | .setHeader name value => .ok (m.setHeader name value)
  | .addHeader name value => .ok (m.addHeader name value)
  | .eraseHeader name => .ok (m.eraseHeader name)
  | .setHeaders headers => .ok (m.setHeaders headers)
  | .setBody body => .ok (m.setBody body)
  | .setJson text =>
    match Json.Value.read (.ofString text) with
    | .ok v => .ok (m.setJson v)
    | .error f => .error (.json f)
  | .attach key value => .ok (m.attach key value)
  | .setTool tool => .ok (m.setTool tool)
  | .setId id => .ok (m.setId id)

/-- The result of a change of the target. -/
def EditError.ofUri {α : Type} : Except UriError α → Except EditError α
  | .ok a => .ok a
  | .error e => .error (.uri e)

def RequestEdit.apply (edit : RequestEdit) (r : Request) : Except EditError Request :=
  match edit with
  | .setMethod name =>
    match Method.ofText? name with
    | some method => .ok (r.setMethod method)
    | none => .error .badMethod
  | .setVersion version => .ok (r.modify (·.setVersion version))
  | .setUri url => (EditError.ofUri (Uri.parse url)).map r.setUri
  | .setPath path => EditError.ofUri (r.setPath path)
  | .setQueryParam key value => EditError.ofUri (r.setQueryParam key value)
  | .setHost host => EditError.ofUri (r.setHost host)
  | .common edit => (edit.apply r.toMessage).map fun m => r.modify fun _ => m

def ResponseEdit.apply (edit : ResponseEdit) (r : Response) : Except EditError Response :=
  match edit with
  | .setStatus code =>
    match Status.ofNat? code with
    | some status => .ok (r.setStatus status)
    | none => .error .badStatus
  | .setReason reason => .ok (r.setReason reason)
  | .common edit => (edit.apply r.toMessage).map fun m => r.modify fun _ => m

end InterceptAddons.Http
