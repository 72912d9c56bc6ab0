import InterceptAddons.Http.Component
import InterceptAddons.Http.Message
import InterceptAddons.Http.Uri

/-!
# Requests

A message with a method and a target. Where the target names no host, the `Host` header does. The changes
return a new request; those that touch the target can fail.
-/

namespace InterceptAddons.Http

open InterceptAddons.Text

/-- A request. -/
structure Request extends Message where
  method : Method
  uri : Uri
  deriving DecidableEq

namespace Request

/-- A request without headers and with an empty body. -/
def new (method : Method) (uri : Uri) : Request where
  version := .http11
  headers := .empty
  body := []
  tool := .proxy
  id := 0
  attachments := .empty
  method := method
  uri := uri

def ofUrl (method : Method) (url : String) : Except UriError Request := (Uri.parse url).map (new method)

/-- Whether two requests are the same; the case of the target's scheme and authority does not matter. -/
def same (r s : Request) : Bool :=
  r.toMessage == s.toMessage && r.method == s.method && r.uri.same s.uri

/-! ### Where it goes -/

/-- Host and port of a `Host` header. A colon inside brackets parts nothing. -/
def splitHost (cs : List Char) : List Char × Option Nat :=
  if cs.head? = some '[' then
    match cutFirst ']' cs with
    | some (address, ':' :: port) => (address ++ [']'], unsigned? portLimit port)
    | some (address, _) => (address ++ [']'], none)
    | none => (cs, none)
  else
    match cutLast ':' cs with
    | some (host, port) =>
      match unsigned? portLimit port with
      | some n => (host, some n)
      | none => (cs, none)
    | none => (cs, none)

/-- The `Host` header without white space around it. -/
def hostHeader? (r : Request) : Option (List Char) := (r.header? "Host").map fun h => trim h.toList

/-- The scheme; without one it is `http`. -/
def scheme (r : Request) : String := String.ofList (r.uri.scheme?.getD .http).text

/-- The host, from the target or else from the `Host` header. -/
def host? (r : Request) : Option String :=
  (r.uri.host?.or (r.hostHeader?.map fun h => (splitHost h).1)).map String.ofList

/-- The port that goes with a scheme. -/
def defaultPort? (scheme : String) : Option Nat :=
  match scheme.toLower with
  | "https" => some 443
  | "http" => some 80
  | _ => none

/-- The port: from the target, or else from the `Host` header, or else the one of the scheme. -/
def port? (r : Request) : Option Nat :=
  let explicit :=
    match r.uri.authority? with
    | some a => a.port?
    | none => r.hostHeader?.bind fun h => (splitHost h).2
  explicit.or (defaultPort? r.scheme)

def path (r : Request) : String := String.ofList r.uri.path

def query? (r : Request) : Option String := r.uri.query?.map String.ofList

/-- The whole URL, as far as it is known. -/
def url (r : Request) : String :=
  match r.uri.authority?, r.hostHeader? with
  | some _, _ => String.ofList r.uri.print
  | none, some host => r.scheme ++ "://" ++ String.ofList (host ++ r.uri.target.text)
  | none, none => String.ofList r.uri.target.text

/-! ### Parameters -/

def queryParam? (r : Request) (name : String) : Option String :=
  (r.uri.query?.bind fun q => findPair q name.toList).map String.ofList

/-- Whether the body is a form that is written like a query. -/
def hasForm (r : Request) : Bool :=
  (r.header? "Content-Type").any fun type =>
    startsWith "application/x-www-form-urlencoded".toList type.toLower.toList

/-- The value of a parameter of the form in the body. -/
def formParam? (r : Request) (name : String) : Option String :=
  if r.hasForm then (findPair (decodeLossy r.body) name.toList).map String.ofList else none

def cookie? (r : Request) (name : String) : Option String :=
  findCookie ((r.headers.getAll "Cookie").flatMap fun line => splitOn ';' line.toList) name

/-- The last segment of the path. -/
def file (r : Request) : List Char := afterLast '/' r.uri.path

/-- What follows the last dot of the last segment of the path. -/
def fileExtension? (r : Request) : Option String :=
  (cutLast '.' r.file).map fun p => String.ofList p.2

/-! ### Changes -/

def modify (r : Request) (f : Message → Message) : Request := { r with toMessage := f r.toMessage }

def setMethod (r : Request) (method : Method) : Request := { r with method }

def setUri (r : Request) (uri : Uri) : Request := { r with uri }

/-- Changes path and query to those of a text. -/
def setTarget (r : Request) (text : List Char) : Except UriError Request :=
  (Target.parse text).bind fun t => (r.uri.withTarget t).map r.setUri

/-- Changes the path and keeps the query. -/
def setPath (r : Request) (path : String) : Except UriError Request :=
  r.setTarget (path.toList ++ r.uri.target.queryText)

/-- The name and value of a query parameter as they are written. -/
def writtenPair (key value : String) : List Char :=
  encodeComponent key.toList ++ '=' :: encodeComponent value.toList

/-- Puts `pair` in the place of the first pair with the name, drops the others, and appends it if there is
none. -/
def replacePair (key : String) (pair : List Char) : List (List Char) → List (List Char)
  | [] => [pair]
  | p :: ps =>
    let hasKey := fun p => decodeComponent (pairParts p).1 == key.toList
    if hasKey p then pair :: ps.filter (!hasKey ·) else p :: replacePair key pair ps

/-- Gives a query parameter exactly one value. -/
def setQueryParam (r : Request) (key value : String) : Except UriError Request :=
  let pairs := replacePair key (writtenPair key value) (pairsOf (r.uri.query?.getD []))
  r.setTarget (r.uri.path ++ '?' :: List.intercalate ['&'] pairs)

/-- Changes the host and keeps the port; a `Host` header follows. -/
def setHost (r : Request) (host : String) : Except UriError Request :=
  let text :=
    match r.uri.port? with
    | some port => host ++ ":" ++ toString port
    | none => host
  let headers := if r.headers.contains "Host" then r.headers.set "Host" text else r.headers
  match r.uri.authority? with
  | some _ => (Authority.parse text.toList).map fun a => { r with headers, uri := r.uri.withAuthority a }
  | none => .ok { r with headers }

end Request

end InterceptAddons.Http
