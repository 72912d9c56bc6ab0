import InterceptAddons.Http.Attachments
import InterceptAddons.Http.Headers
import InterceptAddons.Http.Method
import InterceptAddons.Http.Tool
import InterceptAddons.Json.Printer
import InterceptAddons.Text.Utf8

/-!
# Messages

What requests and responses have in common: headers, a body, and what the proxy knows about them. A new
body keeps an existing `Content-Length` line right.
-/

namespace InterceptAddons.Http

open InterceptAddons.Text

/-- The common part of a request or response. -/
structure Message where
  version : Version
  headers : Headers
  body : List UInt8
  tool : Tool
  id : UInt64
  attachments : Attachments
  deriving DecidableEq

namespace Message

def header? (m : Message) (name : String) : Option String := m.headers.get? name

/-- The body as text, with U+FFFD for octets that form no character. -/
def bodyText (m : Message) : String := String.ofList (decodeLossy m.body)

def bodyJson (m : Message) : Except Json.Fault Json.Value := Json.Value.read (decodeUnits m.body)

/-! ### Changes -/

def setHeaders (m : Message) (headers : Headers) : Message := { m with headers }

/-- Makes a header have exactly one value. -/
def setHeader (m : Message) (name value : String) : Message := m.setHeaders (m.headers.set name value)

def addHeader (m : Message) (name value : String) : Message := m.setHeaders (m.headers.add name value)

def eraseHeader (m : Message) (name : String) : Message := m.setHeaders (m.headers.erase name)

/-- The headers that go with a body of the given size. -/
def syncLength (headers : Headers) (size : Nat) : Headers :=
  if headers.contains "Content-Length" then headers.set "Content-Length" (toString size) else headers

def setBody (m : Message) (body : List UInt8) : Message :=
  { m with body, headers := syncLength m.headers body.length }

/-- Makes the body a JSON value and says so in the headers. -/
def setJson (m : Message) (v : Json.Value) : Message :=
  (m.setBody (octets v.print)).setHeader "Content-Type" "application/json"

def attach (m : Message) (key value : String) : Message :=
  { m with attachments := m.attachments.insert key value }

def setTool (m : Message) (tool : Tool) : Message := { m with tool }

def setId (m : Message) (id : UInt64) : Message := { m with id }

def setVersion (m : Message) (version : Version) : Message := { m with version }

end Message

/-! ### Cookies -/

/-- The name and the value of a cookie, from a piece of a header line. -/
def cookieParts (piece : List Char) : Option (List Char × List Char) :=
  (cutFirst '=' (trim piece)).map fun p => (trim p.1, trim p.2)

/-- The value of the first cookie with a name, among pieces of header lines. -/
def findCookie (pieces : List (List Char)) (name : String) : Option String :=
  ((pieces.filterMap cookieParts).find? (·.1 == name.toList)).map fun p => String.ofList p.2

end InterceptAddons.Http
