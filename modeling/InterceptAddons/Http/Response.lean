import InterceptAddons.Http.Request
import InterceptAddons.Http.Status

/-!
# Responses

A message with a status and the request that it answers.
-/

namespace InterceptAddons.Http

open InterceptAddons.Text

/-- A response. -/
structure Response extends Message where
  status : Status
  givenReason : Option String
  request : Request
  deriving DecidableEq

namespace Response

/-- A response without headers and with an empty body. Version, tool, id and attachments are those of the
request. -/
def new (request : Request) (status : Status) : Response where
  version := request.version
  headers := .empty
  body := []
  tool := request.tool
  id := request.id
  attachments := request.attachments
  status := status
  givenReason := none
  request := request

/-- Whether two responses are the same; the case of the request's scheme and authority does not matter. -/
def same (r s : Response) : Bool :=
  r.toMessage == s.toMessage && r.status == s.status && r.givenReason == s.givenReason &&
    r.request.same s.request

/-- The reason phrase: the given one, else the registered one. -/
def reason (r : Response) : String := (r.givenReason.or r.status.reason?).getD ""

/-- The value of a cookie that is set. Only the first part of a line is a cookie. -/
def cookie? (r : Response) (name : String) : Option String :=
  findCookie ((r.headers.getAll "Set-Cookie").map fun line => line.toList.takeWhile (· != ';')) name

def modify (r : Response) (f : Message → Message) : Response := { r with toMessage := f r.toMessage }

/-- Changes the status; a reason phrase that was given is dropped. -/
def setStatus (r : Response) (status : Status) : Response := { r with status, givenReason := none }

def setReason (r : Response) (reason : String) : Response := { r with givenReason := some reason }

end Response

end InterceptAddons.Http
