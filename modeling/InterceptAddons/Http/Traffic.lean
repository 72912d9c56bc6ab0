import InterceptAddons.Http.Response

/-!
# Traffic

The two kinds of messages that pass through the proxy, and what can be asked of either.
-/

namespace InterceptAddons.Http

/-- The kind of a message. -/
inductive EventKind
  | request
  | response
  deriving Repr, DecidableEq

def EventKind.name : EventKind → String
  | .request => "request"
  | .response => "response"

def EventKind.label : EventKind → String
  | .request => "Request"
  | .response => "Response"

/-- The messages of a kind. -/
abbrev Traffic : EventKind → Type
  | .request => Request
  | .response => Response

namespace Traffic

/-- The part that all messages have. -/
def message : {k : EventKind} → Traffic k → Message
  | .request, r => Request.toMessage r
  | .response, r => Response.toMessage r

/-- The request itself, or the one that a response answers. -/
def request : {k : EventKind} → Traffic k → Request
  | .request, r => r
  | .response, r => Response.request r

def response? : {k : EventKind} → Traffic k → Option Response
  | .request, _ => none
  | .response, r => some r

/-- The value of a cookie: one that is sent with a request, or set by a response. -/
def cookie? : {k : EventKind} → Traffic k → String → Option String
  | .request, r => Request.cookie? r
  | .response, r => Response.cookie? r

end Traffic

/-- A message of either kind. -/
structure Event where
  kind : EventKind
  message : Traffic kind

end InterceptAddons.Http
