import InterceptAddons.Http.Traffic
import InterceptAddons.Scope

/-!
# Facts

One message as filters see it. URL, method and scope of a response are those of the request it answers;
headers, body, cookies, tool and attachments are its own.
-/

namespace InterceptAddons

open Http

/-- A view of one message. -/
structure Facts where
  kind : EventKind
  message : Traffic kind
  scope : Scope

namespace Facts

def of {k : EventKind} (message : Traffic k) (scope : Scope) : Facts := ⟨k, message, scope⟩

/-- The part that all messages have. -/
def own (f : Facts) : Message := f.message.message

/-- The request itself, or the one that a response answers. -/
def request (f : Facts) : Request := f.message.request

def response? (f : Facts) : Option Response := f.message.response?

def text (f : Facts) : String := f.own.bodyText

def json? (f : Facts) : Option Json.Value := f.own.bodyJson.toOption

def inScope (f : Facts) : Bool := f.scope f.request.url

def cookie? (f : Facts) (name : String) : Option String := f.message.cookie? name

def status? (f : Facts) : Option Status := f.response?.map Response.status

def reason? (f : Facts) : Option String := f.response?.map Response.reason

end Facts

end InterceptAddons
