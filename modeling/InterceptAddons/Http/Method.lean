/-!
# Methods and versions

A request method is a non-empty token of visible ASCII characters.
-/

namespace InterceptAddons.Http

def isTokenChar (c : Char) : Bool := c.isAlphanum || "!#$%&'*+-.^_`|~".toList.contains c

def isToken (s : String) : Bool := !s.isEmpty && s.toList.all isTokenChar

/-- A request method. -/
structure Method where
  name : String
  isToken : isToken name = true
  deriving Repr, DecidableEq

namespace Method

/-- The method that a text names, if it is a token. -/
def ofText? (text : String) : Option Method :=
  if h : Http.isToken text = true then some ⟨text, h⟩ else none

end Method

/-- A protocol version. -/
inductive Version
  | http09 | http10 | http11 | http2 | http3
  deriving Repr, DecidableEq

namespace Version

def print : Version → String
  | .http09 => "HTTP/0.9"
  | .http10 => "HTTP/1.0"
  | .http11 => "HTTP/1.1"
  | .http2 => "HTTP/2.0"
  | .http3 => "HTTP/3.0"

def ofText? : String → Option Version
  | "HTTP/0.9" => some .http09
  | "HTTP/1.0" => some .http10
  | "HTTP/1.1" => some .http11
  | "HTTP/2.0" => some .http2
  | "HTTP/3.0" => some .http3
  | _ => none

end Version

end InterceptAddons.Http
