import InterceptAddons.Http.Uri.Error
import InterceptAddons.Text.Numeral
import InterceptAddons.Text.Split

/-!
# Authorities

User, host and port of a URI. A scan from left to right counts colons and looks at brackets, `@` and `%`;
`Authority.parse` accepts the texts that pass it as a whole.
-/

namespace InterceptAddons.Http

open InterceptAddons.Text

/-! ### The scan -/

/-- What the scan remembers of the characters read: the colons since the last `@` or `]`, the brackets,
a percent sign since the last `@` or `]`, and whether the last character was `@`. -/
structure AuthorityScan where
  colons : Nat := 0
  opened : Bool := false
  closed : Bool := false
  percent : Bool := false
  afterAt : Bool := false
  deriving Repr, DecidableEq

/-- The colons that may follow one another without an `@` or `]` between them. -/
def maxColons : Nat := 8

/-- A character that an authority may hold besides brackets, colons, `@` and `%`. -/
def isAuthorityChar (c : Char) : Bool := c.isAlphanum || "!$&'()*+,-.;=_~".toList.contains c

def AuthorityScan.step (s : AuthorityScan) (c : Char) : Except UriError AuthorityScan :=
  if c = ':' then
    if s.colons < maxColons then .ok { s with colons := s.colons + 1, afterAt := false }
    else .error .invalidAuthority
  else if c = '[' then
    if s.percent || s.opened then .error .invalidAuthority
    else .ok { s with opened := true, afterAt := false }
  else if c = ']' then
    if !s.opened || s.closed then .error .invalidAuthority
    else .ok { s with closed := true, colons := 0, percent := false, afterAt := false }
  else if c = '@' then .ok { s with colons := 0, percent := false, afterAt := true }
  else if c = '%' then .ok { s with percent := true, afterAt := false }
  else if isAuthorityChar c then .ok { s with afterAt := false }
  else .error .invalidChar

def AuthorityScan.run : AuthorityScan → List Char → Except UriError AuthorityScan
  | s, [] => .ok s
  | s, c :: cs => (s.step c).bind (·.run cs)

def AuthorityScan.mayEnd (s : AuthorityScan) : Bool :=
  s.opened == s.closed && s.colons ≤ 1 && !s.afterAt && !s.percent

def checkAuthority (cs : List Char) : Except UriError Unit :=
  (AuthorityScan.run {} cs).bind fun s => if s.mayEnd then .ok () else .error .invalidAuthority

/-! ### The type -/

/-- The authority of a URI. -/
structure Authority where
  text : List Char
  nonempty : text ≠ []
  checked : (checkAuthority text).isOk = true
  deriving DecidableEq

def endsAuthority (c : Char) : Bool := c == '/' || c == '?' || c == '#'

def portLimit : Nat := 0x10000

namespace Authority

/-- The authority with the given text, which is checked up to the first `/`, `?` or `#` before that
character is refused. -/
def parse (cs : List Char) : Except UriError Authority :=
  if hne : cs = [] then .error .empty
  else
    match checkAuthority (cs.takeWhile (!endsAuthority ·)) with
    | .error e => .error e
    | .ok _ =>
      if hc : (checkAuthority cs).isOk = true then .ok ⟨cs, hne, hc⟩ else .error .invalidChar

/-- The text after the user: a host, and perhaps a port. -/
def hostPort (a : Authority) : List Char := afterLast '@' a.text

/-- The host: up to the bracket that closes an address in brackets, else up to a colon. -/
def host (a : Authority) : List Char :=
  match a.hostPort with
  | '[' :: cs => '[' :: cs.takeWhile (· != ']') ++ [']']
  | cs => cs.takeWhile (· != ':')

/-- The number after the last colon, if it is a port. -/
def port? (a : Authority) : Option Nat := (cutLast ':' a.text).bind fun p => unsigned? portLimit p.2

def same (a b : Authority) : Bool := a.text.map Char.toLower == b.text.map Char.toLower

end Authority

end InterceptAddons.Http
