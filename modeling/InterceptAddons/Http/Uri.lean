import InterceptAddons.Http.Uri.Authority
import InterceptAddons.Http.Uri.Target

/-!
# URIs

The target of a request in its four forms: `/path?query`, `scheme://authority/path?query`, `authority`
and `*`. `Uri.parse` reads one, `Uri.print` writes one, and `Uri.same` compares two without regard to the
case of scheme and authority.
-/

namespace InterceptAddons.Http

open InterceptAddons.Text

/-! ### Schemes -/

/-- A scheme; the two usual ones are known in any case. -/
inductive Scheme
  | http
  | https
  | other (text : List Char)
  deriving Repr, DecidableEq

namespace Scheme

def text : Scheme → List Char
  | .http => "http".toList
  | .https => "https".toList
  | .other cs => cs

/-- Whether two schemes are the same up to ASCII case. -/
def same (s t : Scheme) : Bool := s.text.map Char.toLower == t.text.map Char.toLower

def isSchemeChar (c : Char) : Bool := c.isAlphanum || c == '+' || c == '-' || c == '.' || c == '~'

/-- The characters that a scheme may have. -/
def maxLength : Nat := 64

/-- What follows `part` in any ASCII case. -/
def dropPart? (part cs : List Char) : Option (List Char) :=
  if startsWith part (cs.map Char.toLower) then some (cs.drop part.length) else none

/-- The scheme before `://` and the text behind it, if the text starts with a scheme. -/
def cut (cs : List Char) : Except UriError (Option (Scheme × List Char)) :=
  match dropPart? "http://".toList cs, dropPart? "https://".toList cs with
  | some rest, _ => .ok (some (.http, rest))
  | none, some rest => .ok (some (.https, rest))
  | none, none =>
    let name := cs.takeWhile isSchemeChar
    match dropPart? "://".toList (cs.dropWhile isSchemeChar) with
    | none => .ok none
    | some rest =>
      if cs.length ≤ 3 then .ok none
      else if name.length ≤ maxLength then .ok (some (.other name, rest))
      else .error .schemeTooLong

end Scheme

/-! ### The type -/

/-- A request target: a path at the server that is asked, a bare authority, or all of scheme, authority
and path. -/
inductive Uri
  | origin (target : Target)
  | bare (authority : Authority)
  | absolute (scheme : Scheme) (authority : Authority) (target : Target)
  deriving DecidableEq

namespace Uri

def scheme? : Uri → Option Scheme
  | absolute s _ _ => some s
  | _ => none

def authority? : Uri → Option Authority
  | bare a | absolute _ a _ => some a
  | origin _ => none

/-- Path and query as they came. -/
def target : Uri → Target
  | origin t | absolute _ _ t => t
  | bare _ => .empty

/-- What follows the scheme and `://`. -/
def parseAfterScheme (s : Scheme) (cs : List Char) : Except UriError Uri :=
  match cs with
  | [] => .error .empty
  | cs =>
    let text := cs.takeWhile (!endsAuthority ·)
    let rest := cs.dropWhile (!endsAuthority ·)
    if text.isEmpty then .error .invalidFormat
    else (Authority.parse text).bind fun a =>
      if rest.isEmpty then .ok (absolute s a .empty) else (Target.parse rest).map (absolute s a)

/-- A text without a scheme, all of which has to be an authority. -/
def parseAuthority (cs : List Char) : Except UriError Uri :=
  let text := cs.takeWhile (!endsAuthority ·)
  (checkAuthority text).bind fun _ =>
    if text = cs then (Authority.parse cs).map bare else .error .invalidFormat

def parse (s : String) : Except UriError Uri :=
  if maxUriSize < s.utf8ByteSize then .error .tooLong
  else
    match s.toList with
    | [] => .error .empty
    | ['*'] => .ok (origin .asterisk)
    | [c] =>
      if c = '/' then (Target.parse [c]).map origin else (Authority.parse [c]).map bare
    | c :: cs =>
      if c = '/' then (Target.parse (c :: cs)).map origin
      else
        (Scheme.cut (c :: cs)).bind fun
          | some (scheme, rest) => parseAfterScheme scheme rest
          | none => parseAuthority (c :: cs)

/-! ### Parts -/

/-- The path. Without one it is the root, except that a bare authority has none. -/
def path (u : Uri) : List Char :=
  if u.target.isEmpty && u.scheme?.isNone then []
  else if u.target.path.isEmpty then ['/'] else u.target.path

def query? (u : Uri) : Option (List Char) := u.target.query

def host? (u : Uri) : Option (List Char) := u.authority?.map Authority.host

def port? (u : Uri) : Option Nat := u.authority?.bind Authority.port?

def print (u : Uri) : List Char :=
  (match u.scheme? with
    | some s => s.text ++ "://".toList
    | none => []) ++
  (match u.authority? with
    | some a => a.text
    | none => []) ++
  u.path ++
  u.target.queryText

/-- Whether two optional parts are both absent or the same. -/
def sameOption {α : Type} (same : α → α → Bool) : Option α → Option α → Bool
  | some a, some b => same a b
  | none, none => true
  | _, _ => false

/-- Whether two URIs are the same; the case of scheme and authority does not matter. -/
def same (u v : Uri) : Bool :=
  sameOption Scheme.same u.scheme? v.scheme? && sameOption Authority.same u.authority? v.authority? &&
    u.path == v.path && u.query? == v.query?

/-! ### Changes -/

/-- Changes path and query; a bare authority takes none. -/
def withTarget (u : Uri) (t : Target) : Except UriError Uri :=
  match u with
  | origin _ => .ok (origin t)
  | absolute s a _ => .ok (absolute s a t)
  | bare _ => .error .missingScheme

/-- Changes the authority, if there is one. -/
def withAuthority (u : Uri) (a : Authority) : Uri :=
  match u with
  | origin t => origin t
  | bare _ => bare a
  | absolute s _ t => absolute s a t

end Uri

end InterceptAddons.Http
