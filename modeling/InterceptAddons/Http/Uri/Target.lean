import InterceptAddons.Http.Uri.Error
import InterceptAddons.Text.Split
import InterceptAddons.Text.Utf8

/-!
# Paths and queries

The part of a URI after its authority: a path, and a query after `?`. A fragment after `#` is dropped
unseen.
-/

namespace InterceptAddons.Http

open InterceptAddons.Text

/-- The octets that a URI may have. -/
def maxUriSize : Nat := 65534

def isPathChar (c : Char) : Bool :=
  let n := c.toNat
  n == 0x21 || n == 0x22 || (0x24 ≤ n && n ≤ 0x3B) || n == 0x3D || (0x40 ≤ n && n ≤ 0x5F) ||
    (0x61 ≤ n && n ≤ 0x7E) || 0x80 ≤ n

def isQueryChar (c : Char) : Bool :=
  let n := c.toNat
  n == 0x21 || (0x24 ≤ n && n ≤ 0x3B) || n == 0x3D || (0x3F ≤ n && n ≤ 0x7E) || 0x80 ≤ n

/-- Whether a text may stand before the query: nothing, `*`, or a path that starts with `/`. -/
def isPathShape (cs : List Char) : Bool :=
  cs.isEmpty || cs == ['*'] || (cs.head? == some '/' && cs.all isPathChar)

/-- A path and a query. -/
structure Target where
  path : List Char
  query : Option (List Char)
  pathShape : isPathShape path = true
  queryChars : (query.all (·.all isQueryChar)) = true
  deriving DecidableEq

namespace Target

def empty : Target := ⟨[], none, by decide, by decide⟩

/-- The target that stands for the whole server. -/
def asterisk : Target := ⟨['*'], none, by decide, by decide⟩

/-- The target with given parts, if their characters allow it. -/
def ofParts (path : List Char) (query : Option (List Char)) : Except UriError Target :=
  if hp : isPathShape path = true then
    if hq : (query.all (·.all isQueryChar)) = true then .ok ⟨path, query, hp, hq⟩
    else .error .invalidChar
  else .error .invalidChar

/-- The path before the first `?` and the query behind it. -/
def split (cs : List Char) : List Char × Option (List Char) :=
  match cutFirst '?' cs with
  | some (path, query) => (path, some query)
  | none => (cs, none)

def parse (cs : List Char) : Except UriError Target :=
  match cs with
  | [] => .error .empty
  | ['*'] => .ok asterisk
  | c :: _ =>
    if c = '/' ∨ c = '?' ∨ c = '#' then
      if maxUriSize < byteSize cs then .error .tooLong
      else
        let parts := split (cs.takeWhile (· != '#'))
        ofParts parts.1 parts.2
    else .error .missingSlash

def isEmpty (t : Target) : Bool := t.path.isEmpty && t.query.isNone

def queryText (t : Target) : List Char :=
  match t.query with
  | some q => '?' :: q
  | none => []

/-- Path and query as they are written; without either, the root. -/
def text (t : Target) : List Char := if t.isEmpty then ['/'] else t.path ++ t.queryText

end Target

end InterceptAddons.Http
