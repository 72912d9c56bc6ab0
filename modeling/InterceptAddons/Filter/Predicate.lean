import InterceptAddons.Facts
import InterceptAddons.Filter.Expr
import InterceptAddons.Text.Quoted

/-!
# Predicates

The built-in predicates: a table of rows with the kinds of their parameters and the tests they stand for.
A row's name is found in any letter case. A test looks at the message, at its text or at its JSON value;
the latter two are looked at only where a predicate asks for them.
-/

namespace InterceptAddons.Filter

open InterceptAddons.Text

/-! ### Rows -/

/-- The kind of a parameter. -/
inductive Kind
  | str
  | pattern
  | bool
  | int
  deriving Repr, DecidableEq

def Kind.name : Kind → String
  | .str => "string"
  | .pattern => "regex"
  | .bool => "boolean"
  | .int => "integer"

def Kind.label : Kind → String
  | .str => "Str"
  | .pattern => "Pattern"
  | .bool => "Bool"
  | .int => "Int"

/-- What a predicate asks, given its arguments. -/
inductive Test
  | facts (test : List Literal → Facts → Bool)
  | text (test : List Literal → String → Bool)
  | json (test : List Literal → Option Json.Value → Bool)

def Test.run (t : Test) (args : List Literal) (facts : Facts) : Bool :=
  match t with
  | .facts test => test args facts
  | .text test => test args facts.text
  | .json test => test args facts.json?

/-- A predicate. A variadic one may repeat its last parameter. -/
structure Predicate where
  name : String
  params : List Kind
  isVariadic : Bool := false
  isResponseOnly : Bool := false
  doc : String
  test : Test

namespace Predicate

/-- The kind of the parameter at a position. -/
def param? (p : Predicate) (i : Nat) : Option Kind :=
  p.params[i]?.or (if p.isVariadic then p.params.getLast? else none)

def accepts (p : Predicate) (count : Nat) : Bool :=
  if p.isVariadic then p.params.length ≤ count else count == p.params.length

def signature (p : Predicate) : String :=
  "(" ++ p.name ++ String.join (p.params.map fun k => " " ++ k.name) ++
    (if p.isVariadic then "..." else "") ++ ")"

def describe (p : Predicate) : String :=
  shownRecord "PredicateDef" [("name", quoted p.name), ("params", shownList (p.params.map Kind.label)),
    ("variadic", shownBool p.isVariadic)]

end Predicate

/-! ### Arguments -/

/-- The arguments that are texts. -/
def strs (args : List Literal) : List String := args.filterMap Literal.str?

/-- The arguments that are integers. -/
def ints (args : List Literal) : List Int64 := args.filterMap Literal.int?

/-- Whether the argument at a position is a pattern that matches somewhere in a text. -/
def patternMatches (args : List Literal) (i : Nat) (text : String) : Bool :=
  (args[i]?.bind Literal.pattern?).any (·.isMatch text)

/-- Whether two texts are the same up to ASCII case. -/
def sameText (s t : String) : Bool := s.toLower == t.toLower

/-- Whether the last segment of a path ends with an extension, which may come with its dot. -/
def hasExtension (file : List Char) (ext : String) : Bool :=
  let ext := match ext.toList with
    | '.' :: cs => cs
    | cs => cs
  (dropEnd? ext file).any fun stem => stem.getLast? == some '.'

def isNumber (n : Int64) (m : Nat) : Bool := n.toInt == (m : Int)

/-! ### The table -/

/-- The built-in predicates. -/
def predicates : List Predicate := [
  { name := "true"
    params := []
    doc := "Always true."
    test := .facts fun _ _ => true },
  { name := "in-scope"
    params := []
    doc := "The request URL is in the target scope."
    test := .facts fun _ f => f.inScope },
  { name := "host-matches"
    params := [.pattern]
    doc := "The pattern matches somewhere in the request host; anchor with ^ and $ for an exact match."
    test := .facts fun args f => f.request.host?.any (patternMatches args 0) },
  { name := "path-contains"
    params := [.str]
    doc := "The URL path contains the substring (case-sensitive)."
    test := .facts fun args f =>
      (strs args).any fun s => hasPart s.toList f.request.path.toList },
  { name := "path-matches"
    params := [.pattern]
    doc := "The pattern matches somewhere in the URL path."
    test := .facts fun args f => patternMatches args 0 f.request.path },
  { name := "file-ext-eq"
    params := [.str]
    isVariadic := true
    doc := "The last path segment ends with one of the extensions."
    test := .facts fun args f => (strs args).any (hasExtension f.request.file) },
  { name := "method-eq"
    params := [.str]
    isVariadic := true
    doc := "The request method is one of the given methods."
    test := .facts fun args f => (strs args).any (sameText f.request.method.name) },
  { name := "header-matches"
    params := [.str, .pattern]
    doc := "The pattern matches somewhere in some value of the named header."
    test := .facts fun args f =>
      (args.head?.bind Literal.str?).any fun name =>
        (f.own.headers.getAll name).any (patternMatches args 1) },
  { name := "has-header"
    params := [.str]
    isVariadic := true
    doc := "Any of the named headers is present."
    test := .facts fun args f => (strs args).any f.own.headers.contains },
  { name := "has-cookie"
    params := [.str]
    isVariadic := true
    doc := "Any of the named cookies is sent (requests) or set (responses)."
    test := .facts fun args f => (strs args).any fun name => (f.cookie? name).isSome },
  { name := "has-query-param"
    params := [.str]
    isVariadic := true
    doc := "Any of the named query parameters is present."
    test := .facts fun args f => (strs args).any fun name => (f.request.queryParam? name).isSome },
  { name := "has-form-param"
    params := [.str]
    isVariadic := true
    doc := "Any of the named url-encoded form parameters is present in the request body."
    test := .facts fun args f => (strs args).any fun name => (f.request.formParam? name).isSome },
  { name := "query-param-matches"
    params := [.str, .pattern]
    doc := "The pattern matches somewhere in the decoded value of the named query parameter; " ++
      "anchor with ^ and $ for an exact match."
    test := .facts fun args f =>
      ((args.head?.bind Literal.str?).bind f.request.queryParam?).any (patternMatches args 1) },
  { name := "has-json-key"
    params := [.str]
    isVariadic := true
    doc := "The body is JSON containing any of the dotted keys."
    test := .json fun args json => json.any fun v => (strs args).any v.hasPath },
  { name := "body-contains"
    params := [.pattern]
    doc := "The pattern matches somewhere in the body."
    test := .text fun args text => patternMatches args 0 text },
  { name := "body-matches"
    params := [.pattern]
    doc := "The pattern matches the entire body."
    test := .text fun args text =>
      (args.head?.bind Literal.pattern?).any (·.isFullMatch text) },
  { name := "status-code-eq"
    params := [.int]
    isVariadic := true
    isResponseOnly := true
    doc := "The response status is one of the codes."
    test := .facts fun args f => f.status?.any fun s => (ints args).any (isNumber · s.code) },
  { name := "status-code-in"
    params := [.int, .int]
    isResponseOnly := true
    doc := "The response status lies in the inclusive range."
    test := .facts fun args f =>
      match f.status?, ints args with
      | some s, lo :: hi :: _ => lo.toInt ≤ (s.code : Int) && (s.code : Int) ≤ hi.toInt
      | _, _ => false },
  { name := "listener-port-eq"
    params := [.int]
    isVariadic := true
    doc := "The request targets one of the ports."
    test := .facts fun args f => f.request.port?.any fun port => (ints args).any (isNumber · port) },
  { name := "tool-source-eq"
    params := [.str]
    isVariadic := true
    doc := "The message came from one of the named tools."
    test := .facts fun args f => (strs args).any (sameText f.own.tool.name) },
  { name := "from-proxy"
    params := []
    doc := "The message is live proxy traffic."
    test := .facts fun _ f => f.own.tool.isProxy },
  { name := "has-attachment"
    params := [.str]
    isVariadic := true
    doc := "An earlier addon attached any of the keys."
    test := .facts fun args f => (strs args).any f.own.attachments.contains }]

/-- The predicate with a name, in any letter case. -/
def Predicate.find? (name : String) : Option Predicate :=
  predicates.find? fun p => sameText p.name name

end InterceptAddons.Filter
