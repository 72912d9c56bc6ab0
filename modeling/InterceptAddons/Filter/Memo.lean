import InterceptAddons.Filter.Basic

/-!
# Filters and views that remember

A filter that is used again and again is resolved once, and a view that many filters look at decodes its
body once, and only if a predicate asks for it. `Prepared` and `View` hold what has been found out so far;
each question returns its answer together with the filter and the view as they are afterwards.
-/

namespace InterceptAddons.Filter

/-- A place for a result that is computed when it is first asked for. -/
abbrev Slot (α : Type) := Option α

/-- The result, and the place with it. -/
def Slot.get {α : Type} (slot : Slot α) (compute : Unit → α) : α × Slot α :=
  match slot with
  | some a => (a, some a)
  | none =>
    let a := compute ()
    (a, some a)

/-! ### Views -/

/-- A view with places for the decoded body. -/
structure View where
  facts : Facts
  text : Slot String := none
  json : Slot (Option Json.Value) := none

namespace View

def getText (v : View) : String × View :=
  let (a, text) := v.text.get fun _ => v.facts.text
  (a, { v with text })

def getJson (v : View) : Option Json.Value × View :=
  let (a, json) := v.json.get fun _ => v.facts.json?
  (a, { v with json })

end View

/-- Puts the question of a predicate to a view. -/
def Test.ask (t : Test) (args : List Literal) (v : View) : Bool × View :=
  match t with
  | .facts test => (test args v.facts, v)
  | .text test =>
    let (body, v) := v.getText
    (test args body, v)
  | .json test =>
    let (body, v) := v.getJson
    (test args body, v)

def Predicate.ask (p : Predicate) (args : List Literal) (v : View) : Except EvalError Bool × View :=
  if p.isResponseOnly && v.facts.kind == .request then (.error (.invalidTarget p.name .request), v)
  else
    let (b, v) := p.test.ask args v
    (.ok b, v)

mutual

def Bound.ask : Bound → View → Except EvalError Bool × View
  | .all bs, v => askAll bs v
  | .any bs, v => askAny bs v
  | .not b, v =>
    let (r, v) := Bound.ask b v
    (r.map (!·), v)
  | .predicate p args, v => p.ask args v

/-- Whether all expressions hold; nothing is asked after one that does not. -/
def askAll : List Bound → View → Except EvalError Bool × View
  | [], v => (.ok true, v)
  | b :: bs, v =>
    match Bound.ask b v with
    | (.ok true, v) => askAll bs v
    | r => r

/-- Whether some expression holds; nothing is asked after one that does. -/
def askAny : List Bound → View → Except EvalError Bool × View
  | [], v => (.ok false, v)
  | b :: bs, v =>
    match Bound.ask b v with
    | (.ok false, v) => askAny bs v
    | r => r

end

/-! ### Filters -/

/-- A filter with a place for its resolved expression, or for the error instead of it. -/
structure Prepared where
  filter : Filter
  bound : Slot (Except EvalError Bound) := none

namespace Prepared

def getBound (p : Prepared) : Except EvalError Bound × Prepared :=
  let (b, bound) := p.bound.get fun _ => p.filter.expr.bind
  (b, { p with bound })

def check (p : Prepared) : Except EvalError Unit × Prepared :=
  let (b, p) := p.getBound
  (b.map fun _ => (), p)

def selects (p : Prepared) (v : View) : Except EvalError Bool × Prepared × View :=
  match p.getBound with
  | (.ok b, p) =>
    let (r, v) := b.ask v
    (r, p, v)
  | (.error e, p) => (.error e, p, v)

end Prepared

end InterceptAddons.Filter
