import InterceptAddons.Http.Edit
import InterceptAddons.Proofs.Filter.Binding
import Mathlib.Logic.Relation

/-!
# What predicates read

A predicate asks about the request, which for a response is the one that it answers, or about the content of the
message itself. Main statement: `eval_sources`. Filters of the first kind give the same result on a response as on
its request, and filters of the second kind the same result on any two responses with the same content.
-/

namespace InterceptAddons.Filter

open Http

/-! ### Expressions -/

/-- The predicate gives the same result on two views. -/
def Predicate.Agrees (p : Predicate) (f g : Facts) : Prop := ∀ args, p.eval args f = p.eval args g

variable {f g : Facts}

mutual

theorem eval_congr_bound : ∀ (e : Expr) (b : Bound) (place : List Nat), e.bind = .ok b →
    (∀ o ∈ e.occurrences place, ∀ p, Predicate.find? o.name = some p → p.Agrees f g) →
      Bound.eval f b = Bound.eval g b
  | .all es, b, place, h, ha => by
    obtain ⟨bs, hs, rfl⟩ := map_eq_ok h
    rw [Bound.eval, Bound.eval]
    exact (eval_congr_boundList es bs place 0 hs ha).1
  | .any es, b, place, h, ha => by
    obtain ⟨bs, hs, rfl⟩ := map_eq_ok h
    rw [Bound.eval, Bound.eval]
    exact (eval_congr_boundList es bs place 0 hs ha).2
  | .not e, b, place, h, ha => by
    obtain ⟨b', hb, rfl⟩ := map_eq_ok h
    rw [Bound.eval, Bound.eval, eval_congr_bound e b' (place ++ [0]) hb ha]
  | .predicate name args, b, place, h, ha => by
    obtain ⟨p, args', hp, -, rfl⟩ := bindPredicate_eq_ok h
    rw [Bound.eval, Bound.eval]
    exact ha ⟨place, name, args⟩ (List.mem_singleton_self _) p hp args'

theorem eval_congr_boundList : ∀ (es : List Expr) (bs : List Bound) (place : List Nat) (i : Nat),
    bindList es = .ok bs →
    (∀ o ∈ Expr.occurrencesFrom place i es, ∀ p, Predicate.find? o.name = some p → p.Agrees f g) →
      evalAll f bs = evalAll g bs ∧ evalAny f bs = evalAny g bs
  | [], bs, place, i, h, _ => by
    cases h
    exact ⟨rfl, rfl⟩
  | e :: es, bs, place, i, h, ha => by
    obtain ⟨b, bs', hb, hs, rfl⟩ := bindList_cons_eq_ok h
    have he := eval_congr_bound e b (place ++ [i]) hb fun o ho => ha o (List.mem_append_left _ ho)
    obtain ⟨hall, hany⟩ :=
      eval_congr_boundList es bs' place (i + 1) hs fun o ho => ha o (List.mem_append_right _ ho)
    rw [evalAll, evalAll, evalAny, evalAny, he, hall, hany]
    exact ⟨rfl, rfl⟩

end

theorem Expr.eval_congr {e : Expr}
    (h : ∀ o ∈ e.occurrences [], ∀ p, Predicate.find? o.name = some p → p.Agrees f g) : e.eval f = e.eval g := by
  unfold Expr.eval
  cases hb : e.bind with
  | error err => rfl
  | ok b => exact eval_congr_bound e b [] hb h

/-- Every predicate of the expression has one of the names, in any letter case. -/
def Expr.BuiltFrom (names : List String) (e : Expr) : Prop := ∀ o ∈ e.occurrences [], o.name.toLower ∈ names

/-! ### Views -/

/-- Two views with the same request and the same scope. -/
structure SameRequest (f g : Facts) : Prop where
  request : f.request = g.request
  scope : f.scope = g.scope

/-- Two views that show the same content. -/
structure SameContent (f g : Facts) : Prop where
  kind : f.kind = g.kind
  status : f.status? = g.status?
  headers : f.own.headers = g.own.headers
  cookie : f.cookie? = g.cookie?
  text : f.text = g.text
  json : f.json? = g.json?
  tool : f.own.tool = g.own.tool
  attachments : f.own.attachments = g.own.attachments

/-- What two responses must have in common to show the same content; their requests need not. -/
theorem sameContent_of_response {r r' : Response} (scope scope' : Scope) (hs : r.status = r'.status)
    (hh : r.headers = r'.headers) (hb : r.body = r'.body) (ht : r.tool = r'.tool)
    (ha : r.attachments = r'.attachments) :
    SameContent ⟨.response, r, scope⟩ ⟨.response, r', scope'⟩ where
  kind := rfl
  status := congrArg some hs
  headers := hh
  cookie := by
    funext name
    show r.cookie? name = r'.cookie? name
    rw [Response.cookie?, Response.cookie?, hh]
  text := by
    show r.bodyText = r'.bodyText
    rw [Message.bodyText, Message.bodyText, hb]
  json := by
    show r.bodyJson.toOption = r'.bodyJson.toOption
    rw [Message.bodyJson, Message.bodyJson, hb]
  tool := ht
  attachments := ha

def Changes (r r' : Response) : Prop := ∃ edit : ResponseEdit, edit.apply r = .ok r'

theorem Changes.request {r r' : Response} (h : Changes r r') : r'.request = r.request := by
  obtain ⟨edit, h⟩ := h
  cases edit with
  | setStatus code =>
    simp only [ResponseEdit.apply] at h
    split at h
    · obtain rfl := Except.ok.inj h
      rfl
    · cases h
  | setReason reason =>
    obtain rfl := Except.ok.inj h
    rfl
  | common edit =>
    obtain ⟨m, -, rfl⟩ := map_eq_ok h
    rfl

/-! ### Rows -/

/-- The predicates about the request. -/
def requestNames : List String :=
  ["true", "in-scope", "host-matches", "path-contains", "path-matches", "file-ext-eq", "method-eq",
    "has-query-param", "has-form-param", "query-param-matches", "listener-port-eq"]

/-- The predicates about the content of the message. -/
def contentNames : List String :=
  ["true", "header-matches", "has-header", "has-cookie", "has-json-key", "body-contains", "body-matches",
    "status-code-eq", "status-code-in", "tool-source-eq", "from-proxy", "has-attachment"]

/-- Every row is of one of the two kinds. -/
theorem name_mem_or : ∀ p ∈ predicates, p.name ∈ requestNames ∨ p.name ∈ contentNames := by decide

theorem toLower_name : ∀ p ∈ predicates, p.name.toLower = p.name := by decide +kernel

/-- Rows about the request read nothing but the request and the scope. -/
theorem run_of_requestNames (h : SameRequest f g) : ∀ p ∈ predicates, p.name ∈ requestNames →
    p.isResponseOnly = false ∧ ∀ args, p.test.run args f = p.test.run args g := by
  simp [predicates, requestNames, Test.run, Facts.inScope, h.request, h.scope]

/-- Rows about the content read nothing but the content. -/
theorem run_of_contentNames (h : SameContent f g) : ∀ p ∈ predicates, p.name ∈ contentNames →
    ∀ args, p.test.run args f = p.test.run args g := by
  simp [predicates, contentNames, Test.run, h.status, h.headers, h.cookie, h.text, h.json, h.tool, h.attachments]

theorem Expr.BuiltFrom.row {names : List String} {e : Expr} (h : e.BuiltFrom names) {o : Occurrence}
    (ho : o ∈ e.occurrences []) {p : Predicate} (hp : Predicate.find? o.name = some p) :
    p ∈ predicates ∧ p.name ∈ names := by
  have hrow := Predicate.find?_eq_some_iff.1 hp
  refine ⟨hrow.mem, ?_⟩
  rw [← toLower_name p hrow.mem, hrow.name]
  exact h o ho

/-- Expressions agree on two views if their rows do. -/
theorem Expr.BuiltFrom.eval_eq {names : List String} {e : Expr} (he : e.BuiltFrom names)
    (hrows : ∀ p ∈ predicates, p.name ∈ names →
      p.isResponseOnly = false ∧ ∀ args, p.test.run args f = p.test.run args g) : e.eval f = e.eval g := by
  refine e.eval_congr fun o ho p hp args => ?_
  obtain ⟨hmem, hname⟩ := he.row ho hp
  obtain ⟨hr, ht⟩ := hrows p hmem hname
  -- the kinds of the messages may differ, but no such row asks for the kind
  rw [Predicate.eval, Predicate.eval, hr, ht]
  rfl

theorem eval_of_sameRequest (hs : SameRequest f g) {e : Expr} (he : e.BuiltFrom requestNames) :
    e.eval f = e.eval g :=
  he.eval_eq (run_of_requestNames hs)

theorem eval_of_sameContent (hs : SameContent f g) {e : Expr} (he : e.BuiltFrom contentNames) :
    e.eval f = e.eval g := by
  refine e.eval_congr fun o ho p hp args => ?_
  obtain ⟨hmem, hname⟩ := he.row ho hp
  rw [Predicate.eval, Predicate.eval, hs.kind, run_of_contentNames hs p hmem hname]

/-- **Responses answer questions about the request from their request, and questions about the content from
themselves.** An expression of the first kind gives the same on a response as on its request, and changes of the
response make no difference to it. An expression of the second kind gives the same on any two responses with equal
status, headers, body, tool and attachments, whatever their requests and the scope are. Every row of the table is of
one of the two kinds. -/
theorem eval_sources :
    (∀ (r : Response) (scope : Scope) (e : Expr), e.BuiltFrom requestNames →
      e.eval ⟨.response, r, scope⟩ = e.eval ⟨.request, r.request, scope⟩ ∧
      ∀ r', Relation.ReflTransGen Changes r r' →
        e.eval ⟨.response, r', scope⟩ = e.eval ⟨.response, r, scope⟩) ∧
    (∀ (r r' : Response) (scope scope' : Scope) (e : Expr), e.BuiltFrom contentNames →
      r.status = r'.status → r.headers = r'.headers → r.body = r'.body → r.tool = r'.tool →
      r.attachments = r'.attachments →
        e.eval ⟨.response, r, scope⟩ = e.eval ⟨.response, r', scope'⟩) ∧
    ∀ p ∈ predicates, p.name ∈ requestNames ∨ p.name ∈ contentNames := by
  refine ⟨fun r scope e he => ⟨?_, fun r' hr => ?_⟩, ?_, name_mem_or⟩
  · have hs : SameRequest ⟨.response, r, scope⟩ ⟨.request, r.request, scope⟩ := ⟨rfl, rfl⟩
    exact eval_of_sameRequest hs he
  · have hrequest : r'.request = r.request := by
      induction hr with
      | refl => rfl
      | tail _ h ih => exact h.request.trans ih
    have hs : SameRequest ⟨.response, r', scope⟩ ⟨.response, r, scope⟩ := ⟨hrequest, rfl⟩
    exact eval_of_sameRequest hs he
  · intro r r' scope scope' e he hs hh hb ht ha
    exact eval_of_sameContent (sameContent_of_response scope scope' hs hh hb ht ha) he

end InterceptAddons.Filter
