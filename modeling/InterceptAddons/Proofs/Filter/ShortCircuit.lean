import InterceptAddons.Filter.Eval
import InterceptAddons.Proofs.Filter.Occurrences

/-!
# Short-circuit evaluation

`Expr.truth v` is the classical truth value of an expression whose predicates have the values that `v` tells;
`Expr.visited v` lists the predicates that evaluation comes to on its way from left to right, when it leaves out
what the result does not depend on any more. Main statement: `eval_short_circuit`. On a response, an expression
evaluates to its truth value. On a request it does so too, whatever value the predicates for responses only are
given, unless evaluation comes to one of these; the first one is then the error.
-/

namespace InterceptAddons.Filter

open Http

/-! ### Truth values and the way of evaluation -/

mutual

/-- The classical truth value of an expression that stands at a place. -/
def Expr.truth (v : Occurrence → Bool) (place : List Nat) : Expr → Bool
  | .all es => Expr.allTrue v place 0 es
  | .any es => Expr.someTrue v place 0 es
  | .not e => !e.truth v (place ++ [0])
  | .predicate name args => v ⟨place, name, args⟩

def Expr.allTrue (v : Occurrence → Bool) (place : List Nat) (i : Nat) : List Expr → Bool
  | [] => true
  | e :: es => e.truth v (place ++ [i]) && Expr.allTrue v place (i + 1) es

def Expr.someTrue (v : Occurrence → Bool) (place : List Nat) (i : Nat) : List Expr → Bool
  | [] => false
  | e :: es => e.truth v (place ++ [i]) || Expr.someTrue v place (i + 1) es

end

mutual

/-- The predicates that evaluation comes to, from left to right. -/
def Expr.visited (v : Occurrence → Bool) (place : List Nat) : Expr → List Occurrence
  | .all es => Expr.visitedWhile v true place 0 es
  | .any es => Expr.visitedWhile v false place 0 es
  | .not e => e.visited v (place ++ [0])
  | .predicate name args => [⟨place, name, args⟩]

/-- The predicates that evaluation comes to in branches, as long as their truth value is `b`. -/
def Expr.visitedWhile (v : Occurrence → Bool) (b : Bool) (place : List Nat) (i : Nat) :
    List Expr → List Occurrence
  | [] => []
  | e :: es => e.visited v (place ++ [i]) ++
    if e.truth v (place ++ [i]) = b then Expr.visitedWhile v b place (i + 1) es else []

end

namespace Occurrence

def isResponseOnly (o : Occurrence) : Bool := (Predicate.find? o.name).any (·.isResponseOnly)

/-- What the predicate says about a message, whether or not it may be asked. -/
def value (facts : Facts) (o : Occurrence) : Bool :=
  match Predicate.find? o.name with
  | none => false
  | some p =>
    match p.fitArgs o.args with
    | .ok args => p.test.run args facts
    | .error _ => false

/-- The value of the predicate, where `guess` tells the values of those for responses only by their places. -/
def assigned (facts : Facts) (guess : List Nat → Bool) (o : Occurrence) : Bool :=
  if o.isResponseOnly then guess o.place else o.value facts

/-- Why the predicate is not asked about a message, if it is not. -/
def refusal? (facts : Facts) (o : Occurrence) : Option EvalError :=
  match Predicate.find? o.name with
  | none => none
  | some p =>
    if p.isResponseOnly && facts.kind == .request then some (.invalidTarget p.name .request) else none

end Occurrence

/-! ### Evaluation -/

def outcome (refusal : Option EvalError) (b : Bool) : Except EvalError Bool := refusal.elim (.ok b) .error

theorem outcome_eq_ok_iff {r : Option EvalError} {t b : Bool} : outcome r t = .ok b ↔ r = none ∧ t = b := by
  cases r <;> simp [outcome]

theorem outcome_eq_error_iff {r : Option EvalError} {t : Bool} {err : EvalError} :
    outcome r t = .error err ↔ r = some err := by
  cases r <;> simp [outcome]

variable {facts : Facts} {v : Occurrence → Bool}

theorem bindPredicate_eq_ok {name : String} {args : List Literal} {b : Bound}
    (h : bindPredicate name args = .ok b) :
    ∃ p args', Predicate.find? name = some p ∧ p.fitArgs args = .ok args' ∧ b = .predicate p args' := by
  unfold bindPredicate at h
  split at h
  · cases h
  · next p hp =>
    split at h
    · next args' ha => exact ⟨p, args', hp, ha, (Except.ok.inj h).symm⟩
    · cases h

/-- A predicate that is asked gives its value. -/
theorem eval_predicate {name : String} {args : List Literal} {b : Bound} {place : List Nat}
    (hv : ∀ o, o.refusal? facts = none → v o = o.value facts) (h : bindPredicate name args = .ok b) :
    Bound.eval facts b = outcome (Occurrence.refusal? facts ⟨place, name, args⟩) (v ⟨place, name, args⟩) := by
  obtain ⟨p, args', hp, ha, rfl⟩ := bindPredicate_eq_ok h
  rw [Bound.eval, Predicate.eval]
  have hr : Occurrence.refusal? facts ⟨place, name, args⟩ =
      if p.isResponseOnly && facts.kind == .request then some (.invalidTarget p.name .request) else none := by
    rw [Occurrence.refusal?, hp]
  split
  · next hb =>
    rw [hr, if_pos hb]
    rfl
  · next hb =>
    rw [if_neg hb] at hr
    rw [hr, hv _ hr, Occurrence.value, hp]
    simp only [ha]
    rfl

/-- The first refusal among branches, from the first one and the others. -/
theorem findSome?_visitedWhile_cons (f : Occurrence → Option EvalError) (b : Bool) (place : List Nat) (i : Nat)
    (e : Expr) (es : List Expr) :
    (Expr.visitedWhile v b place i (e :: es)).findSome? f =
      ((e.visited v (place ++ [i])).findSome? f).or
        (if e.truth v (place ++ [i]) = b then (Expr.visitedWhile v b place (i + 1) es).findSome? f
          else none) := by
  rw [Expr.visitedWhile, List.findSome?_append]
  split <;> rfl

theorem outcome_all (r rs : Option EvalError) (t ts : Bool) :
    ((outcome r t).bind fun t => if t then outcome rs ts else .ok false) =
      outcome (r.or (if t = true then rs else none)) (t && ts) := by
  cases r with
  | some err => rfl
  | none => cases t <;> rfl

theorem outcome_any (r rs : Option EvalError) (t ts : Bool) :
    ((outcome r t).bind fun t => if t then .ok true else outcome rs ts) =
      outcome (r.or (if t = false then rs else none)) (t || ts) := by
  cases r with
  | some err => rfl
  | none => cases t <;> rfl

mutual

theorem eval_bound (hv : ∀ o, o.refusal? facts = none → v o = o.value facts) :
    ∀ (e : Expr) (b : Bound) (place : List Nat), e.bind = .ok b →
      Bound.eval facts b =
        outcome ((e.visited v place).findSome? (Occurrence.refusal? facts)) (e.truth v place)
  | .all es, b, place, h => by
    obtain ⟨bs, hs, rfl⟩ := map_eq_ok h
    rw [Bound.eval, Expr.visited, Expr.truth]
    exact evalAll_bound hv es bs place 0 hs
  | .any es, b, place, h => by
    obtain ⟨bs, hs, rfl⟩ := map_eq_ok h
    rw [Bound.eval, Expr.visited, Expr.truth]
    exact evalAny_bound hv es bs place 0 hs
  | .not e, b, place, h => by
    obtain ⟨b', hb, rfl⟩ := map_eq_ok h
    rw [Bound.eval, eval_bound hv e b' (place ++ [0]) hb, Expr.visited, Expr.truth]
    cases (e.visited v (place ++ [0])).findSome? (Occurrence.refusal? facts) <;> rfl
  | .predicate name args, b, place, h => by
    rw [Expr.visited, Expr.truth, List.findSome?_singleton]
    exact eval_predicate hv h

theorem evalAll_bound (hv : ∀ o, o.refusal? facts = none → v o = o.value facts) :
    ∀ (es : List Expr) (bs : List Bound) (place : List Nat) (i : Nat), bindList es = .ok bs →
      evalAll facts bs =
        outcome ((Expr.visitedWhile v true place i es).findSome? (Occurrence.refusal? facts))
          (Expr.allTrue v place i es)
  | [], bs, place, i, h => by
    cases h
    rfl
  | e :: es, bs, place, i, h => by
    obtain ⟨b, bs', hb, hs, rfl⟩ := bindList_cons_eq_ok h
    rw [evalAll, eval_bound hv e b (place ++ [i]) hb, evalAll_bound hv es bs' place (i + 1) hs,
      findSome?_visitedWhile_cons, Expr.allTrue, outcome_all]

theorem evalAny_bound (hv : ∀ o, o.refusal? facts = none → v o = o.value facts) :
    ∀ (es : List Expr) (bs : List Bound) (place : List Nat) (i : Nat), bindList es = .ok bs →
      evalAny facts bs =
        outcome ((Expr.visitedWhile v false place i es).findSome? (Occurrence.refusal? facts))
          (Expr.someTrue v place i es)
  | [], bs, place, i, h => by
    cases h
    rfl
  | e :: es, bs, place, i, h => by
    obtain ⟨b, bs', hb, hs, rfl⟩ := bindList_cons_eq_ok h
    rw [evalAny, eval_bound hv e b (place ++ [i]) hb, evalAny_bound hv es bs' place (i + 1) hs,
      findSome?_visitedWhile_cons, Expr.someTrue, outcome_any]

end

/-! ### Refusals -/

theorem refusal?_of_response (hk : facts.kind = .response) (o : Occurrence) : o.refusal? facts = none := by
  rw [Occurrence.refusal?]
  split
  · rfl
  · rw [hk, if_neg (by simp)]

theorem refusal?_eq_some_iff (hk : facts.kind = .request) {o : Occurrence} {err : EvalError} :
    o.refusal? facts = some err ↔ ∃ p, Predicate.find? o.name = some p ∧ p.isResponseOnly = true ∧
      err = .invalidTarget p.name .request := by
  rw [Occurrence.refusal?, hk]
  cases hp : Predicate.find? o.name with
  | none => simp
  | some p => simp [@eq_comm _ err]

theorem refusal?_eq_none_iff (hk : facts.kind = .request) {o : Occurrence} :
    o.refusal? facts = none ↔ o.isResponseOnly = false := by
  rw [Occurrence.refusal?, Occurrence.isResponseOnly, hk]
  cases Predicate.find? o.name <;> simp

/-- An assignment is true to the predicates that may be asked. -/
theorem assigned_of_refusal?_eq_none (hk : facts.kind = .request) (guess : List Nat → Bool) {o : Occurrence}
    (h : o.refusal? facts = none) : o.assigned facts guess = o.value facts := by
  rw [Occurrence.assigned, (refusal?_eq_none_iff hk).1 h]
  rfl

theorem Expr.eval_of_bind {e : Expr} {b : Bound} (h : e.bind = .ok b) :
    e.eval facts = Bound.eval facts b := by
  rw [Expr.eval, h]
  rfl

/-- **Short-circuit evaluation** of an expression that binds. On a response the result is its truth value. On a
request, whatever values are assigned to the predicates for responses only: a result is the truth value, and an
error is that of the first of these predicates that evaluation comes to. -/
theorem eval_short_circuit (e : Expr) (b : Bound) (hb : e.bind = .ok b) (facts : Facts) :
    (facts.kind = .response → e.eval facts = .ok (e.truth (·.value facts) [])) ∧
    (facts.kind = .request → ∀ guess : List Nat → Bool,
      (∀ r, e.eval facts = .ok r → r = e.truth (·.assigned facts guess) []) ∧
      ∀ err, e.eval facts = .error err ↔ ∃ before o after p,
        e.visited (·.assigned facts guess) [] = before ++ o :: after ∧
        (∀ o' ∈ before, o'.isResponseOnly = false) ∧
        Predicate.find? o.name = some p ∧ p.isResponseOnly = true ∧ err = .invalidTarget p.name .request) := by
  rw [Expr.eval_of_bind hb]
  refine ⟨fun hk => ?_, fun hk guess => ?_⟩
  · have hn : (e.visited (·.value facts) []).findSome? (Occurrence.refusal? facts) = none :=
      List.findSome?_eq_none_iff.2 fun o _ => refusal?_of_response hk o
    rw [eval_bound (fun _ _ => rfl) e b [] hb, hn]
    rfl
  · rw [eval_bound (v := (·.assigned facts guess)) (fun o ho => assigned_of_refusal?_eq_none hk guess ho) e b
      [] hb]
    refine ⟨fun r hr => (outcome_eq_ok_iff.1 hr).2.symm, fun err => ?_⟩
    rw [outcome_eq_error_iff, List.findSome?_eq_some_iff]
    constructor
    · rintro ⟨before, o, after, hs, ho, hbefore⟩
      obtain ⟨p, hp⟩ := (refusal?_eq_some_iff hk).1 ho
      exact ⟨before, o, after, p, hs, fun o' h => (refusal?_eq_none_iff hk).1 (hbefore o' h), hp⟩
    · rintro ⟨before, o, after, p, hs, hbefore, hp⟩
      exact ⟨before, o, after, hs, (refusal?_eq_some_iff hk).2 ⟨p, hp⟩,
        fun o' h => (refusal?_eq_none_iff hk).2 (hbefore o' h)⟩

/-- A request that passes the first part of a conjunction is refused by a status in the second one. -/
theorem eval_short_circuit_status :
    let e : Expr := .all [.predicate "from-proxy" [], .predicate "status-code-eq" [.int 200]]
    let facts : Facts := ⟨.request, .new ⟨"GET", by decide⟩ (.origin .asterisk), .none⟩
    (∃ b, e.bind = .ok b) ∧ e.eval facts = .error (.invalidTarget "status-code-eq" .request) := by
  intro e facts
  obtain ⟨b, hb⟩ : ∃ b, e.bind = .ok b := error?_eq_none_iff.1 (by decide +kernel)
  have hrow : (Predicate.find? "status-code-eq").map (fun p => (p.isResponseOnly, p.name)) =
      some (true, "status-code-eq") := by decide +kernel
  obtain ⟨p, hp, hn⟩ := Option.map_eq_some_iff.1 hrow
  obtain ⟨hr, hname⟩ := Prod.mk.inj hn
  have hvisited : e.visited (·.assigned facts fun _ => true) [] =
      [⟨[0], "from-proxy", []⟩] ++ ⟨[1], "status-code-eq", [.int 200]⟩ :: [] := by decide +kernel
  refine ⟨⟨b, hb⟩, (((eval_short_circuit e b hb facts).2 rfl fun _ => true).2 _).2 ?_⟩
  refine ⟨_, _, [], p, hvisited, List.forall_mem_singleton.2 (by decide +kernel), hp, hr, ?_⟩
  rw [hname]

end InterceptAddons.Filter
