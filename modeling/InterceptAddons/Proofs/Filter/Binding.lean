import InterceptAddons.Proofs.Filter.ShortCircuit
import Mathlib.Data.List.Nodup

/-!
# Binding errors

A predicate in an expression is ill-formed if no row of the table has its name, if the row takes another number
of arguments, or if an argument does not fit. Main statement: `eval_binding_error`. On any message, the result of
an expression is a binding error exactly if some predicate in it is ill-formed, whether or not evaluation would
come to it, and the error is that of the first one.
-/

namespace InterceptAddons.Filter

open Http

/-! ### Well-formed predicates -/

/-- The arguments that fit a parameter of some kind. -/
inductive Fits : Kind → Literal → Prop
  | str (s : String) : Fits .str (.str s)
  | source (p : Pattern) : Fits .str (.regex p)
  | regex (p : Pattern) : Fits .pattern (.regex p)
  | compiles {s : String} {p : Pattern} (h : Pattern.compile? s = some p) : Fits .pattern (.str s)
  | bool (b : Bool) : Fits .bool (.bool b)
  | int (n : Int64) : Fits .int (.int n)

/-- What is wrong with an argument that does not fit. -/
def misfit (index : Nat) : Kind → Literal → ArgumentFault
  | .pattern, .str _ => .invalidRegex index
  | k, arg => .wrongKind index k.name arg.kindName

namespace Predicate

/-- Whether the predicate is the row of a name, up to ASCII case. -/
structure IsRow (p : Predicate) (name : String) : Prop where
  mem : p ∈ predicates
  name : p.name.toLower = name.toLower

def Takes (p : Predicate) (count : Nat) : Prop :=
  if p.isVariadic then p.params.length ≤ count else count = p.params.length

/-- The kind that the argument at a position must have; the last one counts for all after it. -/
def kindAt? (p : Predicate) (i : Nat) : Option Kind := p.params[i]?.or p.params.getLast?

def FitsAt (p : Predicate) (arg : Literal × Nat) : Prop := ∃ k, p.kindAt? arg.2 = some k ∧ Fits k arg.1

end Predicate

namespace Occurrence

/-- Why a predicate cannot be resolved. -/
inductive IllFormed (o : Occurrence) : Prop
  | unknown (h : ∀ p : Predicate, ¬ p.IsRow o.name)
  | count {p : Predicate} (hp : p.IsRow o.name) (h : ¬ p.Takes o.args.length)
  | argument {p : Predicate} (hp : p.IsRow o.name) {arg : Literal × Nat} (ha : arg ∈ o.args.zipIdx)
    (h : ¬ p.FitsAt arg)

/-- The error of a predicate that cannot be resolved: the number of arguments comes before their kinds, and the
first argument that does not fit before the others. -/
inductive Fault (o : Occurrence) : EvalError → Prop
  | unknown (h : ∀ p : Predicate, ¬ p.IsRow o.name) : Fault o (.unknownPredicate o.name)
  | count {p : Predicate} (hp : p.IsRow o.name) (h : ¬ p.Takes o.args.length) :
    Fault o (.badArguments p.name (.count p.isVariadic p.params.length o.args.length))
  | argument {p : Predicate} (hp : p.IsRow o.name) (hc : p.Takes o.args.length)
    {before after : List (Literal × Nat)} {arg : Literal} {i : Nat} {k : Kind}
    (ha : o.args.zipIdx = before ++ (arg, i) :: after) (hbefore : ∀ a ∈ before, p.FitsAt a)
    (hk : p.kindAt? i = some k) (h : ¬ Fits k arg) :
    Fault o (.badArguments p.name (misfit (i + 1) k arg))

end Occurrence

def EvalError.IsBinding : EvalError → Prop
  | .unknownPredicate _ | .badArguments _ _ => True
  | .invalidTarget _ _ => False

/-! ### Rows -/

/-- Different rows have different names, also up to ASCII case. -/
theorem predicates_nodup : (predicates.map (·.name.toLower)).Nodup := by decide +kernel

/-- What can be repeated is there. -/
theorem params_ne_nil_of_isVariadic : ∀ p ∈ predicates, p.isVariadic = true → p.params ≠ [] := by decide

namespace Predicate

variable {p q : Predicate} {name : String}

theorem IsRow.unique (hp : p.IsRow name) (hq : q.IsRow name) : p = q :=
  List.inj_on_of_nodup_map predicates_nodup hp.mem hq.mem (hp.name.trans hq.name.symm)

theorem find?_eq_some_iff : Predicate.find? name = some p ↔ p.IsRow name := by
  have found : ∀ {q}, Predicate.find? name = some q → q.IsRow name := fun {q} hq =>
    ⟨List.mem_of_find?_eq_some hq, by simpa [sameText] using List.find?_some hq⟩
  refine ⟨found, fun hp => ?_⟩
  cases h : Predicate.find? name with
  | some q => rw [(found h).unique hp]
  | none =>
    have hn := List.find?_eq_none.1 h p hp.mem
    simp [sameText, hp.name] at hn

theorem find?_eq_none_iff : Predicate.find? name = none ↔ ∀ p : Predicate, ¬ p.IsRow name := by
  simp [Option.eq_none_iff_forall_ne_some, find?_eq_some_iff]

theorem accepts_iff {count : Nat} : p.accepts count = true ↔ p.Takes count := by
  unfold accepts Takes
  split <;> simp

/-- When the number of arguments is right, every argument has a parameter. -/
theorem param?_of_takes (hp : p ∈ predicates) {count i : Nat} (hc : p.Takes count) (hi : i < count) :
    p.param? i = p.kindAt? i ∧ ∃ k, p.kindAt? i = some k := by
  unfold Takes at hc
  unfold param? kindAt?
  by_cases hv : p.isVariadic = true
  · have hne := params_ne_nil_of_isVariadic p hp hv
    simp [hv, List.getLast?_eq_some_getLast hne]
  · rw [if_neg hv] at hc
    have hi' : i < p.params.length := hc ▸ hi
    simp [hv, hi']

end Predicate

/-! ### Arguments -/

theorem error?_fit_of_fits {k : Kind} {arg : Literal} (h : Fits k arg) (index : Nat) :
    error? (k.fit index arg) = none := by
  cases h with
  | compiles hp => simp [Kind.fit, hp, error?]
  | str | source | regex | bool | int => rfl

theorem error?_fit_of_not_fits (index : Nat) : ∀ {k : Kind} {arg : Literal}, ¬ Fits k arg →
    error? (k.fit index arg) = some (misfit index k arg)
  | .str, .str s, h => absurd (.str s) h
  | .str, .regex p, h => absurd (.source p) h
  | .pattern, .regex p, h => absurd (.regex p) h
  | .bool, .bool b, h => absurd (.bool b) h
  | .int, .int n, h => absurd (.int n) h
  | .pattern, .str s, h => by
    cases hp : Pattern.compile? s with
    | some p => exact absurd (.compiles hp) h
    | none =>
      rw [Kind.fit, hp]
      rfl
  | .str, .bool _, _ | .str, .int _, _ | .pattern, .bool _, _ | .pattern, .int _, _
  | .bool, .str _, _ | .bool, .regex _, _ | .bool, .int _, _
  | .int, .str _, _ | .int, .regex _, _ | .int, .bool _, _ => rfl

theorem error?_fit_eq_none_iff {k : Kind} {arg : Literal} {index : Nat} :
    error? (k.fit index arg) = none ↔ Fits k arg := by
  refine ⟨fun h => ?_, fun h => error?_fit_of_fits h index⟩
  by_contra hn
  rw [error?_fit_of_not_fits index hn] at h
  cases h

theorem error?_fit_eq_some_iff {k : Kind} {arg : Literal} {index : Nat} {f : ArgumentFault} :
    error? (k.fit index arg) = some f ↔ ¬ Fits k arg ∧ f = misfit index k arg := by
  by_cases h : Fits k arg
  · simp [error?_fit_of_fits h, h]
  · simp [error?_fit_of_not_fits index h, h, eq_comm]

def Predicate.argumentFault? (p : Predicate) (arg : Literal × Nat) : Option ArgumentFault :=
  match p.param? arg.2 with
  | none => some (.unexpected (arg.2 + 1))
  | some k => error? (k.fit (arg.2 + 1) arg.1)

theorem error?_fitFrom (p : Predicate) (args : List Literal) (i : Nat) :
    error? (p.fitFrom i args) = (args.zipIdx i).findSome? p.argumentFault? := by
  induction args generalizing i with
  | nil => rfl
  | cons arg args ih =>
    rw [Predicate.fitFrom, List.zipIdx_cons, List.findSome?_cons, ← ih]
    simp only [Predicate.argumentFault?]
    cases p.param? i with
    | none => rfl
    | some k =>
      simp only [error?_bind_map]
      cases error? (k.fit (i + 1) arg) <;> rfl

section

variable {p : Predicate} {args : List Literal} {arg : Literal × Nat}

/-- An argument of the right number of arguments is wrong exactly if it does not fit the kind that it must
have. -/
theorem argumentFault?_eq (hp : p ∈ predicates) (hc : p.Takes args.length) (ha : arg ∈ args.zipIdx) :
    ∃ k, p.kindAt? arg.2 = some k ∧ p.argumentFault? arg = error? (k.fit (arg.2 + 1) arg.1) := by
  have hi : arg.2 < args.length := by simpa using (List.mem_zipIdx ha).2.1
  obtain ⟨hparam, k, hk⟩ := Predicate.param?_of_takes hp hc hi
  exact ⟨k, hk, by rw [Predicate.argumentFault?, hparam, hk]⟩

theorem argumentFault?_eq_none_iff (hp : p ∈ predicates) (hc : p.Takes args.length)
    (ha : arg ∈ args.zipIdx) : p.argumentFault? arg = none ↔ p.FitsAt arg := by
  obtain ⟨k, hk, hf⟩ := argumentFault?_eq hp hc ha
  rw [hf, error?_fit_eq_none_iff, Predicate.FitsAt, hk]
  simp

theorem argumentFault?_eq_some_iff (hp : p ∈ predicates) (hc : p.Takes args.length)
    (ha : arg ∈ args.zipIdx) {f : ArgumentFault} : p.argumentFault? arg = some f ↔
      ∃ k, p.kindAt? arg.2 = some k ∧ ¬ Fits k arg.1 ∧ f = misfit (arg.2 + 1) k arg.1 := by
  obtain ⟨k, hk, hf⟩ := argumentFault?_eq hp hc ha
  rw [hf, error?_fit_eq_some_iff, hk]
  simp

end

/-! ### Predicates by themselves -/

namespace Occurrence

variable {o : Occurrence} {p : Predicate} {err : EvalError}

theorem error?_of_not_isRow (h : ∀ p : Predicate, ¬ p.IsRow o.name) :
    o.error? = some (.unknownPredicate o.name) := by
  rw [error?, bindPredicate, Predicate.find?_eq_none_iff.2 h]
  rfl

theorem error?_of_not_takes (hp : p.IsRow o.name) (h : ¬ p.Takes o.args.length) :
    o.error? = some (.badArguments p.name (.count p.isVariadic p.params.length o.args.length)) := by
  rw [← Predicate.accepts_iff] at h
  rw [error?, bindPredicate, Predicate.find?_eq_some_iff.2 hp]
  simp only [Predicate.fitArgs, if_neg h]
  rfl

theorem error?_of_takes (hp : p.IsRow o.name) (h : p.Takes o.args.length) :
    o.error? = (o.args.zipIdx.findSome? p.argumentFault?).map (.badArguments p.name) := by
  rw [← Predicate.accepts_iff] at h
  rw [error?, bindPredicate, Predicate.find?_eq_some_iff.2 hp, ← error?_fitFrom]
  simp only [Predicate.fitArgs, if_pos h]
  cases p.fitFrom 0 o.args <;> rfl

/-- The first argument that does not fit is what is wrong with a predicate whose number of arguments is right. -/
theorem findSome?_argumentFault?_eq_some_iff (hp : p ∈ predicates) (hc : p.Takes o.args.length)
    {f : ArgumentFault} : o.args.zipIdx.findSome? p.argumentFault? = some f ↔
      ∃ before arg i after k, o.args.zipIdx = before ++ (arg, i) :: after ∧ (∀ a ∈ before, p.FitsAt a) ∧
        p.kindAt? i = some k ∧ ¬ Fits k arg ∧ f = misfit (i + 1) k arg := by
  rw [List.findSome?_eq_some_iff]
  constructor
  · rintro ⟨before, ⟨arg, i⟩, after, ha, hf, hbefore⟩
    have hmem : (arg, i) ∈ o.args.zipIdx := ha ▸ List.mem_append_right _ List.mem_cons_self
    obtain ⟨k, hk, hn, rfl⟩ := (argumentFault?_eq_some_iff hp hc hmem).1 hf
    refine ⟨before, arg, i, after, k, ha, fun a h => ?_, hk, hn, rfl⟩
    exact (argumentFault?_eq_none_iff hp hc (ha ▸ List.mem_append_left _ h)).1 (hbefore a h)
  · rintro ⟨before, arg, i, after, k, ha, hbefore, hk, hn, rfl⟩
    have hmem : (arg, i) ∈ o.args.zipIdx := ha ▸ List.mem_append_right _ List.mem_cons_self
    refine ⟨before, (arg, i), after, ha, ?_, fun a h => ?_⟩
    · exact (argumentFault?_eq_some_iff hp hc hmem).2 ⟨k, hk, hn, rfl⟩
    · exact (argumentFault?_eq_none_iff hp hc (ha ▸ List.mem_append_left _ h)).2 (hbefore a h)

theorem fault_iff : o.Fault err ↔ o.error? = some err := by
  constructor
  · rintro (h | ⟨hp, h⟩ | ⟨hp, hc, ha, hbefore, hk, h⟩)
    · exact error?_of_not_isRow h
    · exact error?_of_not_takes hp h
    · rw [error?_of_takes hp hc, (findSome?_argumentFault?_eq_some_iff hp.mem hc).2
        ⟨_, _, _, _, _, ha, hbefore, hk, h, rfl⟩]
      rfl
  · intro h
    by_cases hrow : ∃ p : Predicate, p.IsRow o.name
    · obtain ⟨p, hp⟩ := hrow
      by_cases hc : p.Takes o.args.length
      · rw [error?_of_takes hp hc] at h
        obtain ⟨f, hf, rfl⟩ := Option.map_eq_some_iff.1 h
        obtain ⟨_, _, _, _, _, ha, hbefore, hk, hn, rfl⟩ :=
          (findSome?_argumentFault?_eq_some_iff hp.mem hc).1 hf
        exact .argument hp hc ha hbefore hk hn
      · obtain rfl := Option.some.inj ((error?_of_not_takes hp hc).symm.trans h)
        exact .count hp hc
    · obtain rfl := Option.some.inj ((error?_of_not_isRow (not_exists.1 hrow)).symm.trans h)
      exact .unknown (not_exists.1 hrow)

theorem illFormed_iff : o.IllFormed ↔ o.error? ≠ none := by
  constructor
  · rintro (h | ⟨hp, h⟩ | @⟨p, hp, arg, ha, h⟩)
    · rw [error?_of_not_isRow h]
      exact Option.some_ne_none _
    · rw [error?_of_not_takes hp h]
      exact Option.some_ne_none _
    · by_cases hc : p.Takes o.args.length
      · intro hn
        rw [error?_of_takes hp hc, Option.map_eq_none_iff, List.findSome?_eq_none_iff] at hn
        exact h ((argumentFault?_eq_none_iff hp.mem hc ha).1 (hn arg ha))
      · rw [error?_of_not_takes hp hc]
        exact Option.some_ne_none _
  · intro h
    obtain ⟨err, herr⟩ := Option.ne_none_iff_exists'.1 h
    rcases fault_iff.2 herr with h | ⟨hp, h⟩ | ⟨hp, hc, ha, -, hk, h⟩
    · exact .unknown h
    · exact .count hp h
    · refine .argument hp (ha ▸ List.mem_append_right _ List.mem_cons_self) ?_
      rintro ⟨k', hk', hfits⟩
      obtain rfl := Option.some.inj (hk'.symm.trans hk)
      exact h hfits

theorem isBinding_of_fault (h : o.Fault err) : err.IsBinding := by
  cases h <;> trivial

end Occurrence

/-! ### Expressions -/

theorem isBinding_of_error?_bind {e : Expr} {err : EvalError} (h : error? e.bind = some err) :
    err.IsBinding := by
  rw [error?_bind e []] at h
  obtain ⟨_, o, _, _, ho, _⟩ := List.findSome?_eq_some_iff.1 h
  exact Occurrence.isBinding_of_fault (Occurrence.fault_iff.2 ho)

/-- An expression that binds gives no binding error. -/
theorem not_isBinding_of_eval {facts : Facts} {b : Bound} {e : Expr} {err : EvalError} (hb : e.bind = .ok b)
    (h : e.eval facts = .error err) : ¬ err.IsBinding := by
  rw [Expr.eval_of_bind hb, eval_bound (fun _ _ => rfl) e b [] hb, outcome_eq_error_iff] at h
  obtain ⟨_, o, _, _, ho, _⟩ := List.findSome?_eq_some_iff.1 h
  cases hk : facts.kind with
  | request =>
    obtain ⟨p, -, -, rfl⟩ := (refusal?_eq_some_iff hk).1 ho
    exact id
  | response =>
    rw [refusal?_of_response hk] at ho
    cases ho

theorem eval_eq_binding_error_iff {facts : Facts} {e : Expr} {err : EvalError} :
    err.IsBinding ∧ e.eval facts = .error err ↔ error? e.bind = some err := by
  constructor
  · rintro ⟨hk, h⟩
    cases hb : e.bind with
    | ok b => exact absurd hk (not_isBinding_of_eval hb h)
    | error err' =>
      rw [Expr.eval, hb] at h
      exact congrArg some (Except.error.inj h)
  · intro h
    refine ⟨isBinding_of_error?_bind h, ?_⟩
    rw [Expr.eval, error?_eq_some_iff.1 h]
    rfl

/-- **Binding errors.** On any message, the result of an expression is a binding error exactly if some predicate in
it is ill-formed. The error is then that of the first one from left to right, and the same on every message. -/
theorem eval_binding_error (e : Expr) (facts : Facts) :
    ((∃ err, err.IsBinding ∧ e.eval facts = .error err) ↔ ∃ o ∈ e.occurrences [], o.IllFormed) ∧
    (∀ err, err.IsBinding ∧ e.eval facts = .error err ↔ ∃ before o after,
      e.occurrences [] = before ++ o :: after ∧ (∀ o' ∈ before, ¬ o'.IllFormed) ∧ o.Fault err) ∧
    ∀ facts' err, err.IsBinding ∧ e.eval facts = .error err ↔ err.IsBinding ∧ e.eval facts' = .error err := by
  refine ⟨?_, fun err => ?_, fun facts' err => ?_⟩
  · have hbind : (∃ err, err.IsBinding ∧ e.eval facts = .error err) ↔ error? e.bind ≠ none := by
      simp [eval_eq_binding_error_iff, Option.ne_none_iff_exists']
    rw [hbind, error?_bind e [], Ne, List.findSome?_eq_none_iff]
    simp [Occurrence.illFormed_iff]
  · rw [eval_eq_binding_error_iff, error?_bind e [], List.findSome?_eq_some_iff]
    simp only [Occurrence.illFormed_iff, Occurrence.fault_iff, not_not]
    constructor
    · rintro ⟨before, o, after, hs, ho, hbefore⟩
      exact ⟨before, o, after, hs, hbefore, ho⟩
    · rintro ⟨before, o, after, hs, hbefore, ho⟩
      exact ⟨before, o, after, hs, ho, hbefore⟩
  · rw [eval_eq_binding_error_iff, eval_eq_binding_error_iff]

end InterceptAddons.Filter
