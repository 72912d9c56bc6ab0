import InterceptAddons.Filter.Eval
import InterceptAddons.Proofs.Filter.Occurrences
import Mathlib.Logic.Relation

/-!
# Rewriting expressions

`Rewrites e f` is one step of rewriting at any place in an expression: a negation moves one level down, two
negations fall away, or a conjunction in a conjunction (a disjunction in a disjunction) gives way to its branches.
Main statement: `eval_rewritten`. Rewriting does not change what an expression evaluates to on any message, errors
included, and `Expr.normalForm` is where it ends.

The proof goes through `Expr.verdict`, the binding error of an expression or else the result of its evaluation.
Verdicts of branches are put together by `Verdict.link`, which is associative and has a neutral verdict, and
negation turns its two forms into each other; each rewriting rule is one of these laws.
-/

namespace InterceptAddons.Filter

/-! ### Rules -/

/-- A conjunction, or else a disjunction. -/
def Expr.node (isAll : Bool) (es : List Expr) : Expr := if isAll then .all es else .any es

/-- One step of rewriting. -/
inductive Rewrites : Expr → Expr → Prop
  | notNot (e : Expr) : Rewrites (.not (.not e)) e
  | notNode (isAll : Bool) (es : List Expr) : Rewrites (.not (.node isAll es)) (.node (!isAll) (es.map .not))
  | splice (isAll : Bool) (front es back : List Expr) :
    Rewrites (.node isAll (front ++ .node isAll es :: back)) (.node isAll (front ++ (es ++ back)))
  | inNot {e f : Expr} (h : Rewrites e f) : Rewrites (.not e) (.not f)
  | inNode (isAll : Bool) (front back : List Expr) {e f : Expr} (h : Rewrites e f) :
    Rewrites (.node isAll (front ++ e :: back)) (.node isAll (front ++ f :: back))

abbrev RewritesTo : Expr → Expr → Prop := Relation.ReflTransGen Rewrites

/-- An expression to which no rule applies: negations stand before predicates only, and no conjunction is a branch
of a conjunction, no disjunction one of a disjunction. -/
def Expr.IsNormal (e : Expr) : Prop := ∀ f, ¬Rewrites e f

/-- The expression, or its negation. -/
def Expr.signed (isNegated : Bool) (e : Expr) : Expr := if isNegated then .not e else e

/-- The branches that an expression gives to a conjunction (or disjunction) around it. -/
def Expr.branches (isAll : Bool) : Expr → List Expr
  | .all es => if isAll then es else [.all es]
  | .any es => if isAll then [.any es] else es
  | e => [e]

mutual

/-- The normal form of an expression, or of its negation. -/
def Expr.normal (isNegated : Bool) : Expr → Expr
  | .all es => .node (!isNegated) (normalBranches isNegated (!isNegated) es)
  | .any es => .node isNegated (normalBranches isNegated isNegated es)
  | .not e => e.normal (!isNegated)
  | .predicate name args => .signed isNegated (.predicate name args)

def normalBranches (isNegated isAll : Bool) : List Expr → List Expr
  | [] => []
  | e :: es => (e.normal isNegated).branches isAll ++ normalBranches isNegated isAll es

end

/-- The expression with negations before predicates only and without nested conjunctions or disjunctions. -/
def Expr.normalForm (e : Expr) : Expr := e.normal false

/-! ### Verdicts -/

/-- Why an expression does not bind, or else what its evaluation gives. -/
abbrev Verdict := Except EvalError (Except EvalError Bool)

namespace Verdict

/-- The verdict of no branches at all. -/
def neutral (isAll : Bool) : Verdict := .ok (.ok isAll)

/-- Two verdicts one after the other. Both have to bind; the second one counts as long as the first one leaves the
result open. -/
def link (isAll : Bool) (x y : Verdict) : Verdict :=
  x.bind fun r => y.map fun s => r.bind fun b => if b = isAll then s else .ok b

def negate (x : Verdict) : Verdict := x.map fun r => r.map (!·)

@[simp] theorem neutral_link (isAll : Bool) (x : Verdict) : link isAll (neutral isAll) x = x := by
  cases x with
  | error err => rfl
  | ok r => simp [link, neutral, Except.bind, Except.map]

theorem link_assoc (isAll : Bool) (x y z : Verdict) :
    link isAll (link isAll x y) z = link isAll x (link isAll y z) := by
  rcases x with err | r
  · rfl
  rcases y with err | s
  · rfl
  rcases z with err | t
  · rfl
  rcases r with err | b
  · rfl
  by_cases hb : b = isAll
  · simp [link, Except.bind, Except.map, hb]
  · simp [link, Except.bind, Except.map, hb]

theorem negate_negate (x : Verdict) : negate (negate x) = x := by
  rcases x with err | r
  · rfl
  rcases r with err | b
  · rfl
  simp [negate, Except.map]

/-- The law of De Morgan, with the point at which evaluation stops. -/
theorem negate_link (isAll : Bool) (x y : Verdict) :
    negate (link isAll x y) = link (!isAll) (negate x) (negate y) := by
  rcases x with err | r
  · rfl
  rcases y with err | s
  · rfl
  rcases r with err | b
  · rfl
  by_cases hb : b = isAll
  · subst hb
    simp [negate, link, Except.bind, Except.map]
  · have hn : (!b) ≠ !isAll := by simpa using hb
    simp [negate, link, Except.bind, Except.map, hb, hn]

def linkAll (isAll : Bool) (last : Verdict) (xs : List Verdict) : Verdict := xs.foldr (link isAll) last

theorem link_linkAll (isAll : Bool) (xs : List Verdict) (last : Verdict) :
    link isAll (linkAll isAll (neutral isAll) xs) last = linkAll isAll last xs := by
  induction xs with
  | nil => exact neutral_link isAll last
  | cons x xs ih =>
    simp only [linkAll, List.foldr_cons] at ih ⊢
    rw [link_assoc, ih]

theorem negate_linkAll (isAll : Bool) (xs : List Verdict) :
    negate (linkAll isAll (neutral isAll) xs) = linkAll (!isAll) (neutral !isAll) (xs.map negate) := by
  induction xs with
  | nil => rfl
  | cons x xs ih =>
    simp only [linkAll, List.foldr_cons, List.map_cons] at ih ⊢
    rw [negate_link, ih]

end Verdict

/-! ### Verdicts of expressions -/

/-- Why an expression does not bind, or else what it evaluates to. -/
def Expr.verdict (facts : Facts) (e : Expr) : Verdict := e.bind.map (Bound.eval facts)

variable {facts : Facts}

theorem Expr.eval_eq_verdict (e : Expr) : e.eval facts = (e.verdict facts).bind id := by
  rw [Expr.eval, Expr.verdict]
  cases e.bind <;> rfl

theorem verdict_not (e : Expr) : (Expr.not e).verdict facts = (e.verdict facts).negate := by
  rw [Expr.verdict, Expr.verdict, Expr.bind]
  cases e.bind <;> rfl

/-- The two loops of evaluation as one, which goes on as long as the branches evaluate to `isAll`. -/
theorem eval_bound_cons (isAll : Bool) (b : Bound) (bs : List Bound) :
    (if isAll then evalAll facts (b :: bs) else evalAny facts (b :: bs)) =
      (Bound.eval facts b).bind fun r =>
        if r = isAll then (if isAll then evalAll facts bs else evalAny facts bs) else .ok r := by
  cases isAll with
  | true =>
    rw [if_pos rfl, evalAll]
    congr 1
    funext r
    cases r <;> rfl
  | false =>
    rw [if_neg (by decide), evalAny]
    congr 1
    funext r
    cases r <;> rfl

theorem verdict_node_eq_map (isAll : Bool) (es : List Expr) :
    (Expr.node isAll es).verdict facts =
      (bindList es).map fun bs => if isAll then evalAll facts bs else evalAny facts bs := by
  cases isAll with
  | true =>
    show (Expr.all es).verdict facts = _
    rw [Expr.verdict, Expr.bind]
    cases bindList es <;> rfl
  | false =>
    show (Expr.any es).verdict facts = _
    rw [Expr.verdict, Expr.bind]
    cases bindList es <;> rfl

theorem verdict_node (isAll : Bool) (es : List Expr) :
    (Expr.node isAll es).verdict facts =
      Verdict.linkAll isAll (Verdict.neutral isAll) (es.map (Expr.verdict facts)) := by
  induction es with
  | nil => cases isAll <;> rfl
  | cons e es ih =>
    have hrest : (Expr.node isAll es).verdict facts =
        (bindList es).map fun bs => if isAll then evalAll facts bs else evalAny facts bs :=
      verdict_node_eq_map isAll es
    rw [List.map_cons, Verdict.linkAll, List.foldr_cons, ← Verdict.linkAll, ← ih, hrest, verdict_node_eq_map,
      bindList, Expr.verdict]
    rcases e.bind with err | b
    · rfl
    rcases bindList es with err | bs
    · rfl
    simp only [Except.bind, Except.map, Verdict.link]
    rw [eval_bound_cons]
    rfl

/-! ### Steps keep the verdict -/

theorem verdict_splice (isAll : Bool) (front es back : List Expr) :
    (Expr.node isAll (front ++ .node isAll es :: back)).verdict facts =
      (Expr.node isAll (front ++ (es ++ back))).verdict facts := by
  have hes : (Expr.node isAll es).verdict facts =
      Verdict.linkAll isAll (Verdict.neutral isAll) (es.map (Expr.verdict facts)) := verdict_node isAll es
  rw [verdict_node, verdict_node]
  simp only [Verdict.linkAll, List.map_append, List.map_cons, List.foldr_append, List.foldr_cons]
  rw [hes, Verdict.link_linkAll]
  rfl

theorem Rewrites.verdict_eq {e f : Expr} (h : Rewrites e f) : e.verdict facts = f.verdict facts := by
  induction h with
  | notNot e => rw [verdict_not, verdict_not, Verdict.negate_negate]
  | notNode isAll es =>
    have hbranches : (es.map Expr.not).map (Expr.verdict facts) =
        (es.map (Expr.verdict facts)).map Verdict.negate := by
      rw [List.map_map, List.map_map]
      exact List.map_congr_left fun e _ => verdict_not e
    rw [verdict_not, verdict_node, verdict_node, Verdict.negate_linkAll, hbranches]
  | splice isAll front es back => exact verdict_splice isAll front es back
  | inNot _ ih => rw [verdict_not, verdict_not, ih]
  | inNode isAll front back _ ih =>
    rw [verdict_node, verdict_node]
    simp only [List.map_append, List.map_cons, ih]

theorem RewritesTo.verdict_eq {e f : Expr} (h : RewritesTo e f) : e.verdict facts = f.verdict facts := by
  induction h with
  | refl => rfl
  | tail _ hstep ih => rw [ih, hstep.verdict_eq]

/-! ### Reaching the normal form -/

theorem RewritesTo.inNode (isAll : Bool) (front back : List Expr) {e f : Expr} (h : RewritesTo e f) :
    RewritesTo (.node isAll (front ++ e :: back)) (.node isAll (front ++ f :: back)) :=
  h.lift (fun e => Expr.node isAll (front ++ e :: back)) fun _ _ => Rewrites.inNode isAll front back

/-- A branch of the kind of its node is spliced; any other one stays. -/
theorem branches_cases (isAll : Bool) (e : Expr) :
    (∃ es, e = .node isAll es ∧ e.branches isAll = es) ∨
      (∀ es, e ≠ .node isAll es) ∧ e.branches isAll = [e] := by
  cases e with
  | all es => cases isAll <;> simp [Expr.branches, Expr.node]
  | any es => cases isAll <;> simp [Expr.branches, Expr.node]
  | not e => cases isAll <;> simp [Expr.branches, Expr.node]
  | predicate name args => cases isAll <;> simp [Expr.branches, Expr.node]

theorem rewritesTo_branches (isAll : Bool) (front : List Expr) (e : Expr) (back : List Expr) :
    RewritesTo (.node isAll (front ++ e :: back)) (.node isAll (front ++ (e.branches isAll ++ back))) := by
  rcases branches_cases isAll e with ⟨es, rfl, hes⟩ | ⟨_, hes⟩
  · rw [hes]
    exact .single (.splice isAll front es back)
  · rw [hes]
    exact .refl

theorem map_signed_false (es : List Expr) : es.map (Expr.signed false) = es := by
  have hid : Expr.signed false = id := funext fun _ => rfl
  rw [hid, List.map_id]

theorem rewritesTo_not_node (isAll : Bool) (es : List Expr) :
    RewritesTo (.not (.node isAll es)) (.node (!isAll) (es.map (Expr.signed true))) :=
  .single (.notNode isAll es)

mutual

/-- Every expression rewrites to its normal form, and its negation to that of the negation. -/
theorem rewritesTo_normal : ∀ (isNegated : Bool) (e : Expr),
    RewritesTo (e.signed isNegated) (e.normal isNegated)
  | false, .all es => by
    have hs := rewritesTo_normalBranches false true [] es
    rwa [map_signed_false] at hs
  | true, .all es => by
    have hs := rewritesTo_normalBranches true false [] es
    exact (rewritesTo_not_node true es).trans hs
  | false, .any es => by
    have hs := rewritesTo_normalBranches false false [] es
    rwa [map_signed_false] at hs
  | true, .any es => by
    have hs := rewritesTo_normalBranches true true [] es
    exact (rewritesTo_not_node false es).trans hs
  | false, .not e => rewritesTo_normal true e
  | true, .not e => by
    have he := rewritesTo_normal false e
    exact .head (.notNot e) he
  | false, .predicate name args => .refl
  | true, .predicate name args => .refl

/-- Branches rewrite to those of the normal form one after the other; `front` holds the finished ones. -/
theorem rewritesTo_normalBranches : ∀ (isNegated isAll : Bool) (front es : List Expr),
    RewritesTo (.node isAll (front ++ es.map (Expr.signed isNegated)))
      (.node isAll (front ++ normalBranches isNegated isAll es))
  | isNegated, isAll, front, [] => .refl
  | isNegated, isAll, front, e :: es => by
    have hhead := (rewritesTo_normal isNegated e).inNode isAll front (es.map (Expr.signed isNegated))
    have hsplice := rewritesTo_branches isAll front (e.normal isNegated) (es.map (Expr.signed isNegated))
    have htail := rewritesTo_normalBranches isNegated isAll (front ++ (e.normal isNegated).branches isAll) es
    rw [List.append_assoc, List.append_assoc] at htail
    exact (hhead.trans hsplice).trans htail

end

/-! ### No rule applies to the normal form -/

def Expr.IsNode (isAll : Bool) (e : Expr) : Prop := ∃ es, e = .node isAll es

theorem node_inj {isAll : Bool} {es fs : List Expr} : Expr.node isAll es = .node isAll fs ↔ es = fs := by
  cases isAll <;> simp [Expr.node]

theorem node_ne_node {isAll other : Bool} {es fs : List Expr} (h : Expr.node isAll es = .node other fs) :
    isAll = other := by
  cases isAll <;> cases other <;> simp_all [Expr.node]

theorem isNormal_node_iff (isAll : Bool) (es : List Expr) :
    (Expr.node isAll es).IsNormal ↔ ∀ e ∈ es, e.IsNormal ∧ ¬e.IsNode isAll := by
  constructor
  · intro h e he
    obtain ⟨front, back, rfl⟩ := List.append_of_mem he
    refine ⟨fun f hf => h _ (.inNode isAll front back hf), ?_⟩
    rintro ⟨fs, rfl⟩
    exact h _ (.splice isAll front fs back)
  · intro h f hf
    generalize hg : Expr.node isAll es = g at hf
    cases hf with
    | notNot e => cases isAll <;> simp [Expr.node] at hg
    | notNode other fs => cases isAll <;> simp [Expr.node] at hg
    | inNot hstep => cases isAll <;> simp [Expr.node] at hg
    | splice other front fs back =>
      obtain rfl := node_ne_node hg
      obtain rfl := node_inj.1 hg
      exact (h (.node isAll fs) (by simp)).2 ⟨fs, rfl⟩
    | inNode other front back hstep =>
      obtain rfl := node_ne_node hg
      obtain rfl := node_inj.1 hg
      exact (h _ (by simp)).1 _ hstep

theorem isNormal_predicate (name : String) (args : List Literal) : (Expr.predicate name args).IsNormal := by
  intro f hf
  generalize hg : Expr.predicate name args = g at hf
  cases hf with
  | splice isAll front es back => cases isAll <;> simp [Expr.node] at hg
  | inNode isAll front back hstep => cases isAll <;> simp [Expr.node] at hg
  | _ => cases hg

theorem isNormal_not_predicate (name : String) (args : List Literal) :
    (Expr.not (.predicate name args)).IsNormal := by
  intro f hf
  generalize hg : Expr.not (.predicate name args) = g at hf
  cases hf with
  | notNot e => cases hg
  | notNode isAll es => cases isAll <;> simp [Expr.node] at hg
  | splice isAll front es back => cases isAll <;> simp [Expr.node] at hg
  | inNot hstep =>
    cases hg
    exact isNormal_predicate name args _ hstep
  | inNode isAll front back hstep => cases isAll <;> simp [Expr.node] at hg

theorem isNormal_of_mem_branches (isAll : Bool) {e b : Expr} (he : e.IsNormal) (hb : b ∈ e.branches isAll) :
    b.IsNormal ∧ ¬b.IsNode isAll := by
  rcases branches_cases isAll e with ⟨es, rfl, hes⟩ | ⟨hne, hes⟩
  · rw [hes] at hb
    exact (isNormal_node_iff isAll es).1 he b hb
  · rw [hes, List.mem_singleton] at hb
    subst hb
    exact ⟨he, fun ⟨es, h⟩ => hne es h⟩

mutual

theorem isNormal_normal : ∀ (isNegated : Bool) (e : Expr), (e.normal isNegated).IsNormal
  | isNegated, .all es => by
    rw [Expr.normal, isNormal_node_iff]
    exact isNormal_normalBranches isNegated (!isNegated) es
  | isNegated, .any es => by
    rw [Expr.normal, isNormal_node_iff]
    exact isNormal_normalBranches isNegated isNegated es
  | isNegated, .not e => isNormal_normal (!isNegated) e
  | false, .predicate name args => isNormal_predicate name args
  | true, .predicate name args => isNormal_not_predicate name args

theorem isNormal_normalBranches : ∀ (isNegated isAll : Bool) (es : List Expr),
    ∀ b ∈ normalBranches isNegated isAll es, b.IsNormal ∧ ¬b.IsNode isAll
  | isNegated, isAll, [] => by simp [normalBranches]
  | isNegated, isAll, e :: es => by
    intro b hb
    rw [normalBranches, List.mem_append] at hb
    rcases hb with hb | hb
    · exact isNormal_of_mem_branches isAll (isNormal_normal isNegated e) hb
    · exact isNormal_normalBranches isNegated isAll es b hb

end

/-! ### Main statement -/

/-- **Rewriting keeps the result of evaluation**, errors included, on every message; and every expression can be
rewritten to its normal form, to which no rule applies any more. -/
theorem eval_rewritten (e : Expr) :
    (∀ f, RewritesTo e f → ∀ facts : Facts, f.eval facts = e.eval facts) ∧
      RewritesTo e e.normalForm ∧ e.normalForm.IsNormal := by
  refine ⟨fun f h facts => ?_, rewritesTo_normal false e, isNormal_normal false e⟩
  rw [Expr.eval_eq_verdict, Expr.eval_eq_verdict, h.verdict_eq]

/-- A negated conjunction on a request: what its normal form evaluates to is the error of the status in it, which
stands behind a predicate that holds. -/
theorem eval_rewritten_status :
    let e : Expr := .not (.all [.predicate "from-proxy" [],
      .not (.any [.predicate "status-code-eq" [.int 200], .predicate "in-scope" []])])
    let f : Expr := .any [.not (.predicate "from-proxy" []), .predicate "status-code-eq" [.int 200],
      .predicate "in-scope" []]
    let facts : Facts := ⟨.request, .new ⟨"GET", by decide⟩ (.origin .asterisk), .none⟩
    e.normalForm = f ∧ RewritesTo e f ∧ f.eval facts = .error (.invalidTarget "status-code-eq" .request) := by
  intro e f facts
  have hf : e.normalForm = f := rfl
  have hto : RewritesTo e f := hf ▸ (eval_rewritten e).2.1
  have he : e.eval facts = .error (.invalidTarget "status-code-eq" .request) :=
    error?_eq_some_iff.1 (by decide +kernel)
  exact ⟨hf, hto, ((eval_rewritten e).1 f hto facts).trans he⟩

end InterceptAddons.Filter
