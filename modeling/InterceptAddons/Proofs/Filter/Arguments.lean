import InterceptAddons.Proofs.Filter.Binding
import InterceptAddons.Proofs.Lists

/-!
# Arguments of resolved predicates

A row of the table declares the kinds of its parameters, but its test is given a list of literals and passes over
those that are missing or of another kind. `TypedTest` is a test whose arguments have their kinds, so that there is
nothing to pass over, and `typedTests` is the table with such tests. Main statement: `bind_wellKinded`. The arguments of
every resolved predicate have the kinds of their parameters, and its row answers as the typed test does.
-/

namespace InterceptAddons.Filter

open InterceptAddons.Text

/-! ### Kinds of arguments -/

/-- The literals of a kind. -/
inductive HasKind : Kind → Literal → Prop
  | str (s : String) : HasKind .str (.str s)
  | pattern (p : Pattern) : HasKind .pattern (.regex p)
  | bool (b : Bool) : HasKind .bool (.bool b)
  | int (n : Int64) : HasKind .int (.int n)

/-- What becomes of an argument for a parameter of some kind. -/
inductive Becomes : Kind → Literal → Literal → Prop
  | str (s : String) : Becomes .str (.str s) (.str s)
  | source (p : Pattern) : Becomes .str (.regex p) (.str p.source)
  | regex (p : Pattern) : Becomes .pattern (.regex p) (.regex p)
  | compiles {s : String} {p : Pattern} (h : Pattern.compile? s = some p) : Becomes .pattern (.str s) (.regex p)
  | bool (b : Bool) : Becomes .bool (.bool b) (.bool b)
  | int (n : Int64) : Becomes .int (.int n) (.int n)

theorem Becomes.hasKind {k : Kind} {arg arg' : Literal} (h : Becomes k arg arg') : HasKind k arg' := by
  cases h with
  | str | source => exact .str _
  | regex | compiles => exact .pattern _
  | bool => exact .bool _
  | int => exact .int _

theorem becomes_of_fit {k : Kind} {index : Nat} {arg arg' : Literal} (h : k.fit index arg = .ok arg') :
    Becomes k arg arg' := by
  unfold Kind.fit at h
  split at h
  · cases h; exact .str _
  · cases h; exact .source _
  · cases h; exact .regex _
  · split at h
    · next hp => cases h; exact .compiles hp
    · cases h
  · cases h; exact .bool _
  · cases h; exact .int _
  · cases h

theorem fitFrom_eq_ok {p : Predicate} {i : Nat} {args args' : List Literal} (h : p.fitFrom i args = .ok args') :
    args'.length = args.length ∧ ∀ j arg', args'[j]? = some arg' →
      ∃ k arg, p.param? (i + j) = some k ∧ args[j]? = some arg ∧ Becomes k arg arg' := by
  induction args generalizing i args' with
  | nil =>
    obtain rfl := Except.ok.inj h
    exact ⟨rfl, fun j arg' hj => by cases hj⟩
  | cons arg args ih =>
    rw [Predicate.fitFrom] at h
    split at h
    · cases h
    · next k hk =>
      obtain ⟨first, hfirst, h⟩ := bind_eq_ok h
      obtain ⟨others, hothers, rfl⟩ := map_eq_ok h
      obtain ⟨hlength, hbecomes⟩ := ih hothers
      refine ⟨congrArg Nat.succ hlength, fun j arg' hj => ?_⟩
      cases j with
      | zero =>
        obtain rfl := Option.some.inj hj
        exact ⟨k, arg, hk, rfl, becomes_of_fit hfirst⟩
      | succ j =>
        rw [← Nat.succ_add_eq_add_succ]
        exact hbecomes j arg' hj

/-! ### Nodes -/

/-- A predicate of a resolved expression, with its arguments. -/
structure Node where
  predicate : Predicate
  args : List Literal

mutual

/-- The predicates of a resolved expression, from left to right. -/
def Bound.nodes : Bound → List Node
  | .all bs | .any bs => nodesOfAll bs
  | .not b => b.nodes
  | .predicate p args => [⟨p, args⟩]

def nodesOfAll : List Bound → List Node
  | [] => []
  | b :: bs => b.nodes ++ nodesOfAll bs

end

/-- A node has a row of the table, as many arguments as this takes, and at every position an argument of the kind that
must stand there. -/
structure Node.WellKinded (n : Node) : Prop where
  mem : n.predicate ∈ predicates
  count : n.predicate.Takes n.args.length
  kind : ∀ i arg, n.args[i]? = some arg → ∃ k, n.predicate.kindAt? i = some k ∧ HasKind k arg

/-- A node comes from a predicate of the expression: its arguments are those given there, each in the kind that must
stand at its position. -/
structure Resolves (o : Occurrence) (n : Node) : Prop where
  row : n.predicate.IsRow o.name
  count : n.predicate.Takes n.args.length
  length : n.args.length = o.args.length
  becomes : ∀ i arg', n.args[i]? = some arg' →
    ∃ k arg, n.predicate.kindAt? i = some k ∧ o.args[i]? = some arg ∧ Becomes k arg arg'

theorem Resolves.wellKinded {o : Occurrence} {n : Node} (h : Resolves o n) : n.WellKinded where
  mem := h.row.mem
  count := h.count
  kind i arg' hi := by
    obtain ⟨k, arg, hk, -, hbecomes⟩ := h.becomes i arg' hi
    exact ⟨k, hk, hbecomes.hasKind⟩

theorem resolves_of_bindPredicate {name : String} {args : List Literal} {b : Bound} (place : List Nat)
    (h : bindPredicate name args = .ok b) :
    ∃ n, b = .predicate n.predicate n.args ∧ Resolves ⟨place, name, args⟩ n := by
  obtain ⟨p, args', hp, hargs, rfl⟩ := bindPredicate_eq_ok h
  have hrow := Predicate.find?_eq_some_iff.1 hp
  rw [Predicate.fitArgs] at hargs
  split at hargs
  · next haccepts =>
    have hcount := Predicate.accepts_iff.1 haccepts
    obtain ⟨hlength, hbecomes⟩ := fitFrom_eq_ok hargs
    refine ⟨⟨p, args'⟩, rfl, hrow, hlength ▸ hcount, hlength, fun i arg' hi => ?_⟩
    obtain ⟨k, arg, hk, harg, hk'⟩ := hbecomes i arg' hi
    obtain ⟨hi', -⟩ := List.getElem?_eq_some_iff.1 harg
    rw [Nat.zero_add, (Predicate.param?_of_takes hrow.mem hcount hi').1] at hk
    exact ⟨k, arg, hk, harg, hk'⟩
  · cases hargs

mutual

/-- **What is resolved comes from the predicates of the expression, one by one.** -/
theorem resolves_of_bind : ∀ (e : Expr) (b : Bound) (place : List Nat), e.bind = .ok b →
    List.Forall₂ Resolves (e.occurrences place) b.nodes
  | .all es, b, place, h => by
    obtain ⟨bs, hs, rfl⟩ := map_eq_ok h
    exact resolves_of_bindList es bs place 0 hs
  | .any es, b, place, h => by
    obtain ⟨bs, hs, rfl⟩ := map_eq_ok h
    exact resolves_of_bindList es bs place 0 hs
  | .not e, b, place, h => by
    obtain ⟨b', hb, rfl⟩ := map_eq_ok h
    exact resolves_of_bind e b' (place ++ [0]) hb
  | .predicate name args, b, place, h => by
    obtain ⟨n, rfl, hn⟩ := resolves_of_bindPredicate place h
    exact .cons hn .nil

theorem resolves_of_bindList : ∀ (es : List Expr) (bs : List Bound) (place : List Nat) (i : Nat),
    bindList es = .ok bs → List.Forall₂ Resolves (Expr.occurrencesFrom place i es) (nodesOfAll bs)
  | [], bs, place, i, h => by
    obtain rfl := Except.ok.inj h
    exact .nil
  | e :: es, bs, place, i, h => by
    obtain ⟨b, bs', hb, hs, rfl⟩ := bindList_cons_eq_ok h
    exact List.rel_append (resolves_of_bind e b (place ++ [i]) hb) (resolves_of_bindList es bs' place (i + 1) hs)

end

/-! ### Typed tests -/

/-- A test whose arguments have the kinds of its parameters. -/
inductive TypedTest
  | plain (ask : Facts → Bool)
  | text (ask : String → Facts → Bool)
  | pattern (ask : Pattern → Facts → Bool)
  | textPattern (ask : String → Pattern → Facts → Bool)
  | bounds (ask : Int64 → Int64 → Facts → Bool)
  | someText (ask : String → Facts → Bool)
  | someInt (ask : Int64 → Facts → Bool)

namespace TypedTest

def params : TypedTest → List Kind
  | plain _ => []
  | text _ | someText _ => [.str]
  | pattern _ => [.pattern]
  | textPattern _ => [.str, .pattern]
  | bounds _ => [.int, .int]
  | someInt _ => [.int]

def isVariadic : TypedTest → Bool
  | someText _ | someInt _ => true
  | _ => false

/-- The answer of a test. There is one only if every argument is there and has its kind, and every repeated argument is
asked for. -/
inductive Gives (facts : Facts) : TypedTest → List Literal → Bool → Prop
  | plain (ask : Facts → Bool) : Gives facts (.plain ask) [] (ask facts)
  | text (ask : String → Facts → Bool) (s : String) : Gives facts (.text ask) [.str s] (ask s facts)
  | pattern (ask : Pattern → Facts → Bool) (p : Pattern) : Gives facts (.pattern ask) [.regex p] (ask p facts)
  | textPattern (ask : String → Pattern → Facts → Bool) (s : String) (p : Pattern) :
    Gives facts (.textPattern ask) [.str s, .regex p] (ask s p facts)
  | bounds (ask : Int64 → Int64 → Facts → Bool) (lo hi : Int64) :
    Gives facts (.bounds ask) [.int lo, .int hi] (ask lo hi facts)
  | someText (ask : String → Facts → Bool) {ss : List String} (h : ss ≠ []) :
    Gives facts (.someText ask) (ss.map .str) (ss.any (ask · facts))
  | someInt (ask : Int64 → Facts → Bool) {ns : List Int64} (h : ns ≠ []) :
    Gives facts (.someInt ask) (ns.map .int) (ns.any (ask · facts))

end TypedTest

def statusWithin (lo hi : Int64) (f : Facts) : Bool :=
  f.status?.any fun s => lo.toInt ≤ (s.code : Int) && (s.code : Int) ≤ hi.toInt

/-- The tests of the built-in predicates, by their names. -/
def typedTests : List (String × TypedTest) := [
  ("true", .plain fun _ => true),
  ("in-scope", .plain fun f => f.inScope),
  ("host-matches", .pattern fun p f => f.request.host?.any p.isMatch),
  ("path-contains", .text fun s f => hasPart s.toList f.request.path.toList),
  ("path-matches", .pattern fun p f => p.isMatch f.request.path),
  ("file-ext-eq", .someText fun s f => hasExtension f.request.file s),
  ("method-eq", .someText fun s f => sameText f.request.method.name s),
  ("header-matches", .textPattern fun s p f => (f.own.headers.getAll s).any p.isMatch),
  ("has-header", .someText fun s f => f.own.headers.contains s),
  ("has-cookie", .someText fun s f => (f.cookie? s).isSome),
  ("has-query-param", .someText fun s f => (f.request.queryParam? s).isSome),
  ("has-form-param", .someText fun s f => (f.request.formParam? s).isSome),
  ("query-param-matches", .textPattern fun s p f => (f.request.queryParam? s).any p.isMatch),
  ("has-json-key", .someText fun s f => f.json?.any (·.hasPath s)),
  ("body-contains", .pattern fun p f => p.isMatch f.text),
  ("body-matches", .pattern fun p f => p.isFullMatch f.text),
  ("status-code-eq", .someInt fun n f => f.status?.any fun s => isNumber n s.code),
  ("status-code-in", .bounds statusWithin),
  ("listener-port-eq", .someInt fun n f => f.request.port?.any fun port => isNumber n port),
  ("tool-source-eq", .someText fun s f => sameText f.own.tool.name s),
  ("from-proxy", .plain fun f => f.own.tool.isProxy),
  ("has-attachment", .someText fun s f => f.own.attachments.contains s)]

/-! ### Rows -/

/-- A row with a typed test: where this has an answer, the row gives the same one. -/
structure Predicate.Follows (p : Predicate) (t : String × TypedTest) : Prop where
  name : p.name = t.1
  params : p.params = t.2.params
  isVariadic : p.isVariadic = t.2.isVariadic
  run : ∀ args facts b, t.2.Gives facts args b → p.test.run args facts = b

theorem strs_map_str (args : List String) : strs (args.map .str) = args := by
  rw [strs, List.filterMap_map]
  exact List.filterMap_some

theorem ints_map_int (args : List Int64) : ints (args.map .int) = args := by
  rw [ints, List.filterMap_map]
  exact List.filterMap_some

namespace Predicate.Follows

variable {p : Predicate}

theorem plain {ask : Facts → Bool} (hp : p.params = []) (hv : p.isVariadic = false)
    (hrun : ∀ f, p.test.run [] f = ask f) : p.Follows (p.name, .plain ask) where
  name := rfl
  params := hp
  isVariadic := hv
  run := by
    rintro _ facts _ ⟨⟩
    exact hrun facts

theorem text {ask : String → Facts → Bool} (hp : p.params = [.str]) (hv : p.isVariadic = false)
    (hrun : ∀ s f, p.test.run [.str s] f = ask s f) : p.Follows (p.name, .text ask) where
  name := rfl
  params := hp
  isVariadic := hv
  run := by
    rintro _ facts _ ⟨⟩
    exact hrun _ facts

theorem pattern {ask : Pattern → Facts → Bool} (hp : p.params = [.pattern]) (hv : p.isVariadic = false)
    (hrun : ∀ q f, p.test.run [.regex q] f = ask q f) : p.Follows (p.name, .pattern ask) where
  name := rfl
  params := hp
  isVariadic := hv
  run := by
    rintro _ facts _ ⟨⟩
    exact hrun _ facts

theorem textPattern {ask : String → Pattern → Facts → Bool} (hp : p.params = [.str, .pattern])
    (hv : p.isVariadic = false) (hrun : ∀ s q f, p.test.run [.str s, .regex q] f = ask s q f) :
    p.Follows (p.name, .textPattern ask) where
  name := rfl
  params := hp
  isVariadic := hv
  run := by
    rintro _ facts _ ⟨⟩
    exact hrun _ _ facts

theorem bounds {ask : Int64 → Int64 → Facts → Bool} (hp : p.params = [.int, .int]) (hv : p.isVariadic = false)
    (hrun : ∀ lo hi f, p.test.run [.int lo, .int hi] f = ask lo hi f) : p.Follows (p.name, .bounds ask) where
  name := rfl
  params := hp
  isVariadic := hv
  run := by
    rintro _ facts _ ⟨⟩
    exact hrun _ _ facts

theorem someText {ask : String → Facts → Bool} (hp : p.params = [.str]) (hv : p.isVariadic = true)
    (hrun : ∀ args f, p.test.run args f = (strs args).any (ask · f)) : p.Follows (p.name, .someText ask) where
  name := rfl
  params := hp
  isVariadic := hv
  run := by
    rintro _ facts _ ⟨⟩
    rw [hrun, strs_map_str]

theorem someInt {ask : Int64 → Facts → Bool} (hp : p.params = [.int]) (hv : p.isVariadic = true)
    (hrun : ∀ args f, p.test.run args f = (ints args).any (ask · f)) : p.Follows (p.name, .someInt ask) where
  name := rfl
  params := hp
  isVariadic := hv
  run := by
    rintro _ facts _ ⟨⟩
    rw [hrun, ints_map_int]

end Predicate.Follows

theorem statusWithin_eq (lo hi : Int64) (f : Facts) :
    (match f.status?, ints [.int lo, .int hi] with
      | some s, lo :: hi :: _ => lo.toInt ≤ (s.code : Int) && (s.code : Int) ≤ hi.toInt
      | _, _ => false) = statusWithin lo hi f := by
  rw [statusWithin]
  cases f.status? <;> rfl

/-- **The table follows its typed tests**, row by row. -/
theorem predicates_follow : List.Forall₂ Predicate.Follows predicates typedTests := by
  unfold predicates typedTests
  exact .cons (.plain rfl rfl fun _ => rfl) <|
    .cons (.plain rfl rfl fun _ => rfl) <|
    .cons (.pattern rfl rfl fun _ _ => rfl) <|
    .cons (.text rfl rfl fun _ _ => Bool.or_false _) <|
    .cons (.pattern rfl rfl fun _ _ => rfl) <|
    .cons (.someText rfl rfl fun _ _ => rfl) <|
    .cons (.someText rfl rfl fun _ _ => rfl) <|
    .cons (.textPattern rfl rfl fun _ _ _ => rfl) <|
    .cons (.someText rfl rfl fun _ _ => rfl) <|
    .cons (.someText rfl rfl fun _ _ => rfl) <|
    .cons (.someText rfl rfl fun _ _ => rfl) <|
    .cons (.someText rfl rfl fun _ _ => rfl) <|
    .cons (.textPattern rfl rfl fun _ _ _ => rfl) <|
    .cons (.someText rfl rfl fun args f => any_comm f.json? (strs args) _) <|
    .cons (.pattern rfl rfl fun _ _ => rfl) <|
    .cons (.pattern rfl rfl fun _ _ => rfl) <|
    .cons (.someInt rfl rfl fun args f => any_comm f.status? (ints args) _) <|
    .cons (.bounds rfl rfl statusWithin_eq) <|
    .cons (.someInt rfl rfl fun args f => any_comm f.request.port? (ints args) _) <|
    .cons (.someText rfl rfl fun _ _ => rfl) <|
    .cons (.plain rfl rfl fun _ => rfl) <|
    .cons (.someText rfl rfl fun _ _ => rfl) .nil

/-! ### Answers -/

namespace Node.WellKinded

variable {n : Node}

theorem forall₂_params (h : n.WellKinded) (hv : n.predicate.isVariadic = false) :
    List.Forall₂ HasKind n.predicate.params n.args := by
  have hcount := h.count
  rw [Predicate.Takes, if_neg (by simp [hv])] at hcount
  refine List.forall₂_iff_get.2 ⟨hcount.symm, fun i hi hi' => ?_⟩
  obtain ⟨k, hk, hkind⟩ := h.kind i _ (List.getElem?_eq_getElem hi')
  rw [Predicate.kindAt?, List.getElem?_eq_getElem hi, Option.some_or] at hk
  obtain rfl := Option.some.inj hk
  exact hkind

theorem of_variadic (h : n.WellKinded) (hv : n.predicate.isVariadic = true) {k : Kind}
    (hp : n.predicate.params = [k]) : n.args ≠ [] ∧ ∀ arg ∈ n.args, HasKind k arg := by
  have hcount := h.count
  rw [Predicate.Takes, if_pos hv, hp] at hcount
  refine ⟨List.ne_nil_of_length_pos hcount, fun arg harg => ?_⟩
  obtain ⟨i, hi⟩ := List.mem_iff_getElem?.1 harg
  obtain ⟨k', hk', hkind⟩ := h.kind i arg hi
  -- beyond the one parameter its kind is repeated
  have hlast : n.predicate.kindAt? i = some k := by
    rw [Predicate.kindAt?, hp]
    cases i <;> rfl
  obtain rfl := Option.some.inj (hlast.symm.trans hk')
  exact hkind

/-- A typed test with the parameters of the row has an answer. -/
theorem exists_gives (h : n.WellKinded) {t : TypedTest} (hp : n.predicate.params = t.params)
    (hv : n.predicate.isVariadic = t.isVariadic) (facts : Facts) : ∃ b, t.Gives facts n.args b := by
  obtain ⟨p, args⟩ := n
  dsimp only at hp hv ⊢
  cases t with
  | plain ask =>
    match args, hp ▸ h.forall₂_params hv with
    | _, .nil => exact ⟨_, .plain ask⟩
  | text ask =>
    match args, hp ▸ h.forall₂_params hv with
    | _, .cons (.str s) .nil => exact ⟨_, .text ask s⟩
  | pattern ask =>
    match args, hp ▸ h.forall₂_params hv with
    | _, .cons (.pattern q) .nil => exact ⟨_, .pattern ask q⟩
  | textPattern ask =>
    match args, hp ▸ h.forall₂_params hv with
    | _, .cons (.str s) (.cons (.pattern q) .nil) => exact ⟨_, .textPattern ask s q⟩
  | bounds ask =>
    match args, hp ▸ h.forall₂_params hv with
    | _, .cons (.int lo) (.cons (.int hi) .nil) => exact ⟨_, .bounds ask lo hi⟩
  | someText ask =>
    obtain ⟨hne, hkinds⟩ := h.of_variadic hv hp
    obtain ⟨ss, rfl⟩ := exists_map_eq (f := Literal.str) fun arg harg => match arg, hkinds arg harg with
      | _, .str s => ⟨s, rfl⟩
    exact ⟨_, .someText ask (List.map_eq_nil_iff.not.1 hne)⟩
  | someInt ask =>
    obtain ⟨hne, hkinds⟩ := h.of_variadic hv hp
    obtain ⟨ns, rfl⟩ := exists_map_eq (f := Literal.int) fun arg harg => match arg, hkinds arg harg with
      | _, .int m => ⟨m, rfl⟩
    exact ⟨_, .someInt ask (List.map_eq_nil_iff.not.1 hne)⟩

/-- **A row passes over no argument**: it gives the answer of its typed test. -/
theorem gives (h : n.WellKinded) {t : String × TypedTest} (ht : n.predicate.Follows t) (facts : Facts) :
    t.2.Gives facts n.args (n.predicate.test.run n.args facts) := by
  obtain ⟨b, hb⟩ := h.exists_gives ht.params ht.isVariadic facts
  rwa [ht.run n.args facts b hb]

end Node.WellKinded

/-! ### Expressions -/

theorem misfit_ne_unexpected {index i : Nat} {k : Kind} {arg : Literal} : misfit index k arg ≠ .unexpected i := by
  unfold misfit
  split <;> exact fun h => by cases h

theorem exists_follows {p : Predicate} (hp : p ∈ predicates) : ∃ t ∈ typedTests, p.Follows t :=
  exists_of_forall₂ predicates_follow.flip p hp

theorem eval_response (p : Predicate) (args : List Literal) (r : Http.Response) (scope : Scope) :
    p.eval args ⟨.response, r, scope⟩ = .ok (p.test.run args ⟨.response, r, scope⟩) :=
  if_neg fun h => by simp at h

theorem eq_bounds_of_name : ∀ t ∈ typedTests, t.1 = "status-code-in" → t.2 = .bounds statusWithin := by
  simp [typedTests]

namespace Node.WellKinded

variable {n : Node}

/-- A test whose last parameter may be repeated asks for one argument after the other. -/
theorem run_eq_any (h : n.WellKinded) (hv : n.predicate.isVariadic = true) (facts : Facts) :
    n.predicate.test.run n.args facts = n.args.any fun arg => n.predicate.test.run [arg] facts := by
  obtain ⟨⟨name, t⟩, -, ht⟩ := exists_follows h.mem
  have hgives := h.gives ht facts
  rw [ht.isVariadic] at hv
  obtain ⟨p, args⟩ := n
  generalize p.test.run args facts = b at hgives ⊢
  cases hgives with
  | plain | text | pattern | textPattern | bounds => cases hv
  | someText ask =>
    have hone (s : String) : p.test.run [.str s] facts = ask s facts := by
      simpa using ht.run _ facts _ (.someText ask (List.cons_ne_nil s []))
    simp only [List.any_map, Function.comp_def, hone]
  | someInt ask =>
    have hone (m : Int64) : p.test.run [.int m] facts = ask m facts := by
      simpa using ht.run _ facts _ (.someInt ask (List.cons_ne_nil m []))
    simp only [List.any_map, Function.comp_def, hone]

theorem eval_statusWithin (h : n.WellKinded) (hname : n.predicate.name = "status-code-in") :
    ∃ lo hi, n.args = [.int lo, .int hi] ∧ ∀ (r : Http.Response) (scope : Scope),
      n.predicate.eval n.args ⟨.response, r, scope⟩ =
        .ok (decide (lo.toInt ≤ r.status.code ∧ (r.status.code : Int) ≤ hi.toInt)) := by
  obtain ⟨⟨name, t⟩, hmem, ht⟩ := exists_follows h.mem
  obtain rfl : t = .bounds statusWithin := eq_bounds_of_name _ hmem (ht.name.symm.trans hname)
  have hv : n.predicate.isVariadic = false := ht.isVariadic
  have hp : n.predicate.params = [.int, .int] := ht.params
  obtain ⟨p, args⟩ := n
  match args, hp ▸ h.forall₂_params hv with
  | _, .cons (.int lo) (.cons (.int hi) .nil) =>
    refine ⟨lo, hi, rfl, fun r scope => ?_⟩
    have hrun := ht.run _ ⟨.response, r, scope⟩ _ (.bounds statusWithin lo hi)
    rw [eval_response, hrun]
    exact congrArg Except.ok (Bool.decide_and ..).symm

end Node.WellKinded

/-- **Arguments have the kinds of their parameters.** What an expression resolves to are its own predicates, in order.
Each has as many arguments as its row takes, and at every position one of the kind that the row declares there, to which
the argument given was turned if need be. So every row answers as its typed test does, which passes over nothing: a
repeated parameter is asked for once for each argument, and on a response `status-code-in` compares the status with its
two bounds. An argument without a parameter is never found. -/
theorem bind_wellKinded (e : Expr) :
    (∀ b, e.bind = .ok b → List.Forall₂ Resolves (e.occurrences []) b.nodes ∧ ∀ n ∈ b.nodes,
      n.WellKinded ∧
      (∃ t ∈ typedTests, t.1 = n.predicate.name ∧
        ∀ facts, t.2.Gives facts n.args (n.predicate.test.run n.args facts)) ∧
      (n.predicate.isVariadic = true → ∀ facts,
        n.predicate.test.run n.args facts = n.args.any fun arg => n.predicate.test.run [arg] facts) ∧
      (n.predicate.name = "status-code-in" → ∃ lo hi, n.args = [.int lo, .int hi] ∧
        ∀ (r : Http.Response) (scope : Scope), n.predicate.eval n.args ⟨.response, r, scope⟩ =
          .ok (decide (lo.toInt ≤ r.status.code ∧ (r.status.code : Int) ≤ hi.toInt)))) ∧
    ∀ name i, e.bind ≠ .error (.badArguments name (.unexpected i)) := by
  refine ⟨fun b hb => ?_, fun name i hb => ?_⟩
  · have hresolves := resolves_of_bind e b [] hb
    refine ⟨hresolves, fun n hn => ?_⟩
    obtain ⟨o, -, ho⟩ := exists_of_forall₂ hresolves n hn
    have hkinded := ho.wellKinded
    obtain ⟨t, ht, hfollows⟩ := exists_follows hkinded.mem
    exact ⟨hkinded, ⟨t, ht, hfollows.name.symm, hkinded.gives hfollows⟩, hkinded.run_eq_any, hkinded.eval_statusWithin⟩
  · have herror := error?_eq_some_iff.2 hb
    rw [error?_bind e []] at herror
    obtain ⟨_, o, _, _, ho, _⟩ := List.findSome?_eq_some_iff.1 herror
    have hfault : o.Fault (.badArguments name (.unexpected i)) := Occurrence.fault_iff.2 ho
    generalize hmisfit : ArgumentFault.unexpected i = fault at hfault
    cases hfault with
    | count => cases hmisfit
    | argument => exact misfit_ne_unexpected hmisfit.symm

end InterceptAddons.Filter
