import InterceptAddons.Proofs.Json.Spelling

/-!
# Reading drafts

`Draft.Denotes d v` says that a draft is complete and is one of the value `v`; the members of an object stand in the
same order. Main statement: `read_of_renders`, a text that renders the symbols of a value is read as a draft of it,
with nothing behind.
-/

namespace InterceptAddons.Json

mutual

/-- A complete draft of a value. -/
inductive Draft.Denotes : Draft → Value → Prop
  | null : Draft.Denotes .null .null
  | bool (b : Bool) : Draft.Denotes (.bool b) (.bool b)
  | string {parts : List Part} {s : String} (h : Quotation.text ⟨parts, none⟩ = .ok s) :
    Draft.Denotes (.string ⟨parts, none⟩) (.string s)
  | array {ds : List Draft} {vs : List Value} (h : DenoteItems ds vs) : Draft.Denotes (.array ds none) (.array vs)
  | object {ms : List (Quotation × Draft)} {vs : List (String × Value)} (h : DenoteMembers ms vs) :
    Draft.Denotes (.object ms none) (.object vs)

/-- Complete drafts of the items of an array. -/
inductive DenoteItems : List Draft → List Value → Prop
  | nil : DenoteItems [] []
  | cons {d : Draft} {v : Value} {ds : List Draft} {vs : List Value} (hd : d.Denotes v) (h : DenoteItems ds vs) :
    DenoteItems (d :: ds) (v :: vs)

/-- Complete drafts of the members of an object. -/
inductive DenoteMembers : List (Quotation × Draft) → List (String × Value) → Prop
  | nil : DenoteMembers [] []
  | cons {q : Quotation} {k : String} {d : Draft} {v : Value} {ms : List (Quotation × Draft)}
    {vs : List (String × Value)} (hq : q.text = .ok k) (hd : d.Denotes v) (h : DenoteMembers ms vs) :
    DenoteMembers ((q, d) :: ms) ((k, v) :: vs)

end

/-! ### Single tokens -/

/-- Tokens that mean symbols, one for one. -/
abbrev Mean : List Token → List Symbol → Prop := List.Forall₂ Token.Means

variable {frames : List Frame} {ts rest : List Token}

theorem mean_append {ts : List Token} {xs ys : List Symbol} (h : Mean ts (xs ++ ys)) :
    ∃ us vs, ts = us ++ vs ∧ Mean us xs ∧ Mean vs ys := by
  have hfront := List.forall₂_take_append ts xs ys h
  have hback := List.forall₂_drop_append ts xs ys h
  exact ⟨_, _, (List.take_append_drop xs.length ts).symm, hfront, hback⟩

theorem mean_cons {ts : List Token} {x : Symbol} {xs : List Symbol} (h : Mean ts (x :: xs)) :
    ∃ t us, ts = t :: us ∧ t.Means x ∧ Mean us xs := by
  obtain ⟨t, us, ht, hus, rfl⟩ := List.forall₂_cons_right_iff.1 h
  exact ⟨t, us, rfl, ht, hus⟩

/-- The key of a member and its colon. -/
theorem mean_member {k : String} {xs : List Symbol} (h : Mean ts (.string k :: .colon :: xs)) :
    ∃ q us, ts = .string q :: .colon :: us ∧ q.text = .ok k ∧ Mean us xs := by
  obtain ⟨t, us, rfl, hkey, h⟩ := mean_cons h
  obtain ⟨t, us, rfl, hcolon, hus⟩ := mean_cons h
  cases hcolon
  cases hkey with
  | string hk => exact ⟨_, us, rfl, hk, hus⟩

/-- The first symbol of a value ends no array. -/
theorem exists_symbols_eq_cons (v : Value) : ∃ x xs, v.symbols = x :: xs ∧ x ≠ .endArray := by
  cases v with
  | null => exact ⟨_, _, rfl, nofun⟩
  | bool b => exact ⟨_, _, rfl, nofun⟩
  | number n => exact ⟨_, _, rfl, nofun⟩
  | string s => exact ⟨_, _, rfl, nofun⟩
  | array items => exact ⟨_, _, rfl, nofun⟩
  | object members => exact ⟨_, _, rfl, nofun⟩

/-- Where an array begins with a value, it is read like any other item. -/
theorem run_firstItem {v : Value} (h : Mean ts v.symbols) :
    (State.firstItem frames).run (ts ++ rest) = (State.value (.item [] :: frames)).run (ts ++ rest) := by
  obtain ⟨x, xs, hx, hend⟩ := exists_symbols_eq_cons v
  rw [hx] at h
  obtain ⟨t, us, rfl, ht, -⟩ := mean_cons h
  cases ht with
  | endArray => exact absurd rfl hend
  | _ => rfl

/-! ### Values -/

mutual

/-- **The tokens of a value** are read as a draft of it, in whatever it stands and whatever follows. -/
theorem run_value : ∀ (v : Value) {ts : List Token}, Mean ts v.symbols →
    ∃ d, Draft.Denotes d v ∧ ∀ frames rest, (State.value frames).run (ts ++ rest) = (State.plug d frames).run rest
  | .null, ts, h => by
    obtain ⟨t, us, rfl, ht, hus⟩ := mean_cons h
    cases hus
    cases ht
    exact ⟨.null, .null, fun _ _ => rfl⟩
  | .bool b, ts, h => by
    obtain ⟨t, us, rfl, ht, hus⟩ := mean_cons h
    cases hus
    cases ht
    exact ⟨.bool b, .bool b, fun _ _ => rfl⟩
  | .number n, ts, h => by
    obtain ⟨t, us, rfl, ht, hus⟩ := mean_cons h
    cases ht
  | .string s, ts, h => by
    obtain ⟨t, us, rfl, ht, hus⟩ := mean_cons h
    cases hus
    cases ht with
    | string hs => exact ⟨_, .string hs, fun _ _ => rfl⟩
  | .array items, ts, h => by
    obtain ⟨t, us, rfl, ht, hus⟩ := mean_cons h
    cases ht
    obtain ⟨us, ends, rfl, hitems, hends⟩ := mean_append hus
    obtain ⟨t, _, rfl, ht, hnil⟩ := mean_cons hends
    cases ht
    cases hnil
    cases items with
    | nil =>
      cases hitems
      exact ⟨_, .array .nil, fun _ _ => rfl⟩
    | cons v vs =>
      obtain ⟨us, more, rfl, hv, hmore⟩ := mean_append hitems
      obtain ⟨d, hd, hrun⟩ := run_value v hv
      obtain ⟨ds, hds, hruns⟩ := run_items vs hmore
      refine ⟨_, .array (.cons hd hds), fun frames rest => ?_⟩
      rw [List.cons_append, List.append_assoc, List.append_assoc]
      show (State.firstItem frames).run (us ++ (more ++ (.endArray :: rest))) = _
      rw [run_firstItem hv, hrun]
      exact hruns [d] frames rest
  | .object members, ts, h => by
    obtain ⟨t, us, rfl, ht, hus⟩ := mean_cons h
    cases ht
    obtain ⟨us, ends, rfl, hmembers, hends⟩ := mean_append hus
    obtain ⟨t, _, rfl, ht, hnil⟩ := mean_cons hends
    cases ht
    cases hnil
    cases members with
    | nil =>
      cases hmembers
      exact ⟨_, .object .nil, fun _ _ => rfl⟩
    | cons m ms =>
      obtain ⟨k, v⟩ := m
      obtain ⟨us, more, rfl, hm, hmore⟩ := mean_append hmembers
      obtain ⟨q, us, rfl, hk, hv⟩ := mean_member hm
      obtain ⟨d, hd, hrun⟩ := run_value v hv
      obtain ⟨ds, hds, hruns⟩ := run_members ms hmore
      refine ⟨_, .object (.cons hk hd hds), fun frames rest => ?_⟩
      simp only [List.cons_append, List.append_assoc]
      show (State.value (.member [] q :: frames)).run (us ++ (more ++ (.endObject :: rest))) = _
      rw [hrun]
      exact hruns [(q, d)] frames rest

/-- The items of an array behind the first one, and its end. -/
theorem run_items : ∀ (vs : List Value) {ts : List Token}, Mean ts ((symbolsOfItems vs).flatMap (.comma :: ·)) →
    ∃ ds, DenoteItems ds vs ∧ ∀ items frames rest,
      (State.nextItem items frames).run (ts ++ .endArray :: rest) =
        (State.plug (.array (items.reverse ++ ds) none) frames).run rest
  | [], ts, h => by
    cases h
    refine ⟨[], .nil, fun items frames rest => ?_⟩
    rw [List.append_nil]
    rfl
  | v :: vs, ts, h => by
    obtain ⟨t, us, rfl, ht, hus⟩ := mean_cons h
    cases ht
    obtain ⟨us, more, rfl, hv, hmore⟩ := mean_append hus
    obtain ⟨d, hd, hrun⟩ := run_value v hv
    obtain ⟨ds, hds, hruns⟩ := run_items vs hmore
    refine ⟨d :: ds, .cons hd hds, fun items frames rest => ?_⟩
    rw [List.cons_append, List.append_assoc]
    show (State.value (.item items :: frames)).run (us ++ (more ++ .endArray :: rest)) = _
    rw [hrun]
    show (State.nextItem (d :: items) frames).run (more ++ .endArray :: rest) = _
    rw [hruns, List.reverse_cons, List.append_assoc]
    rfl

/-- The members of an object behind the first one, and its end. -/
theorem run_members : ∀ (vs : List (String × Value)) {ts : List Token},
    Mean ts ((symbolsOfMembers vs).flatMap (.comma :: ·)) →
    ∃ ms, DenoteMembers ms vs ∧ ∀ members frames rest,
      (State.nextKey members frames).run (ts ++ .endObject :: rest) =
        (State.plug (.object (members.reverse ++ ms) none) frames).run rest
  | [], ts, h => by
    cases h
    refine ⟨[], .nil, fun members frames rest => ?_⟩
    rw [List.append_nil]
    rfl
  | (k, v) :: vs, ts, h => by
    obtain ⟨t, us, rfl, ht, hus⟩ := mean_cons h
    cases ht
    obtain ⟨us, more, rfl, hm, hmore⟩ := mean_append hus
    obtain ⟨q, us, rfl, hk, hv⟩ := mean_member hm
    obtain ⟨d, hd, hrun⟩ := run_value v hv
    obtain ⟨ds, hds, hruns⟩ := run_members vs hmore
    refine ⟨(q, d) :: ds, .cons hk hd hds, fun members frames rest => ?_⟩
    simp only [List.cons_append, List.append_assoc]
    show (State.value (.member members q :: frames)).run (us ++ (more ++ .endObject :: rest)) = _
    rw [hrun]
    show (State.nextKey ((q, d) :: members) frames).run (more ++ .endObject :: rest) = _
    rw [hruns, List.reverse_cons, List.append_assoc]
    rfl

end

/-- **A text that renders a value** is read as a draft of it, with nothing behind. -/
theorem read_of_renders {v : Value} {text : String} (h : Renders v.symbols text.toList) :
    ∃ d, Draft.Denotes d v ∧ Document.read (.ofString text) = ⟨d, false⟩ := by
  obtain ⟨d, hd, hrun⟩ := run_value v (lex_of_renders h)
  have hread := hrun [] []
  rw [List.append_nil] at hread
  exact ⟨d, hd, hread⟩

end InterceptAddons.Json
