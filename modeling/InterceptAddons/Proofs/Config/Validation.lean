import InterceptAddons.Proofs.Engine.Dispatch
import InterceptAddons.Proofs.Filter.Binding
import InterceptAddons.Proofs.Registry.Sorting

/-!
# Validated configurations

Main statement: `validate_load`. If a configuration passes validation, then its adjustments never make an addon be
rejected, and the filters that they give resolve wherever they end up. If it does not pass, the error is that of the
first filter text with a flaw.
-/

namespace InterceptAddons

open Http InterceptAddons.Filter

variable {ν : Type}

/-! ### Filter texts of adjustments -/

/-- The filters of adjustments in order, requests first: each is an adjustment with the kind of messages. -/
def overrideSlots (os : List AddonOverride) : List (AddonOverride × EventKind) :=
  os.flatMap fun o => [(o, .request), (o, .response)]

/-- The adjustment gives no filter text for messages of the kind, or one that can be read and resolved. -/
def Sound (x : AddonOverride × EventKind) : Prop :=
  ∀ text ∈ x.1.filterText x.2, ∃ f : Filter, Filter.parse text = .ok f ∧ f.check = .ok ()

/-- What is wrong with the filter text that an adjustment gives for messages of a kind. -/
inductive Flaw : AddonOverride × EventKind → ConfigError → Prop
  | unreadable {o : AddonOverride} {slot : EventKind} {text : String} {e : SyntaxError}
    (ht : o.filterText slot = some text) (h : Filter.parse text = .error e) :
    Flaw (o, slot) (.load ⟨.named o.id, slot, e⟩)
  | unresolved {o : AddonOverride} {slot : EventKind} {text : String} {f : Filter} {e : EvalError}
    (ht : o.filterText slot = some text) (hf : Filter.parse text = .ok f) (h : f.check = .error e) :
    Flaw (o, slot) (.eval e)

namespace EngineConfig

theorem checkFilter_of_sound {o : AddonOverride} {slot : EventKind} (h : Sound (o, slot)) :
    checkFilter o slot = .ok () := by
  unfold checkFilter
  cases ht : o.filterText slot with
  | none => rfl
  | some text =>
    obtain ⟨f, hf, hc⟩ := h text ht
    simp only [hf, hc]

theorem checkFilter_of_flaw {o : AddonOverride} {slot : EventKind} {e : ConfigError} (h : Flaw (o, slot) e) :
    checkFilter o slot = .error e := by
  unfold checkFilter
  cases h with
  | unreadable ht h => simp only [ht, h]
  | unresolved ht hf h => simp only [ht, hf, h]

theorem sound_or_flaw (o : AddonOverride) (slot : EventKind) :
    Sound (o, slot) ∨ ∃ e, Flaw (o, slot) e := by
  cases ht : o.filterText slot with
  | none => exact .inl fun text h => absurd (ht.symm.trans h) (by simp)
  | some text =>
    cases hf : Filter.parse text with
    | error e => exact .inr ⟨_, .unreadable ht hf⟩
    | ok f =>
      cases hc : f.check with
      | error e => exact .inr ⟨_, .unresolved ht hf hc⟩
      | ok u =>
        refine .inl fun text' h => ⟨f, ?_, hc⟩
        obtain rfl := Option.some.inj (ht.symm.trans h)
        exact hf

def flaw? (x : AddonOverride × EventKind) : Option ConfigError := error? (checkFilter x.1 x.2)

theorem flaw?_eq_some_iff {x : AddonOverride × EventKind} {e : ConfigError} : flaw? x = some e ↔ Flaw x e := by
  obtain ⟨o, slot⟩ := x
  refine ⟨fun h => ?_, fun h => error?_eq_some_iff.2 (checkFilter_of_flaw h)⟩
  have he : checkFilter o slot = .error e := error?_eq_some_iff.1 h
  rcases sound_or_flaw o slot with hs | ⟨e', hf⟩
  · rw [checkFilter_of_sound hs] at he
    cases he
  · obtain rfl := Except.error.inj ((checkFilter_of_flaw hf).symm.trans he)
    exact hf

theorem flaw?_eq_none_iff {x : AddonOverride × EventKind} : flaw? x = none ↔ Sound x := by
  obtain ⟨o, slot⟩ := x
  constructor
  · intro h
    rcases sound_or_flaw o slot with hs | ⟨e, hf⟩
    · exact hs
    · rw [flaw?_eq_some_iff.2 hf] at h
      cases h
  · intro h
    rw [flaw?, checkFilter_of_sound h]
    rfl

/-- Validation looks for the first flaw. -/
theorem error?_checkAll (os : List AddonOverride) :
    error? (checkAll os) = (overrideSlots os).findSome? flaw? := by
  induction os with
  | nil => rfl
  | cons o os ih =>
    have hslots : overrideSlots (o :: os) = (o, .request) :: (o, .response) :: overrideSlots os := rfl
    rw [checkAll, hslots, List.findSome?_cons, List.findSome?_cons, flaw?, flaw?, ← ih]
    cases checkFilter o .request with
    | error e => rfl
    | ok u =>
      cases checkFilter o .response with
      | error e => rfl
      | ok u => rfl

theorem validate_eq_error_iff {c : EngineConfig} {e : ConfigError} :
    c.validate = .error e ↔ ∃ before x after, overrideSlots c.addons = before ++ x :: after ∧
      (∀ y ∈ before, Sound y) ∧ Flaw x e := by
  rw [validate, ← error?_eq_some_iff, error?_checkAll, List.findSome?_eq_some_iff]
  simp only [flaw?_eq_some_iff, flaw?_eq_none_iff]
  constructor
  · rintro ⟨before, x, after, hs, hx, hbefore⟩
    exact ⟨before, x, after, hs, hbefore, hx⟩
  · rintro ⟨before, x, after, hs, hbefore, hx⟩
    exact ⟨before, x, after, hs, hx, hbefore⟩

theorem sound_of_validate {c : EngineConfig} (h : c.validate = .ok ()) {o : AddonOverride} (ho : o ∈ c.addons)
    (slot : EventKind) : Sound (o, slot) := by
  have hn : (overrideSlots c.addons).findSome? flaw? = none := by
    rw [← error?_checkAll]
    exact error?_eq_none_iff.2 ⟨(), h⟩
  have hmem : (o, slot) ∈ overrideSlots c.addons :=
    List.mem_flatMap.2 ⟨o, ho, by cases slot <;> simp⟩
  exact flaw?_eq_none_iff.1 (List.findSome?_eq_none_iff.1 hn _ hmem)

end EngineConfig

/-! ### Loading -/

theorem Applies.mem {overrides : List AddonOverride} {label : String} {o : AddonOverride}
    (h : Applies overrides label (some o)) : o ∈ overrides := by
  cases h with
  | first h => exact h ▸ List.mem_append_right _ List.mem_cons_self

section

variable {c : EngineConfig} (hc : c.validate = .ok ()) {spec : AddonSpec ν} {label : String}
  {o : Option AddonOverride} (ho : Applies c.addons label o) {slot : EventKind}

include hc ho

/-- A text that an adjustment gives in a validated configuration stands for a filter that can be resolved. -/
theorem exists_filter_of_replaced {text : String} (ht : o.bind (·.filterText slot) = some text) :
    ∃ f : Filter, Filter.parse text = .ok f ∧ f.check = .ok () := by
  obtain ⟨o, rfl, ht⟩ := Option.bind_eq_some_iff.1 ht
  exact EngineConfig.sound_of_validate hc ho.mem slot text ht

/-- A filter that cannot be read is one of the declaration, and no adjustment replaces it. -/
theorem own_text_of_error {e : SyntaxError} (h : filterOf (spec.text o slot) = .error e) :
    o.bind (·.filterText slot) = none ∧ ∃ text, spec.filterText slot = some text ∧ Filter.parse text = .error e := by
  unfold AddonSpec.text at h
  cases ht : o.bind (·.filterText slot) with
  | some text =>
    obtain ⟨f, hf, -⟩ := exists_filter_of_replaced hc ho ht
    rw [ht] at h
    exact absurd (hf.symm.trans h) (by simp)
  | none =>
    rw [ht] at h
    cases hs : spec.filterText slot with
    | none =>
      rw [hs] at h
      cases h
    | some text =>
      rw [hs] at h
      exact ⟨rfl, text, rfl, h⟩

/-- A filter that an adjustment gives is read from its text and can be resolved. -/
theorem check_of_replaced {text : String} {f : Filter} (ht : o.bind (·.filterText slot) = some text)
    (h : filterOf (spec.text o slot) = .ok f) : Filter.parse text = .ok f ∧ f.check = .ok () := by
  obtain ⟨f', hf, hcheck⟩ := exists_filter_of_replaced hc ho ht
  unfold AddonSpec.text at h
  rw [ht] at h
  obtain rfl : f' = f := Except.ok.inj (hf.symm.trans h)
  exact ⟨hf, hcheck⟩

end

/-- An addon is rejected for a text that cannot be read. -/
theorem SortsTo.of_rejected {overrides : List AddonOverride} {spec : AddonSpec ν} {i : Nat} {e : LoadError}
    (h : SortsTo overrides spec i (.rejected e)) : e.addon = spec.id i ∧
      ∃ o, Applies overrides (spec.label i) o ∧ filterOf (spec.text o e.slot) = .error e.error := by
  cases h with
  | badRequest ho _ h => exact ⟨rfl, _, ho, h⟩
  | badResponse ho _ _ h => exact ⟨rfl, _, ho, h⟩

/-- The filters of a loaded addon are those that its texts stand for. -/
theorem SortsTo.of_loaded {overrides : List AddonOverride} {spec : AddonSpec ν} {i : Nat} {a : Addon ν}
    (h : SortsTo overrides spec i (.loaded a)) : a.id = spec.id i ∧
      ∃ o, Applies overrides (spec.label i) o ∧ ∀ slot, filterOf (spec.text o slot) = .ok (a.filter slot) := by
  cases h with
  | loaded ho _ hf hg =>
    refine ⟨rfl, _, ho, fun slot => ?_⟩
    cases slot with
    | request => exact hf
    | response => exact hg

section

variable {specs : List (AddonSpec ν)} {overrides : List AddonOverride} {g : Nat}

theorem exists_sortsTo {x : Sorted ν} (h : x ∈ sortAll overrides specs) :
    ∃ i spec, specs[i]? = some spec ∧ SortsTo overrides spec i x := by
  obtain ⟨i, hi⟩ := List.mem_iff_getElem?.1 h
  obtain ⟨spec, hs, -⟩ : ∃ spec, specs[i]? = some spec ∧ spec.sort overrides i = x := by
    simpa [sortAll, List.getElem?_mapIdx] using hi
  exact ⟨i, spec, hs, (sortsTo_iff_getElem? overrides specs hs x).2 hi⟩

theorem exists_sortsTo_rejected {e : LoadError} (h : e ∈ (Registry.load g specs overrides).rejected) :
    ∃ i spec, specs[i]? = some spec ∧ SortsTo overrides spec i (.rejected e) := by
  obtain ⟨x, hx, he⟩ := List.mem_filterMap.1 h
  cases x with
  | rejected e' =>
    obtain rfl := Option.some.inj he
    exact exists_sortsTo hx
  | disabled | loaded => cases he

theorem exists_sortsTo_loaded {a : Addon ν} (h : a ∈ (Registry.load g specs overrides).addons) :
    ∃ spec, specs[a.order]? = some spec ∧ SortsTo overrides spec a.order (.loaded a) := by
  obtain ⟨x, hx, ha⟩ := List.mem_filterMap.1 h
  cases x with
  | loaded a' =>
    obtain rfl := Option.some.inj ha
    obtain ⟨i, spec, hs, hsort⟩ := exists_sortsTo hx
    obtain rfl := hsort.order
    exact ⟨spec, hs, hsort⟩
  | disabled | rejected => cases ha

end

/-! ### Dispatching -/

/-- A filter that can be resolved never gives a binding error. -/
theorem not_isBinding_of_check {f : Filter} (h : f.check = .ok ()) {facts : Facts} {err : EvalError}
    (he : f.selects facts = .error err) : ¬ err.IsBinding := by
  obtain ⟨b, hb, -⟩ := map_eq_ok h
  exact not_isBinding_of_eval hb he

/-- **Validation stands for loading.** With a validated configuration, an addon is rejected only for a text of its own
that the adjustment for it, the first one, does not replace. A filter of a loaded addon that comes from an adjustment
is read from its text and can be resolved, and no dispatch finds a binding error in it. The error of a configuration
that is not valid is that of the first filter text with a flaw, requests before responses. -/
theorem validate_load (c : EngineConfig) (g : Nat) (specs : List (AddonSpec ν)) :
    let r := Registry.load g specs c.addons
    (c.validate = .ok () →
      (∀ e ∈ r.rejected, ∃ (i : Nat) (spec : AddonSpec ν) (o : Option AddonOverride) (text : String),
        specs[i]? = some spec ∧ e.addon = spec.id i ∧ Applies c.addons (spec.label i) o ∧
        o.bind (·.filterText e.slot) = none ∧ spec.filterText e.slot = some text ∧
        Filter.parse text = .error e.error) ∧
      ∀ a ∈ r.addons, ∃ (spec : AddonSpec ν) (o : Option AddonOverride),
        specs[a.order]? = some spec ∧ a.id = spec.id a.order ∧ Applies c.addons (spec.label a.order) o ∧
        ∀ slot text, o.bind (·.filterText slot) = some text →
          Filter.parse text = .ok (a.filter slot) ∧ (a.filter slot).check = .ok () ∧
          ∀ (services : Services ν) (ask : Engine.Performer ν) (m m' : Traffic slot) (s : Engine ν) (err : EvalError),
            .asked a m' (.error err) ∈ (s.dispatchNoting services ask m).2 → ¬ err.IsBinding) ∧
    ∀ e, c.validate = .error e ↔ ∃ before x after, overrideSlots c.addons = before ++ x :: after ∧
      (∀ y ∈ before, Sound y) ∧ Flaw x e := by
  intro r
  refine ⟨fun hc => ⟨fun e he => ?_, fun a ha => ?_⟩, fun e => EngineConfig.validate_eq_error_iff⟩
  · obtain ⟨i, spec, hs, hsort⟩ := exists_sortsTo_rejected he
    obtain ⟨hid, o, ho, herror⟩ := hsort.of_rejected
    obtain ⟨hn, text, ht, hparse⟩ := own_text_of_error hc ho herror
    exact ⟨i, spec, o, text, hs, hid, ho, hn, ht, hparse⟩
  · obtain ⟨spec, hs, hsort⟩ := exists_sortsTo_loaded ha
    obtain ⟨hid, o, ho, hfilter⟩ := hsort.of_loaded
    refine ⟨spec, o, hs, hid, ho, fun slot text ht => ?_⟩
    obtain ⟨hparse, hcheck⟩ := check_of_replaced hc ho ht (hfilter slot)
    refine ⟨hparse, hcheck, fun services ask m m' s err herr => ?_⟩
    have hv : (.error err) = (a.filter slot).selects (.of m' services.scope) :=
      Engine.faithful_of_mem_dispatchNoting ask herr
    exact not_isBinding_of_check hcheck hv.symm

/-- A valid adjustment stands in for a text that cannot be read; without it the addon is rejected. -/
example :
    let c : EngineConfig := { addons := [{ id := "a", requestFilter := some "(method-eq \"GET\")" }] }
    let spec : AddonSpec Unit := { AddonSpec.empty with name := some "a", requestFilter := some "(" }
    c.validate.isOk = true ∧ (Registry.load 1 [spec] c.addons).rejected.length = 0 ∧
      (Registry.load 1 [spec] []).rejected.length = 1 := by
  decide +kernel

end InterceptAddons
