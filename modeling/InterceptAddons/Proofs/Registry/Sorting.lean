import InterceptAddons.Engine.State
import InterceptAddons.Proofs.Registry
import Mathlib.Data.List.Pairwise

/-!
# Sorting declarations

`SortsTo` gives the rules by which a declaration is disabled, rejected or loaded. Main statement: `load_sorts`.
Loading sorts every declaration by exactly one rule; loaded addons and errors keep the order of their
declarations, and just the loaded addons are initialised.
-/

namespace InterceptAddons

open Http

variable {ν : Type}

/-! ### Rules -/

/-- The text by which configuration refers to the declaration at a place. -/
def AddonSpec.label (spec : AddonSpec ν) (i : Nat) : String := spec.name.getD ("addon#" ++ toString i)

/-- The adjustment that applies to a label: the first one that is for it. -/
inductive Applies (overrides : List AddonOverride) (label : String) : Option AddonOverride → Prop
  | first {before after : List AddonOverride} {o : AddonOverride} (h : overrides = before ++ o :: after)
    (ho : o.id = label) (hbefore : ∀ o' ∈ before, o'.id ≠ label) : Applies overrides label (some o)
  | none (h : ∀ o ∈ overrides, o.id ≠ label) : Applies overrides label none

/-- The text of a filter: the one that an adjustment gives, or else the declared one. -/
def AddonSpec.text (spec : AddonSpec ν) (o : Option AddonOverride) (slot : EventKind) : Option String :=
  match o.bind (·.filterText slot) with
  | some text => some text
  | none => spec.filterText slot

/-- The filter that a text stands for; no text stands for the one that selects everything. -/
def filterOf : Option String → Except Filter.SyntaxError Filter
  | none => .ok .always
  | some text => Filter.parse text

/-- What becomes of the declaration at a place. Nothing is asked about its callbacks. -/
inductive SortsTo (overrides : List AddonOverride) (spec : AddonSpec ν) (i : Nat) : Sorted ν → Prop
  | disabled {o : AddonOverride} (ho : Applies overrides (spec.label i) (some o)) (h : o.isEnabled = false) :
    SortsTo overrides spec i (.disabled (spec.id i))
  | badRequest {o : Option AddonOverride} {e : Filter.SyntaxError} (ho : Applies overrides (spec.label i) o)
    (hon : ∀ o' ∈ o, o'.isEnabled = true) (h : filterOf (spec.text o .request) = .error e) :
    SortsTo overrides spec i (.rejected ⟨spec.id i, .request, e⟩)
  | badResponse {o : Option AddonOverride} {f : Filter} {e : Filter.SyntaxError}
    (ho : Applies overrides (spec.label i) o) (hon : ∀ o' ∈ o, o'.isEnabled = true)
    (hf : filterOf (spec.text o .request) = .ok f) (h : filterOf (spec.text o .response) = .error e) :
    SortsTo overrides spec i (.rejected ⟨spec.id i, .response, e⟩)
  | loaded {o : Option AddonOverride} {f g : Filter} (ho : Applies overrides (spec.label i) o)
    (hon : ∀ o' ∈ o, o'.isEnabled = true) (hf : filterOf (spec.text o .request) = .ok f)
    (hg : filterOf (spec.text o .response) = .ok g) :
    SortsTo overrides spec i (.loaded
      ⟨spec.id i, i, f, g, spec.onRequest, spec.onResponse, spec.onInit, spec.onCleanup⟩)

/-! ### Declarations one by one -/

theorem print_id (spec : AddonSpec ν) (i : Nat) : (spec.id i).print = spec.label i := by
  unfold AddonSpec.id AddonSpec.label
  cases spec.name <;> rfl

theorem applies_iff {overrides : List AddonOverride} {spec : AddonSpec ν} {i : Nat}
    {o : Option AddonOverride} :
    Applies overrides (spec.label i) o ↔ overrideOf? overrides (spec.id i) = o := by
  rw [overrideOf?, print_id]
  constructor
  · rintro (⟨h, ho, hbefore⟩ | h)
    · exact List.find?_eq_some_iff_append.2 ⟨by simpa using ho, _, _, h, by simpa using hbefore⟩
    · simpa using h
  · rintro rfl
    cases h : overrides.find? (·.id == spec.label i) with
    | none => exact .none (by simpa using h)
    | some o =>
      obtain ⟨ho, before, after, hs, hbefore⟩ := List.find?_eq_some_iff_append.1 h
      exact .first hs (by simpa using ho) (by simpa using hbefore)

theorem readFilter_eq (id : AddonId) (slot : EventKind) (text : Option String) :
    readFilter id slot text = (filterOf text).mapError fun e => ⟨id, slot, e⟩ := by
  cases text with
  | none => rfl
  | some text =>
    rw [readFilter, filterOf]
    cases Filter.parse text <;> rfl

theorem or_filterText (spec : AddonSpec ν) (o : Option AddonOverride) (slot : EventKind) :
    (o.bind (·.filterText slot)).or (spec.filterText slot) = spec.text o slot := by
  rw [AddonSpec.text]
  cases o.bind (·.filterText slot) <;> rfl

section

variable {overrides : List AddonOverride} {spec : AddonSpec ν} {i : Nat} {o : Option AddonOverride}

/-- A declaration is loaded with the adjustment that applies, unless this disables it. -/
theorem sort_of_enabled (ho : Applies overrides (spec.label i) o) (hon : ∀ o' ∈ o, o'.isEnabled = true) :
    spec.sort overrides i = spec.load i o := by
  rw [AddonSpec.sort, applies_iff.1 ho]
  cases o with
  | none => rfl
  | some o => exact if_pos (hon o rfl)

theorem load_of_badRequest {e : Filter.SyntaxError} (h : filterOf (spec.text o .request) = .error e) :
    spec.load i o = .rejected ⟨spec.id i, .request, e⟩ := by
  simp only [AddonSpec.load, or_filterText, readFilter_eq, h]
  rfl

theorem load_of_badResponse {f : Filter} {e : Filter.SyntaxError} (hf : filterOf (spec.text o .request) = .ok f)
    (h : filterOf (spec.text o .response) = .error e) :
    spec.load i o = .rejected ⟨spec.id i, .response, e⟩ := by
  simp only [AddonSpec.load, or_filterText, readFilter_eq, hf, h]
  rfl

theorem load_of_ok {f g : Filter} (hf : filterOf (spec.text o .request) = .ok f)
    (hg : filterOf (spec.text o .response) = .ok g) :
    spec.load i o = .loaded
      ⟨spec.id i, i, f, g, spec.onRequest, spec.onResponse, spec.onInit, spec.onCleanup⟩ := by
  simp only [AddonSpec.load, or_filterText, readFilter_eq, hf, hg]
  rfl

/-- **Every declaration is sorted by exactly one rule.** -/
theorem sortsTo_iff {x : Sorted ν} : SortsTo overrides spec i x ↔ spec.sort overrides i = x := by
  constructor
  · rintro (⟨ho, h⟩ | ⟨ho, hon, h⟩ | ⟨ho, hon, hf, h⟩ | ⟨ho, hon, hf, hg⟩)
    · rw [AddonSpec.sort, applies_iff.1 ho]
      exact if_neg (by simp [h])
    · rw [sort_of_enabled ho hon, load_of_badRequest h]
    · rw [sort_of_enabled ho hon, load_of_badResponse hf h]
    · rw [sort_of_enabled ho hon, load_of_ok hf hg]
  · rintro rfl
    have ho : Applies overrides (spec.label i) (overrideOf? overrides (spec.id i)) := applies_iff.2 rfl
    by_cases hon : ∀ o' ∈ overrideOf? overrides (spec.id i), o'.isEnabled = true
    · rw [sort_of_enabled ho hon]
      cases hf : filterOf (spec.text (overrideOf? overrides (spec.id i)) .request) with
      | error e =>
        rw [load_of_badRequest hf]
        exact .badRequest ho hon hf
      | ok f =>
        cases hg : filterOf (spec.text (overrideOf? overrides (spec.id i)) .response) with
        | error e =>
          rw [load_of_badResponse hf hg]
          exact .badResponse ho hon hf hg
        | ok g =>
          rw [load_of_ok hf hg]
          exact .loaded ho hon hf hg
    · obtain ⟨o, hmem, hoff⟩ : ∃ o ∈ overrideOf? overrides (spec.id i), o.isEnabled = false := by
        simpa using hon
      rw [Option.mem_def] at hmem
      rw [hmem] at ho
      rw [AddonSpec.sort, hmem]
      simp only [hoff]
      exact .disabled ho hoff

/-- A loaded addon keeps the place of its declaration. -/
theorem SortsTo.order {a : Addon ν} (h : SortsTo overrides spec i (.loaded a)) : a.order = i := by
  cases h
  rfl

end

/-! ### All declarations -/

section

variable (overrides : List AddonOverride) (specs : List (AddonSpec ν))

theorem sortsTo_iff_getElem? {i : Nat} {spec : AddonSpec ν} (h : specs[i]? = some spec) (x : Sorted ν) :
    SortsTo overrides spec i x ↔ (sortAll overrides specs)[i]? = some x := by
  rw [sortsTo_iff, sortAll, List.getElem?_mapIdx, h]
  simp

theorem order_of_getElem?_sortAll {i : Nat} {a : Addon ν}
    (h : (sortAll overrides specs)[i]? = some (.loaded a)) : a.order = i := by
  obtain ⟨spec, hs, -⟩ : ∃ spec, specs[i]? = some spec ∧ spec.sort overrides i = .loaded a := by
    simpa [sortAll, List.getElem?_mapIdx] using h
  exact ((sortsTo_iff_getElem? overrides specs hs _).2 h).order

/-- The places of loaded addons increase, also past declarations that are not loaded. -/
theorem pairwise_order_addons (g : Nat) :
    (Registry.load g specs overrides).addons.Pairwise (·.order < ·.order) := by
  have hsorted : (sortAll overrides specs).Pairwise fun x y =>
      ∀ a b, x = .loaded a → y = .loaded b → a.order < b.order := by
    refine List.pairwise_iff_getElem.2 fun i j hi hj hij a b ha hb => ?_
    rw [order_of_getElem?_sortAll overrides specs (List.getElem?_eq_some_iff.2 ⟨hi, ha⟩),
      order_of_getElem?_sortAll overrides specs (List.getElem?_eq_some_iff.2 ⟨hj, hb⟩)]
    exact hij
  refine hsorted.filterMap Sorted.addon? fun x y h a ha b hb => ?_
  cases x with
  | loaded a' =>
    cases y with
    | loaded b' =>
      cases ha
      cases hb
      exact h _ _ rfl rfl
    | disabled | rejected => cases hb
  | disabled | rejected => cases ha

end

/-- **Loading sorts declarations.** What becomes of each of them follows from exactly one rule. Addons and errors
stand in the order of the declarations, and the places of addons increase. In this order, every loaded addon is
initialised once and no other one is, and it stays loaded if this fails: its callback leaves its notes in the log, and
behind them its failure if it fails. -/
theorem load_sorts (s : Engine ν) (specs : List (AddonSpec ν)) (overrides : List AddonOverride) :
    let r := (s.load specs overrides).1
    ∃ (sorted : List (Sorted ν)) (records : List (Record ν)),
      sorted.length = specs.length ∧
      (∀ i spec, specs[i]? = some spec → ∀ x, SortsTo overrides spec i x ↔ sorted[i]? = some x) ∧
      r.addons = sorted.filterMap Sorted.addon? ∧ r.addons.Pairwise (·.order < ·.order) ∧
      r.rejected = sorted.filterMap Sorted.error? ∧
      (s.load specs overrides).2.log = s.log ++ records ∧
      records.filter Record.ofCallback = r.addons.flatMap (fun a => runStage a.onInit a.id .init) ∧
      ∀ a ∈ r.addons, Leaves a.id .init a.onInit (runStage a.onInit a.id .init) := by
  refine ⟨sortAll overrides specs, Registry.loadRecords (s.generation + 1) specs overrides, ?_, ?_, rfl, ?_,
    rfl, rfl, Registry.filter_loadRecords _ specs overrides, fun a _ => leaves_runStage a.onInit a.id .init⟩
  · exact List.length_mapIdx
  · exact fun i spec h x => sortsTo_iff_getElem? overrides specs h x
  · exact pairwise_order_addons overrides specs _

end InterceptAddons
