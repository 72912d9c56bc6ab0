import InterceptAddons.Proofs.Registry.Sorting
import Mathlib.Data.List.Nodup

/-!
# Adjustments that are reported

Loading ends with a warning for every adjustment that applies to no declaration, by its place: of several for
one declaration only the first applies. Main statement: `warnings_load`. The warnings name just the adjustments
that are for no declaration exactly if no two adjustments are for one declaration.
-/

namespace InterceptAddons

open Http

variable {ν : Type}

/-! ### Warnings -/

def unmatchedWarning (id : String) : Entry ν :=
  .event .warn "configuration override matches no addon" [("addon", .text id)]

def Entry.isUnmatchedWarning : Entry ν → Bool
  | .event _ message _ => message == "configuration override matches no addon"
  | _ => false

def labels (specs : List (AddonSpec ν)) : List String := specs.mapIdx fun i spec => spec.label i

/-- The adjustments that apply to none of the given labels: no label finds its first adjustment at their place. -/
def unapplied (labels : List String) (overrides : List AddonOverride) : List AddonOverride :=
  (overrides.zipIdx.filter fun p => ∀ l ∈ labels, overrides.findIdx? (·.id == l) ≠ some p.2).map Prod.fst

/-! ### The adjustments that are left over -/

theorem unmatched_eq_among (overrides : List AddonOverride) (specs : List (AddonSpec ν)) :
    unmatched overrides specs = unmatchedAmong (labels specs) [] overrides := by
  simp only [unmatched, labels, print_id]

/-- A label finds its first adjustment right behind others if these are for other labels and the next one is
for it. -/
theorem findIdx?_eq_length_iff {front os : List AddonOverride} {o : AddonOverride} {l : String} :
    (front ++ o :: os).findIdx? (·.id == l) = some front.length ↔ o.id = l ∧ l ∉ front.map (·.id) := by
  rw [List.findIdx?_eq_some_iff_getElem]
  constructor
  · rintro ⟨hlt, ho, hfront⟩
    rw [List.getElem_append_right (Nat.le_refl _)] at ho
    refine ⟨by simpa using ho, fun hl => ?_⟩
    obtain ⟨o', ho', rfl⟩ := List.mem_map.1 hl
    obtain ⟨j, hj, rfl⟩ := List.getElem_of_mem ho'
    have hne := hfront j hj
    rw [List.getElem_append_left hj] at hne
    simp at hne
  · rintro ⟨rfl, hl⟩
    refine ⟨by simp, by simp, fun j hj => ?_⟩
    rw [List.getElem_append_left hj, beq_iff_eq]
    exact fun heq => hl (List.mem_map.2 ⟨_, List.getElem_mem hj, heq⟩)

/-- The adjustments that are left over behind others are those that apply to no label. -/
theorem unmatchedAmong_eq (labels seen : List String) (front os : List AddonOverride)
    (hseen : ∀ l, l ∈ seen ↔ l ∈ front.map (·.id)) :
    unmatchedAmong labels seen os =
      ((os.zipIdx front.length).filter fun p =>
        ∀ l ∈ labels, (front ++ os).findIdx? (·.id == l) ≠ some p.2).map Prod.fst := by
  induction os generalizing seen front with
  | nil => rfl
  | cons o os ih =>
    have happlies : (∀ l ∈ labels, (front ++ o :: os).findIdx? (·.id == l) ≠ some front.length) ↔
        ¬(labels.contains o.id && !seen.contains o.id) = true := by
      simp only [ne_eq, findIdx?_eq_length_iff, ← hseen]
      grind
    have hrest := ih (o.id :: seen) (front ++ [o]) fun l => by
      rw [List.mem_cons, hseen, List.map_append, List.mem_append, List.map_singleton, List.mem_singleton, or_comm]
    rw [List.append_assoc, List.singleton_append, List.length_append, List.length_singleton] at hrest
    rw [unmatchedAmong, hrest, List.zipIdx_cons, List.filter_cons]
    simp only [decide_eq_true_eq, happlies]
    by_cases h : (labels.contains o.id && !seen.contains o.id) = true
    · rw [if_pos h, if_neg (not_not_intro h)]
    · rw [if_neg h, if_pos h, List.map_cons]

theorem unmatched_eq_unapplied (overrides : List AddonOverride) (specs : List (AddonSpec ν)) :
    unmatched overrides specs = unapplied (labels specs) overrides := by
  rw [unmatched_eq_among, unmatchedAmong_eq _ [] [] overrides fun _ => by simp]
  rfl

/-- The adjustments that are left over have the ids of those for no label exactly if no two are for one label, those
before them counted in. -/
theorem map_unmatchedAmong_eq_iff (labels seen : List String) (os : List AddonOverride) :
    (unmatchedAmong labels seen os).map (·.id) = (os.filter (·.id ∉ labels)).map (·.id) ↔
      (∀ o ∈ os, o.id ∈ seen → o.id ∉ labels) ∧ os.Pairwise fun o o' => o.id = o'.id → o.id ∉ labels := by
  induction os generalizing seen with
  | nil => simp [unmatchedAmong]
  | cons o os ih =>
    rw [List.pairwise_cons, List.forall_mem_cons, unmatchedAmong, List.filter_cons]
    by_cases hl : o.id ∈ labels
    · by_cases hs : o.id ∈ seen
      · -- it is reported though it is for a label
        have hreport : ¬(labels.contains o.id && !seen.contains o.id) = true := by simp [hs]
        rw [if_neg hreport, if_neg (by simpa using hl)]
        refine iff_of_false (fun heq => ?_) fun h => h.1.1 hs hl
        have hmem : o.id ∈ (os.filter (·.id ∉ labels)).map (·.id) := by
          rw [← heq]
          exact List.mem_cons_self
        obtain ⟨o', ho', hid⟩ := List.mem_map.1 hmem
        have hout : o'.id ∉ labels := by simpa using (List.mem_filter.1 ho').2
        exact hout (hid ▸ hl)
      · have hreport : (labels.contains o.id && !seen.contains o.id) = true := by simp [hl, hs]
        rw [if_pos hreport, if_neg (by simpa using hl), ih]
        grind
    · have hreport : ¬(labels.contains o.id && !seen.contains o.id) = true := by simp [hl]
      rw [if_neg hreport, if_pos (by simpa using hl), List.map_cons, List.map_cons, List.cons_inj_right, ih]
      grind

/-! ### What is reported -/

theorem isUnmatchedWarning_of_ofCallback {x : Record ν} (h : x.ofCallback = true) :
    x.entry.isUnmatchedWarning = false := by
  cases x with
  | remark r =>
    cases r with
    | host n => rfl
    | log => cases h
  | lifecycleFailed addon stage f => cases f <;> simp [Record.entry, Entry.isUnmatchedWarning]
  | _ => cases h

theorem filter_runStage (l : Option (Lifecycle ν)) (a : AddonId) (stage : Stage) :
    ((runStage l a stage).map Record.entry).filter Entry.isUnmatchedWarning = [] := by
  rw [List.filter_eq_nil_iff]
  intro e he
  obtain ⟨x, hx, rfl⟩ := List.mem_map.1 he
  simp [isUnmatchedWarning_of_ofCallback (ofCallback_of_mem_runStage hx)]

/-- Nothing that is written of a declaration is such a warning. -/
theorem Sorted.filter_records (x : Sorted ν) :
    (x.records.map Record.entry).filter Entry.isUnmatchedWarning = [] := by
  cases x with
  | loaded a =>
    rw [Sorted.records, List.map_append, List.filter_append, filter_runStage]
    simp [Record.entry, Entry.isUnmatchedWarning]
  | disabled id | rejected e => simp [Sorted.records, Record.entry, Entry.isUnmatchedWarning]

/-- The warnings of a load come from the adjustments that are left over, in order. -/
theorem filter_loadRecords_entry (g : Nat) (specs : List (AddonSpec ν)) (overrides : List AddonOverride) :
    ((Registry.loadRecords g specs overrides).map Record.entry).filter Entry.isUnmatchedWarning =
      ((unmatched overrides specs).map (·.id)).map unmatchedWarning := by
  have hsorted : (((sortAll overrides specs).flatMap Sorted.records).map Record.entry).filter
      Entry.isUnmatchedWarning = [] := by
    rw [List.map_flatMap, List.filter_flatMap, funext Sorted.filter_records]
    simp
  have hunmatched : (((unmatched overrides specs).map fun o => (.overrideUnmatched o.id : Record ν)).map
      Record.entry).filter Entry.isUnmatchedWarning =
      ((unmatched overrides specs).map (·.id)).map unmatchedWarning := by
    rw [List.map_map, List.map_map, List.filter_eq_self.2]
    · rfl
    · intro e he
      obtain ⟨o, -, rfl⟩ := List.mem_map.1 he
      exact beq_self_eq_true _
  simp only [Registry.loadRecords, List.map_append, List.filter_append, hsorted, hunmatched]
  simp [Record.entry, Entry.isUnmatchedWarning]

theorem unmatchedWarning_injective : Function.Injective (unmatchedWarning (ν := ν)) := fun _ _ h => by
  simpa [unmatchedWarning] using h

/-- **Warnings about adjustments.** A load warns of the adjustments that apply to no declaration, once each and in
order, whatever becomes of the declarations. These are the adjustments with an id that no declaration has as its
label exactly if no two adjustments have the label of one declaration. -/
theorem warnings_load (g : Nat) (specs : List (AddonSpec ν)) (overrides : List AddonOverride) :
    let warnings := ((Registry.loadRecords g specs overrides).map Record.entry).filter Entry.isUnmatchedWarning
    warnings = ((unapplied (labels specs) overrides).map (·.id)).map unmatchedWarning ∧
      (warnings = ((overrides.filter (·.id ∉ labels specs)).map (·.id)).map unmatchedWarning ↔
        overrides.Pairwise fun o o' => o.id = o'.id → o.id ∉ labels specs) := by
  intro warnings
  have hwarnings : warnings = ((unmatched overrides specs).map (·.id)).map unmatchedWarning :=
    filter_loadRecords_entry g specs overrides
  refine ⟨by rw [hwarnings, unmatched_eq_unapplied], ?_⟩
  rw [hwarnings, (List.map_injective_iff.2 unmatchedWarning_injective).eq_iff, unmatched_eq_among,
    map_unmatchedAmong_eq_iff]
  exact and_iff_right fun _ _ h => absurd h List.not_mem_nil

/-- Of two adjustments for one declaration the second is reported as if it matched none. -/
theorem warnings_load_twice :
    let specs : List (AddonSpec Unit) := [{ AddonSpec.empty with name := some "noisy" }]
    let o := AddonOverride.disable "noisy"
    "noisy" ∈ labels specs ∧
      ((Registry.loadRecords 1 specs [o, o]).map Record.entry).filter Entry.isUnmatchedWarning =
        [unmatchedWarning "noisy"] := by
  decide +kernel

end InterceptAddons
