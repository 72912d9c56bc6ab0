import InterceptAddons.Engine.State
import InterceptAddons.Proofs.Registry
import Mathlib.Tactic.Tauto

/-!
# Owners of registries

`Moves loaded gone s s'` is what one step of an engine may do to its registries: load one, which it owns from
then on, and unload one, exactly if its last owner goes with the step. Every operation on the states of an
engine is such a step. `Gains.letGo` is the lemma behind those that give up an owner; `walking_…` and the like
tell what an operation leaves as it is.
-/

namespace InterceptAddons

open Http

variable {ν : Type}

/-- Declarations with the adjustments for them. -/
abbrev Declared (ν : Type) := List (AddonSpec ν) × List AddonOverride

def loadingRecords (generation : Nat) (loaded : Option (Declared ν)) : List (Record ν) :=
  loaded.elim [] fun d => Registry.loadRecords generation d.1 d.2

def unloadingRecords (gone : Option (Registry ν)) : List (Record ν) := gone.elim [] Registry.unloadRecords

/-- At most one record, and none about loading or unloading. -/
def IsAside (rest : List (Record ν)) : Prop := rest.length ≤ 1 ∧ ∀ x ∈ rest, x.ofLifecycle = false

theorem isAside_singleton {x : Record ν} (h : x.ofLifecycle = false) : IsAside [x] :=
  ⟨Nat.le_refl 1, List.forall_mem_singleton.2 h⟩

namespace Engine

theorem mem_owners {s : Engine ν} {r : Registry ν} :
    r ∈ s.owners ↔ s.installed = some r ∨ r ∈ s.held ∨ r ∈ s.walking := by
  simp [owners, Option.mem_toList]

theorem owns_iff {s : Engine ν} {r : Registry ν} :
    s.owns r = true ↔ ∃ r' ∈ s.owners, r'.generation = r.generation := by
  simp [owns, List.any_eq_true]

theorem owns_of_mem {s : Engine ν} {r : Registry ν} (h : r ∈ s.owners) : s.owns r = true :=
  owns_iff.2 ⟨r, h, rfl⟩

/-! ### Steps -/

/-- What is owned after declarations may have been loaded. -/
structure Loads (loaded : Option (Declared ν)) (s t : Engine ν) : Prop where
  /-- Registries are counted as they are loaded. -/
  generation : t.generation = s.generation + loaded.toList.length
  /-- A registry that is owned was owned before, or has just been loaded. -/
  owned : ∀ r ∈ t.owners, r ∈ s.owners ∨ ∃ d ∈ loaded, r = .load (s.generation + 1) d.1 d.2
  /-- A registry that has been loaded is owned. -/
  kept : ∀ d ∈ loaded, Registry.load (s.generation + 1) d.1 d.2 ∈ t.owners

/-- A step that may load declarations, and by which a registry may lose its last owner. -/
structure Moves (loaded : Option (Declared ν)) (gone : Option (Registry ν)) (s s' : Engine ν) : Prop
    extends Loads loaded s s' where
  /-- A registry goes exactly if it was owned and no owner is left. -/
  lost : ∀ r, r ∈ gone ↔ r ∈ s.owners ∧ s'.owns r = false
  /-- Besides loading and unloading at most one record is written, about neither. -/
  log : ∃ rest, IsAside rest ∧
    s'.log = s.log ++ loadingRecords (s.generation + 1) loaded ++ rest ++ unloadingRecords gone

def Move (s s' : Engine ν) : Prop := ∃ loaded gone, Moves loaded gone s s'

/-- A step before it lets go of a registry. -/
structure Gains (loaded : Option (Declared ν)) (s t : Engine ν) : Prop extends Loads loaded s t where
  log : ∃ rest, IsAside rest ∧ t.log = s.log ++ loadingRecords (s.generation + 1) loaded ++ rest

@[simp] theorem owners_writeAll (s : Engine ν) (rs : List (Record ν)) :
    (s.writeAll rs).owners = s.owners := rfl

theorem letGo_of_owns {s : Engine ν} {r : Registry ν} (h : s.owns r = true) : s.letGo r = s := if_pos h

theorem letGo_of_not_owns {s : Engine ν} {r : Registry ν} (h : s.owns r = false) :
    s.letGo r = s.writeAll r.unloadRecords := if_neg (by simp [h])

/-- A step after which every owned registry is still owned. -/
theorem Gains.move {loaded : Option (Declared ν)} {s t : Engine ν} (h : Gains loaded s t)
    (hs : ∀ r ∈ s.owners, t.owns r = true) : Move s t := by
  refine ⟨loaded, none, h.toLoads, ?_, ?_⟩
  · intro r
    constructor
    · intro hr
      cases hr
    · rintro ⟨hr, ht⟩
      -- nothing goes, since every owned registry has kept an owner
      simp [hs r hr] at ht
  · obtain ⟨rest, hr, hlog⟩ := h.log
    exact ⟨rest, hr, by simpa [unloadingRecords] using hlog⟩

/-- **Letting go of a registry** of which a step gives up one owner. -/
theorem Gains.letGo {loaded : Option (Declared ν)} {s t : Engine ν} {r : Registry ν}
    (h : Gains loaded s t) (hr : r ∈ s.owners) (hs : ∀ x ∈ s.owners, x = r ∨ x ∈ t.owners) :
    Move s (t.letGo r) := by
  by_cases ho : t.owns r = true
  · rw [letGo_of_owns ho]
    refine h.move fun x hx => ?_
    rcases hs x hx with rfl | hx
    · exact ho
    · exact owns_of_mem hx
  · rw [Bool.not_eq_true] at ho
    rw [letGo_of_not_owns ho]
    refine ⟨loaded, some r, ⟨h.generation, h.owned, h.kept⟩, ?_, ?_⟩
    · intro x
      constructor
      · intro hx
        obtain rfl := Option.some.inj hx
        exact ⟨hr, ho⟩
      · rintro ⟨hx, hxo⟩
        rcases hs x hx with rfl | hx
        · rfl
        · rw [owns, owners_writeAll, ← owns, owns_of_mem hx] at hxo
          cases hxo
    · obtain ⟨rest, hrest, hlog⟩ := h.log
      exact ⟨rest, hrest, by rw [writeAll, hlog]; rfl⟩

/-! ### Operations -/

/-- A step that loads nothing, gives no registry a first owner, and writes no more than a record. -/
theorem gains_none {s t : Engine ν} (rest : List (Record ν)) (hr : IsAside rest)
    (hg : t.generation = s.generation) (ho : ∀ r ∈ t.owners, r ∈ s.owners) (hlog : t.log = s.log ++ rest) :
    Gains none s t where
  generation := by simpa using hg
  owned r h := .inl (ho r h)
  kept := nofun
  log := ⟨rest, hr, by simpa [loadingRecords] using hlog⟩

theorem move_write (s : Engine ν) {x : Record ν} (hx : x.ofLifecycle = false) : Move s (s.write x) := by
  have h : Gains none s (s.write x) := gains_none [x] (isAside_singleton hx) rfl (fun _ h => h) rfl
  exact h.move fun _ => owns_of_mem

variable (s : Engine ν) (specs : List (AddonSpec ν)) (overrides : List AddonOverride)

end Engine

end InterceptAddons
