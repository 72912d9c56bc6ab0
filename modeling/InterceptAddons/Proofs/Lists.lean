import Mathlib.Data.List.Forall2
import Mathlib.Data.Set.List

/-!
# Lists

What is known of the members of a list from another list beside it.
-/

namespace InterceptAddons

/-- Whoever stands in the second of two related lists has a partner in the first one. -/
theorem exists_of_forall₂ {α β : Type*} {R : α → β → Prop} {xs : List α} {ys : List β} (h : List.Forall₂ R xs ys) :
    ∀ y ∈ ys, ∃ x ∈ xs, R x y := by
  induction h with
  | nil => exact List.forall_mem_nil _
  | @cons x y xs ys hxy _ ih =>
    refine List.forall_mem_cons.2 ⟨⟨x, List.mem_cons_self, hxy⟩, fun z hz => ?_⟩
    obtain ⟨w, hw, hwz⟩ := ih z hz
    exact ⟨w, List.mem_cons_of_mem _ hw, hwz⟩

theorem exists_map_eq {α β : Type*} {f : α → β} {ys : List β} (h : ∀ y ∈ ys, ∃ x, f x = y) :
    ∃ xs : List α, xs.map f = ys := by
  have hys : ys ∈ Set.range (List.map f) := by
    rw [Set.range_list_map]
    exact h
  exact hys

theorem any_comm {α β : Type*} (o : Option α) (ys : List β) (f : α → β → Bool) :
    (o.any fun x => ys.any (f x)) = ys.any fun y => o.any (f · y) := by
  cases o with
  | none => simp
  | some x => rfl

end InterceptAddons
