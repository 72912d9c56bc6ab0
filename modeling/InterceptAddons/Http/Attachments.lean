/-!
# Attachments

Texts that addons leave on a message for later ones, under keys that stand in order.
-/

namespace InterceptAddons.Http

/-- Texts under keys, in the order of the keys. -/
structure Attachments where
  entries : List (String × String)
  sorted : entries.Pairwise (·.1 < ·.1)
  deriving DecidableEq

namespace Attachments

def empty : Attachments := ⟨[], .nil⟩

/-- Puts a text under a key in a list in order; it replaces the text that is there. -/
def insertEntry (key value : String) : List (String × String) → List (String × String)
  | [] => [(key, value)]
  | e :: es =>
    if key < e.1 then (key, value) :: e :: es
    else if e.1 < key then e :: insertEntry key value es
    else (key, value) :: es

theorem key_of_mem_insertEntry {key value : String} {es : List (String × String)}
    {e : String × String} (h : e ∈ insertEntry key value es) : e.1 = key ∨ e ∈ es := by
  induction es with
  | nil => simp_all [insertEntry]
  | cons f fs ih =>
    unfold insertEntry at h
    split at h
    · rcases List.mem_cons.1 h with rfl | h
      · exact .inl rfl
      · exact .inr h
    split at h
    · rcases List.mem_cons.1 h with rfl | h
      · exact .inr (List.mem_cons_self ..)
      · exact (ih h).imp_right (List.mem_cons_of_mem _)
    · rcases List.mem_cons.1 h with rfl | h
      · exact .inl rfl
      · exact .inr (List.mem_cons_of_mem _ h)

theorem sorted_insertEntry {key value : String} {es : List (String × String)}
    (h : es.Pairwise (·.1 < ·.1)) : (insertEntry key value es).Pairwise (·.1 < ·.1) := by
  induction es with
  | nil => simp [insertEntry]
  | cons e es ih =>
    obtain ⟨h₁, h₂⟩ := List.pairwise_cons.1 h
    unfold insertEntry
    split
    · next hlt =>
      refine List.pairwise_cons.2 ⟨fun f hf => ?_, h⟩
      rcases List.mem_cons.1 hf with rfl | hf
      · exact hlt
      · exact String.lt_trans hlt (h₁ f hf)
    split
    · next hlt =>
      refine List.pairwise_cons.2 ⟨fun f hf => ?_, ih h₂⟩
      rcases key_of_mem_insertEntry hf with hk | hf
      · exact hk ▸ hlt
      · exact h₁ f hf
    · next h₃ h₄ =>
      have hk : key = e.1 := String.le_antisymm (String.not_lt.1 h₄) (String.not_lt.1 h₃)
      exact List.pairwise_cons.2 ⟨fun f hf => hk ▸ h₁ f hf, h₂⟩

/-- Attaches a text; it replaces the one under the same key. -/
def insert (a : Attachments) (key value : String) : Attachments :=
  ⟨insertEntry key value a.entries, sorted_insertEntry a.sorted⟩

def get? (a : Attachments) (key : String) : Option String :=
  (a.entries.find? (·.1 == key)).map Prod.snd

def contains (a : Attachments) (key : String) : Bool := (a.get? key).isSome

end Attachments

end InterceptAddons.Http
