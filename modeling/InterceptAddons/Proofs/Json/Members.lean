import InterceptAddons.Json.Value
import InterceptAddons.Proofs.Results

/-!
# Members of objects

`Ordered v`: everywhere in a value the members of an object stand in the order of their keys, so that no key comes
twice. Main statement: `ordered_of_read`, this is so in every value that is read.
-/

namespace InterceptAddons.Json

/-- A value without parts. -/
def Value.IsScalar : Value → Prop
  | .array _ | .object _ => False
  | .null | .bool _ | .number _ | .string _ => True

/-- All objects in the value have their members in the order of their keys. -/
inductive Ordered : Value → Prop
  | scalar {v : Value} (h : v.IsScalar) : Ordered v
  | array {items : List Value} (h : ∀ w ∈ items, Ordered w) : Ordered (.array items)
  | object {members : List (String × Value)} (hk : members.Pairwise (·.1 < ·.1)) (h : ∀ m ∈ members, Ordered m.2) :
    Ordered (.object members)

/-! ### Members -/

theorem mem_of_mem_insertMember {k : String} {v : Value} {ms : List (String × Value)} {m : String × Value}
    (h : m ∈ insertMember k v ms) : m = (k, v) ∨ m ∈ ms := by
  induction ms with
  | nil => exact .inl (List.mem_singleton.1 h)
  | cons m' ms ih =>
    rw [insertMember] at h
    split at h
    · exact (List.mem_cons.1 h).imp_right (List.mem_cons_of_mem _)
    split at h
    · exact List.mem_cons.1 h
    · rcases List.mem_cons.1 h with rfl | h
      · exact .inr List.mem_cons_self
      · exact (ih h).imp_right (List.mem_cons_of_mem _)

theorem pairwise_insertMember {k : String} {v : Value} {ms : List (String × Value)} (h : ms.Pairwise (·.1 < ·.1)) :
    (insertMember k v ms).Pairwise (·.1 < ·.1) := by
  induction ms with
  | nil => exact List.pairwise_singleton _ _
  | cons m ms ih =>
    obtain ⟨hm, hms⟩ := List.pairwise_cons.1 h
    rw [insertMember]
    split
    · next hk => exact List.pairwise_cons.2 ⟨fun m' hm' => hk ▸ hm m' hm', hms⟩
    split
    · next hk =>
      refine List.pairwise_cons.2 ⟨fun m' hm' => ?_, h⟩
      rcases List.mem_cons.1 hm' with rfl | hm'
      · exact hk
      · exact String.lt_trans hk (hm m' hm')
    · next hne hnlt =>
      refine List.pairwise_cons.2 ⟨fun m' hm' => ?_, ih hms⟩
      rcases mem_of_mem_insertMember hm' with rfl | hm'
      · exact String.not_le.1 fun hle => hne (String.le_antisymm hle (String.not_lt.1 hnlt))
      · exact hm m' hm'

/-! ### Drafts -/

mutual

theorem ordered_of_ofDraft : ∀ (depth : Nat) (d : Draft) (v : Value), Value.ofDraft depth d = .ok v → Ordered v
  | _, .null, v, h => by
    obtain rfl := Except.ok.inj h
    exact .scalar trivial
  | _, .bool b, v, h => by
    obtain rfl := Except.ok.inj h
    exact .scalar trivial
  | _, .number n, v, h => by
    obtain ⟨m, -, rfl⟩ := map_eq_ok h
    exact .scalar trivial
  | _, .string q, v, h => by
    obtain ⟨s, -, rfl⟩ := map_eq_ok h
    exact .scalar trivial
  | depth + 1, .array items ending, v, h => by
    obtain ⟨vs, hvs, rfl⟩ := map_eq_ok h
    exact .array (ordered_of_valuesOfDrafts depth items ending vs hvs)
  | depth + 1, .object members ending, v, h => by
    obtain ⟨ms, hms, rfl⟩ := map_eq_ok h
    obtain ⟨hk, hall⟩ := ordered_of_membersOfDrafts depth members ending [] ms .nil (List.forall_mem_nil _) hms
    exact .object hk hall
  | 0, .array _ _, v, h | 0, .object _ _, v, h | _, .broken _, v, h => by cases h

theorem ordered_of_valuesOfDrafts : ∀ (depth : Nat) (ds : List Draft) (ending : Option Fault) (vs : List Value),
    valuesOfDrafts depth ds ending = .ok vs → ∀ w ∈ vs, Ordered w
  | depth, [], ending, vs, h => by
    cases ending with
    | none =>
      obtain rfl := Except.ok.inj h
      exact List.forall_mem_nil _
    | some f => cases h
  | depth, d :: ds, ending, vs, h => by
    obtain ⟨v, hd, h⟩ := bind_eq_ok h
    obtain ⟨vs', hvs, rfl⟩ := map_eq_ok h
    exact List.forall_mem_cons.2 ⟨ordered_of_ofDraft depth d v hd, ordered_of_valuesOfDrafts depth ds ending vs' hvs⟩

theorem ordered_of_membersOfDrafts : ∀ (depth : Nat) (ds : List (Quotation × Draft)) (ending : Option Fault)
    (ms ms' : List (String × Value)), ms.Pairwise (·.1 < ·.1) → (∀ m ∈ ms, Ordered m.2) →
    membersOfDrafts depth ds ending ms = .ok ms' → ms'.Pairwise (·.1 < ·.1) ∧ ∀ m ∈ ms', Ordered m.2
  | depth, [], ending, ms, ms', hk, hall, h => by
    cases ending with
    | none =>
      obtain rfl := Except.ok.inj h
      exact ⟨hk, hall⟩
    | some f => cases h
  | depth, (q, d) :: ds, ending, ms, ms', hk, hall, h => by
    obtain ⟨k, -, h⟩ := bind_eq_ok h
    obtain ⟨v, hd, h⟩ := bind_eq_ok h
    refine ordered_of_membersOfDrafts depth ds ending _ ms' (pairwise_insertMember hk) (fun m hm => ?_) h
    rcases mem_of_mem_insertMember hm with rfl | hm
    · exact ordered_of_ofDraft depth d v hd
    · exact hall m hm

end

/-- **Values that are read** have their members in the order of their keys. -/
theorem ordered_of_read {text : Source} {v : Value} (h : Value.read text = .ok v) : Ordered v := by
  obtain ⟨w, hw, h⟩ := bind_eq_ok h
  split at h
  · cases h
  · obtain rfl := Except.ok.inj h
    exact ordered_of_ofDraft _ _ _ hw

end InterceptAddons.Json
