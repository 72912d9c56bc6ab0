import InterceptAddons.Json.Record
import InterceptAddons.Proofs.Json.Reading

/-!
# Records in any order

A `Slot` says how one field of a record may be written: under which name, as which values, and whether it may be left
out. `Slot.Writes slots v` says that `v` is an object with these fields, in any order and among members of other names.
Main statement: `Stages.toRecord_eq`, reading any such object gives the same record.
-/

namespace InterceptAddons.Json

/-- How a field of a record may be written. -/
structure Slot where
  name : String
  Holds : Value → Prop
  mayLack : Prop

/-- A value that holds no other ones: null, a truth value or a text. -/
def Value.IsAtom : Value → Prop
  | .null | .bool _ | .string _ => True
  | _ => False

namespace Slot

/-- Members for slots, in their order, without some of those that may be left out. -/
inductive Fill : List Slot → List (String × Value) → Prop
  | nil : Fill [] []
  | write {s : Slot} {v : Value} {slots : List Slot} {ms : List (String × Value)} (hv : s.Holds v)
    (h : Fill slots ms) : Fill (s :: slots) ((s.name, v) :: ms)
  | leave {s : Slot} {slots : List Slot} {ms : List (String × Value)} (hs : s.mayLack) (h : Fill slots ms) :
    Fill (s :: slots) ms

def names (slots : List Slot) : List String := slots.map Slot.name

/-- A member whose name is that of no slot. -/
def IsForeign (slots : List Slot) (m : String × Value) : Prop := m.1 ∉ names slots ∧ m.2.IsAtom

/-- An object in which the slots are written, in any order and with foreign members among them. -/
def Writes (slots : List Slot) (v : Value) : Prop :=
  ∃ known foreign members, Fill slots known ∧ (∀ m ∈ foreign, IsForeign slots m) ∧
    members.Perm (known ++ foreign) ∧ v = .object members

/-- A member that fills some slot. -/
def IsKnown (slots : List Slot) (m : String × Value) : Prop := ∃ s ∈ slots, s.name = m.1 ∧ s.Holds m.2

/-- The slots that come in members, in their order. -/
def namesIn (slots : List Slot) (members : List (String × Value)) : List String :=
  (members.map Prod.fst).filter (· ∈ names slots)

/-- Members that fill the slots in their order write them. -/
theorem writes_of_fill {slots : List Slot} {members : List (String × Value)} (h : Fill slots members) :
    Writes slots (.object members) :=
  ⟨members, [], members, h, by simp, by simp, rfl⟩

/-! ### Filled slots -/

variable {slots : List Slot} {known : List (String × Value)}

theorem Fill.isKnown (h : Fill slots known) : ∀ m ∈ known, IsKnown slots m := by
  induction h with
  | nil => simp
  | @write s v slots ms hv _ ih =>
    intro m hm
    rcases List.mem_cons.1 hm with rfl | hm
    · exact ⟨s, List.mem_cons_self, rfl, hv⟩
    · obtain ⟨t, ht, hname, hholds⟩ := ih m hm
      exact ⟨t, List.mem_cons_of_mem _ ht, hname, hholds⟩
  | leave _ _ ih =>
    intro m hm
    obtain ⟨t, ht, hname, hholds⟩ := ih m hm
    exact ⟨t, List.mem_cons_of_mem _ ht, hname, hholds⟩

theorem Fill.sublist (h : Fill slots known) : (known.map Prod.fst).Sublist (names slots) := by
  induction h with
  | nil => exact .refl _
  | write _ _ ih => exact ih.cons_cons _
  | leave _ _ ih => exact ih.cons _

/-- What is not written may be left out. -/
theorem Fill.mem_or_mayLack (h : Fill slots known) : ∀ s ∈ slots, s.name ∈ known.map Prod.fst ∨ s.mayLack := by
  induction h with
  | nil => simp
  | write _ _ ih =>
    intro s hs
    rcases List.mem_cons.1 hs with rfl | hs
    · exact .inl List.mem_cons_self
    · exact (ih s hs).imp_left (List.mem_cons_of_mem _)
  | leave hlack _ ih =>
    intro s hs
    rcases List.mem_cons.1 hs with rfl | hs
    · exact .inr hlack
    · exact ih s hs

theorem IsKnown.mem {m : String × Value} (h : IsKnown slots m) : m.1 ∈ names slots := by
  obtain ⟨s, hs, hname, -⟩ := h
  exact List.mem_map.2 ⟨s, hs, hname⟩

/-- The names that come are those of the filled slots. -/
theorem namesIn_perm {foreign members : List (String × Value)} (hknown : Fill slots known)
    (hforeign : ∀ m ∈ foreign, IsForeign slots m) (hperm : members.Perm (known ++ foreign)) :
    (namesIn slots members).Perm (known.map Prod.fst) := by
  have hall : (known.map Prod.fst).filter (· ∈ names slots) = known.map Prod.fst := by
    rw [List.filter_eq_self]
    intro name hname
    simpa using hknown.sublist.subset hname
  have hnone : (foreign.map Prod.fst).filter (· ∈ names slots) = [] := by
    rw [List.filter_eq_nil_iff]
    intro name hname
    obtain ⟨m, hm, rfl⟩ := List.mem_map.1 hname
    simpa using (hforeign m hm).1
  have hnames := (hperm.map Prod.fst).filter (· ∈ names slots)
  rw [List.map_append, List.filter_append, hall, hnone, List.append_nil] at hnames
  exact hnames

end Slot

/-! ### Reading plain values -/

theorem toBool_of_denotes {d : Draft} {b : Bool} (h : d.Denotes (.bool b)) : d.toBool = .ok b := by
  cases h
  rfl

theorem toText_of_denotes {d : Draft} {s : String} (h : d.Denotes (.string s)) : d.toText = .ok s := by
  cases h with
  | string hs => exact hs

/-- A list is read item by item. -/
theorem toList_of_denotes {α : Type} {read : Draft → Except Fault α} {Holds : α → Value → Prop}
    (hread : ∀ {a : α} {d : Draft} {v : Value}, Holds a v → d.Denotes v → read d = .ok a) {as : List α}
    {vs : List Value} (hvs : List.Forall₂ Holds as vs) {d : Draft} (hd : d.Denotes (.array vs)) :
    d.toList read = .ok as := by
  cases hd with
  | @array ds _ hds =>
    rw [Draft.toList]
    induction hvs generalizing ds with
    | nil =>
      cases hds
      rfl
    | @cons a v as vs hv _ ih =>
      cases hds with
      | cons hd hds =>
        rw [decodeItems, hread hv hd, Except.bind, ih hds]
        rfl

/-! ### Reading records -/

section

variable {σ : Type} {stage : List String → σ} {fields : List (RecordField σ)} {slots : List Slot}

/-- A field takes in what its slot holds. `stage seen` is the record after the fields `seen` have come. -/
structure RecordField.Reads (stage : List String → σ) (f : RecordField σ) (s : Slot) : Prop where
  name : f.name = s.name
  required : f.isRequired = true → ¬s.mayLack
  read : ∀ {d : Draft} {v : Value}, s.Holds v → d.Denotes v → ∀ seen,
    f.read d (stage seen) = .ok (stage (s.name :: seen))

theorem find?_of_mem (hfields : List.Forall₂ (RecordField.Reads stage) fields slots)
    (hnodup : (Slot.names slots).Nodup) {s : Slot} (hs : s ∈ slots) :
    ∃ f, fields.find? (·.name == s.name) = some f ∧ f.Reads stage s := by
  induction hfields with
  | nil => cases hs
  | @cons f t fields slots hf _ ih =>
    obtain ⟨hfresh, hnodup⟩ := List.nodup_cons.1 hnodup
    rcases List.mem_cons.1 hs with rfl | hs
    · exact ⟨f, by simp [hf.name], hf⟩
    · have hne : t.name ≠ s.name := fun h => hfresh (h ▸ List.mem_map_of_mem hs)
      obtain ⟨g, hg, hreads⟩ := ih hnodup hs
      refine ⟨g, ?_, hreads⟩
      rw [List.find?_cons_of_neg (by simpa [hf.name] using hne), hg]

theorem find?_of_not_mem (hfields : List.Forall₂ (RecordField.Reads stage) fields slots) {key : String}
    (hkey : key ∉ Slot.names slots) : fields.find? (·.name == key) = none := by
  induction hfields with
  | nil => rfl
  | @cons f s fields slots hf _ ih =>
    have hne : s.name ≠ key := fun h => hkey (h ▸ List.mem_cons_self)
    have hrest : key ∉ Slot.names slots := fun h => hkey (List.mem_cons_of_mem _ h)
    rw [List.find?_cons_of_neg (by simpa [hf.name] using hne), ih hrest]

theorem skip_of_isAtom {d : Draft} {v : Value} (hd : d.Denotes v) (hv : v.IsAtom) : d.skip = .ok () := by
  cases hd with
  | null => rfl
  | bool b => rfl
  | string h => rfl
  | array h => cases hv
  | object h => cases hv

/-- Reading members goes from stage to stage, with each name of a slot that comes. -/
theorem readMembers_eq (hfields : List.Forall₂ (RecordField.Reads stage) fields slots)
    (hnodup : (Slot.names slots).Nodup) {ms : List (Quotation × Draft)} {members : List (String × Value)}
    (hms : DenoteMembers ms members)
    (hmembers : ∀ m ∈ members, Slot.IsKnown slots m ∨ Slot.IsForeign slots m) (seen : List String)
    (hfresh : (Slot.namesIn slots members ++ seen).Nodup) :
    readMembers fields ms none seen (stage seen) =
      readMembers fields [] none ((Slot.namesIn slots members).reverse ++ seen)
        (stage ((Slot.namesIn slots members).reverse ++ seen)) := by
  induction ms generalizing members seen with
  | nil =>
    cases hms
    rfl
  | cons m ms ih =>
    cases hms with
    | @cons q k d v _ members hq hd hms =>
      have hrest : ∀ m ∈ members, Slot.IsKnown slots m ∨ Slot.IsForeign slots m :=
        fun m hm => hmembers m (List.mem_cons_of_mem _ hm)
      conv_lhs => rw [readMembers, hq]
      simp only [Except.bind]
      rcases hmembers _ List.mem_cons_self with hknown | hforeign
      · have hin : Slot.namesIn slots ((k, v) :: members) = k :: Slot.namesIn slots members := by
          have hk : k ∈ Slot.names slots := hknown.mem
          simp [Slot.namesIn, hk]
        rw [hin, List.cons_append, List.nodup_cons] at hfresh
        have hnew : seen.contains k = false := by
          have hk : k ∉ seen := fun h => hfresh.1 (List.mem_append_right _ h)
          simpa using hk
        obtain ⟨s, hs, hname, hholds⟩ := hknown
        obtain ⟨f, hfind, hreads⟩ := find?_of_mem hfields hnodup hs
        have hname : s.name = k := hname
        have hnext : (Slot.namesIn slots members ++ k :: seen).Nodup :=
          (List.perm_middle.nodup_iff).2 (List.nodup_cons.2 hfresh)
        rw [← hname, hfind]
        simp only [hname, hnew, Bool.false_eq_true, if_false]
        rw [hreads.read hholds hd seen, hname]
        have hih := ih hms hrest (k :: seen) hnext
        rw [hin, List.reverse_cons, List.append_assoc]
        exact hih
      · have hin : Slot.namesIn slots ((k, v) :: members) = Slot.namesIn slots members := by
          have hk : k ∉ Slot.names slots := hforeign.1
          simp [Slot.namesIn, hk]
        rw [hin] at hfresh ⊢
        rw [find?_of_not_mem hfields hforeign.1, skip_of_isAtom hd hforeign.2]
        exact ih hms hrest seen hfresh

/-- At the end every field that has to be there has come. -/
theorem readMembers_nil (hfields : List.Forall₂ (RecordField.Reads stage) fields slots) {seen : List String}
    (hseen : ∀ s ∈ slots, s.name ∈ seen ∨ s.mayLack) (r : σ) :
    readMembers fields [] none seen r = .ok r := by
  have hlack : (fields.any fun f => f.isRequired && !seen.contains f.name) = false := by
    induction hfields with
    | nil => rfl
    | @cons f s fields slots hf _ ih =>
      rw [List.any_cons, ih fun t ht => hseen t (List.mem_cons_of_mem _ ht), Bool.or_false]
      rcases hseen s List.mem_cons_self with hs | hs
      · simp [hf.name, hs]
      · have hoptional : f.isRequired = false := by
          by_contra h
          exact hf.required (by simpa using h) hs
        simp [hoptional]
  rw [readMembers, hlack]
  rfl

/-- How a record comes about, from `start` to `final`: what it is after some of its members have come. -/
structure Stages (fields : List (RecordField σ)) (slots : List Slot) (start final : σ) where
  after : List String → σ
  names_nodup : (Slot.names slots).Nodup
  reads : List.Forall₂ (RecordField.Reads after) fields slots
  after_nil : after [] = start
  after_eq : ∀ seen, (∀ s ∈ slots, s.name ∈ seen ∨ s.mayLack) → after seen = final

/-- **A record is read from every way of writing it.** -/
theorem Stages.toRecord_eq {start final : σ} (stages : Stages fields slots start final) {d : Draft} {v : Value}
    (hv : Slot.Writes slots v) (hd : d.Denotes v) : d.toRecord fields start = .ok final := by
  obtain ⟨known, foreign, members, hknown, hforeign, hperm, rfl⟩ := hv
  cases hd with
  | @object ms _ hms =>
    have hmembers : ∀ m ∈ members, Slot.IsKnown slots m ∨ Slot.IsForeign slots m := by
      intro m hm
      rcases List.mem_append.1 (hperm.mem_iff.1 hm) with hm | hm
      · exact .inl (hknown.isKnown m hm)
      · exact .inr (hforeign m hm)
    have hnames := Slot.namesIn_perm hknown hforeign hperm
    have hfresh : (Slot.namesIn slots members ++ []).Nodup := by
      rw [List.append_nil, hnames.nodup_iff]
      exact hknown.sublist.nodup stages.names_nodup
    have hseen : ∀ s ∈ slots, s.name ∈ (Slot.namesIn slots members).reverse ++ [] ∨ s.mayLack := by
      intro s hs
      rw [List.append_nil, List.mem_reverse, hnames.mem_iff]
      exact hknown.mem_or_mayLack s hs
    rw [Draft.toRecord, ← stages.after_nil,
      readMembers_eq stages.reads stages.names_nodup hms hmembers [] hfresh, readMembers_nil stages.reads hseen,
      stages.after_eq _ hseen]

end

end InterceptAddons.Json
