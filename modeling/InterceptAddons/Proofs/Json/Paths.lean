import InterceptAddons.Proofs.Json.Members
import InterceptAddons.Proofs.Text.Numeral
import InterceptAddons.Proofs.Text.Split
import Mathlib.Data.List.Forall2

/-!
# Dotted keys

`Nested v path w`: the steps of a path lead from a value down to one of its parts, each to a member of an object by its
key or to an item of an array by its number. `LeadsTo v key w`: so do the steps that the pieces of a dotted key tell.
Main statements: `hasPath_iff_leadsTo`, a dotted key is found if it leads to some part, and `hasPath_walk`, what this
comes to for the parts of a value and for keys that are put together.
-/

namespace InterceptAddons.Json

open InterceptAddons.Text

/-! ### Parts of values -/

/-- A step from a value down to one of its parts. -/
inductive Step
  | key (k : String)
  | index (i : Nat)

def Step.name : Step → String
  | .key k => k
  | .index i => toString i

/-- A step that a dotted key can tell: a key without a dot, or a number of 64 bits, as that of every item in memory. -/
def Step.Plain : Step → Prop
  | .key k => '.' ∉ k.toList
  | .index i => i < 2 ^ 64

/-- The part to which a step leads. Of two members with one key the first one counts. -/
inductive Child : Value → Step → Value → Prop
  | member {before after : List (String × Value)} {k : String} {w : Value} (h : ∀ m ∈ before, m.1 ≠ k) :
    Child (.object (before ++ (k, w) :: after)) (.key k) w
  | item {items : List Value} {i : Nat} {w : Value} (h : items[i]? = some w) : Child (.array items) (.index i) w

/-- The part to which steps lead. -/
inductive Nested : Value → List Step → Value → Prop
  | here (v : Value) : Nested v [] v
  | down {v u w : Value} {s : Step} {path : List Step} (h : Child v s u) (hu : Nested u path w) : Nested v (s :: path) w

theorem Ordered.of_nested {v w : Value} {path : List Step} (hv : Ordered v) (h : Nested v path w) : Ordered w := by
  induction h with
  | here => exact hv
  | down hchild _ ih =>
    refine ih ?_
    cases hv with
    | scalar hscalar => cases hchild <;> exact hscalar.elim
    | array hitems =>
      cases hchild with
      | item hi => exact hitems _ (List.mem_of_getElem? hi)
    | object hk hmembers =>
      cases hchild with
      | member => exact hmembers _ (List.mem_append_right _ List.mem_cons_self)

/-- In an object whose keys stand in order every member counts. -/
theorem child_of_mem {members : List (String × Value)} (hk : members.Pairwise (·.1 < ·.1)) {m : String × Value}
    (hm : m ∈ members) : Child (.object members) (.key m.1) m.2 := by
  obtain ⟨before, after, rfl⟩ := List.append_of_mem hm
  refine .member fun m' hm' heq => ?_
  have hlt := (List.pairwise_append.1 hk).2.2 m' hm' m List.mem_cons_self
  exact String.lt_irrefl _ (heq ▸ hlt)

/-- In values that are read every member of an object counts. -/
theorem child_of_read {text : Source} {v : Value} (h : Value.read text = .ok v) {path : List Step}
    {members : List (String × Value)} (hn : Nested v path (.object members)) {m : String × Value} (hm : m ∈ members) :
    Child (.object members) (.key m.1) m.2 := by
  cases (ordered_of_read h).of_nested hn with
  | scalar hscalar => exact hscalar.elim
  | object hk => exact child_of_mem hk hm

/-! ### Dotted keys -/

/-- What a piece of a dotted key tells: a key, or a number of 64 bits, before which a `+` and zeros may stand. -/
inductive Tells : String → Step → Prop
  | key (k : String) : Tells k (.key k)
  | index {piece : String} {digits : List Char} {i : Nat} (hi : i < 2 ^ 64) (h : IsNumeral 10 digits i)
    (hp : piece.toList = digits ∨ piece.toList = '+' :: digits) : Tells piece (.index i)

/-- The part to which a dotted key leads. -/
def LeadsTo (v : Value) (key : String) (w : Value) : Prop :=
  ∃ pieces path, pieces ≠ [] ∧ (∀ piece ∈ pieces, '.' ∉ piece.toList) ∧ key = ".".intercalate pieces ∧
    List.Forall₂ Tells pieces path ∧ Nested v path w

theorem child?_eq_some_iff {v w : Value} {piece : String} :
    v.child? piece.toList = some w ↔ ∃ s, Tells piece s ∧ Child v s w := by
  cases v with
  | null | bool | number | string =>
    refine iff_of_false (fun h => by cases h) ?_
    rintro ⟨s, -, ⟨⟩⟩
  | array items =>
    rw [Value.child?, Option.bind_eq_some_iff]
    constructor
    · rintro ⟨i, hi, hw⟩
      obtain ⟨hlt, digits, hdigits, hpiece⟩ := unsigned?_eq_some_iff.1 hi
      exact ⟨.index i, .index hlt hdigits hpiece, .item hw⟩
    · rintro ⟨s, htells, hchild⟩
      cases hchild with
      | @item _ i _ hw =>
        cases htells with
        | index hi hdigits hpiece => exact ⟨i, unsigned?_eq_some_iff.2 ⟨hi, _, hdigits, hpiece⟩, hw⟩
  | object members =>
    rw [Value.child?, Option.map_eq_some_iff]
    constructor
    · rintro ⟨⟨k, w⟩, hfind, rfl⟩
      obtain ⟨hk, before, after, rfl, hbefore⟩ := List.find?_eq_some_iff_append.1 hfind
      obtain rfl : k = piece := String.toList_inj.1 (beq_iff_eq.1 hk)
      refine ⟨.key k, .key k, .member fun m hm heq => ?_⟩
      have := hbefore m hm
      simp [heq] at this
    · rintro ⟨s, htells, hchild⟩
      cases hchild with
      | @member before after k w hbefore =>
        cases htells with
        | key =>
          have hothers : ∀ m ∈ before, (!(m.1.toList == piece.toList)) = true := fun m hm => by
            simpa [String.toList_inj] using hbefore m hm
          exact ⟨(piece, w), List.find?_eq_some_iff_append.2 ⟨beq_self_eq_true _, before, after, rfl, hothers⟩, rfl⟩

theorem descend?_eq_some_iff {v w : Value} {pieces : List String} :
    v.descend? (pieces.map String.toList) = some w ↔ ∃ path, List.Forall₂ Tells pieces path ∧ Nested v path w := by
  induction pieces generalizing v with
  | nil =>
    rw [List.map_nil, Value.descend?]
    constructor
    · intro h
      obtain rfl := Option.some.inj h
      exact ⟨[], .nil, .here v⟩
    · rintro ⟨path, htells, hnested⟩
      cases htells
      cases hnested
      rfl
  | cons piece pieces ih =>
    rw [List.map_cons, Value.descend?, Option.bind_eq_some_iff]
    constructor
    · rintro ⟨u, hu, hw⟩
      obtain ⟨s, hs, hchild⟩ := child?_eq_some_iff.1 hu
      obtain ⟨path, hpath, hnested⟩ := ih.1 hw
      exact ⟨s :: path, .cons hs hpath, .down hchild hnested⟩
    · rintro ⟨path, htells, hnested⟩
      cases htells with
      | cons hs hpath =>
        cases hnested with
        | down hchild hnested => exact ⟨_, child?_eq_some_iff.2 ⟨_, hs, hchild⟩, ih.2 ⟨_, hpath, hnested⟩⟩

theorem descend?_append (v : Value) (names names' : List (List Char)) :
    v.descend? (names ++ names') = (v.descend? names).bind (·.descend? names') := by
  induction names generalizing v with
  | nil => rfl
  | cons name names ih =>
    rw [List.cons_append, Value.descend?, Value.descend?, Option.bind_assoc]
    exact congrArg _ (funext ih)

/-! ### Pieces -/

theorem toList_join (pieces : List String) :
    (".".intercalate pieces).toList = List.intercalate ['.'] (pieces.map String.toList) :=
  String.toList_intercalate

/-- A dotted key is put together from its pieces. -/
theorem exists_pieces (key : String) : ∃ pieces : List String, pieces ≠ [] ∧ (∀ piece ∈ pieces, '.' ∉ piece.toList) ∧
    key = ".".intercalate pieces ∧ splitOn '.' key.toList = pieces.map String.toList := by
  have hmap : ((splitOn '.' key.toList).map String.ofList).map String.toList = splitOn '.' key.toList := by
    simp [Function.comp_def]
  refine ⟨(splitOn '.' key.toList).map String.ofList, ?_, ?_, ?_, hmap.symm⟩
  · simpa using splitOn_ne_nil '.' key.toList
  · intro piece hpiece hdot
    obtain ⟨p, hp, rfl⟩ := List.mem_map.1 hpiece
    rw [String.toList_ofList] at hdot
    exact (of_mem_piece hp '.' hdot).1 rfl
  · rw [← String.toList_inj, toList_join, hmap, splitOn_eq, List.intercalate_splitOn]

theorem splitOn_join {pieces : List String} (hne : pieces ≠ []) (h : ∀ piece ∈ pieces, '.' ∉ piece.toList) :
    splitOn '.' (".".intercalate pieces).toList = pieces.map String.toList := by
  rw [toList_join]
  refine splitOn_intercalate (by simpa using hne) fun p hp => ?_
  obtain ⟨piece, hpiece, rfl⟩ := List.mem_map.1 hp
  exact h piece hpiece

theorem leadsTo_iff {v w : Value} {key : String} :
    LeadsTo v key w ↔ v.descend? (splitOn '.' key.toList) = some w := by
  constructor
  · rintro ⟨pieces, path, hne, hdots, rfl, htells, hnested⟩
    rw [splitOn_join hne hdots]
    exact descend?_eq_some_iff.2 ⟨path, htells, hnested⟩
  · intro h
    obtain ⟨pieces, hne, hdots, hkey, hsplit⟩ := exists_pieces key
    rw [hsplit] at h
    obtain ⟨path, htells, hnested⟩ := descend?_eq_some_iff.1 h
    exact ⟨pieces, path, hne, hdots, hkey, htells, hnested⟩

/-- **A dotted key is found** exactly if it leads to some part. -/
theorem hasPath_iff_leadsTo {v : Value} {key : String} : v.hasPath key = true ↔ ∃ w, LeadsTo v key w := by
  rw [Value.hasPath, Option.isSome_iff_exists]
  simp only [leadsTo_iff]

theorem LeadsTo.unique {v w w' : Value} {key : String} (h : LeadsTo v key w) (h' : LeadsTo v key w') : w = w' :=
  Option.some.inj ((leadsTo_iff.1 h).symm.trans (leadsTo_iff.1 h'))

theorem splitOn_dotted (p s : String) :
    splitOn '.' (p ++ "." ++ s).toList = splitOn '.' p.toList ++ splitOn '.' s.toList := by
  have htext : (p ++ "." ++ s).toList = p.toList ++ '.' :: s.toList := by simp
  rw [htext, splitOn_append_cons]

theorem leadsTo_dotted {v w : Value} {p s : String} :
    LeadsTo v (p ++ "." ++ s) w ↔ ∃ u, LeadsTo v p u ∧ LeadsTo u s w := by
  simp only [leadsTo_iff, splitOn_dotted, descend?_append, Option.bind_eq_some_iff]

theorem Step.Plain.tells {s : Step} (h : s.Plain) : Tells s.name s ∧ '.' ∉ s.name.toList := by
  cases s with
  | key k => exact ⟨.key k, h⟩
  | index i =>
    have hname : (Step.index i).name.toList = Nat.toDigits 10 i := Nat.toList_repr
    refine ⟨.index h (isNumeral_toDigits i) (.inl hname), fun hdot => ?_⟩
    rw [hname] at hdot
    exact absurd (isDigit_of_mem_toDigits hdot) (by decide)

/-- A part is found under the names of the steps down to it. -/
theorem Nested.leadsTo {v w : Value} {path : List Step} (h : Nested v path w) (hne : path ≠ [])
    (hpath : ∀ s ∈ path, s.Plain) : LeadsTo v (".".intercalate (path.map Step.name)) w := by
  have htells : List.Forall₂ Tells (path.map Step.name) path := by
    rw [List.forall₂_map_left_iff, List.forall₂_same]
    exact fun s hs => (hpath s hs).tells.1
  refine ⟨path.map Step.name, path, by simpa using hne, fun piece hpiece => ?_, rfl, htells, h⟩
  obtain ⟨s, hs, rfl⟩ := List.mem_map.1 hpiece
  exact (hpath s hs).tells.2

/-- Without parts there is nothing to which a key could lead. -/
theorem hasPath_of_isScalar {v : Value} (h : v.IsScalar) (key : String) : v.hasPath key = false := by
  rw [← Bool.not_eq_true, hasPath_iff_leadsTo]
  rintro ⟨w, pieces, path, hne, -, -, htells, hnested⟩
  cases htells with
  | nil => exact hne rfl
  | cons =>
    cases hnested with
    | down hchild => cases hchild <;> exact h

/-- **Dotted keys.** A key is found exactly if it leads to a part. Every part below a value is found under the names of
the steps down to it, and if the value was read, there is such a step to each member of an object. A key with a dot in
it is found exactly if what stands before the dot leads to a part in which the rest is found, so that what stands before
the dot is found as well; and none is found that leads through a value without parts. -/
theorem hasPath_walk (v : Value) :
    (∀ key, v.hasPath key = true ↔ ∃ w, LeadsTo v key w) ∧
    (∀ path w, Nested v path w → path ≠ [] → (∀ s ∈ path, s.Plain) →
      LeadsTo v (".".intercalate (path.map Step.name)) w ∧
      v.hasPath (".".intercalate (path.map Step.name)) = true) ∧
    (∀ text, Value.read text = .ok v → ∀ path members, Nested v path (.object members) →
      ∀ m ∈ members, Child (.object members) (.key m.1) m.2) ∧
    (∀ p s, v.hasPath (p ++ "." ++ s) = true ↔ ∃ w, LeadsTo v p w ∧ w.hasPath s = true) ∧
    (∀ p s, v.hasPath (p ++ "." ++ s) = true → v.hasPath p = true) ∧
    (∀ p w s, LeadsTo v p w → w.IsScalar → v.hasPath (p ++ "." ++ s) = false) ∧
    (v.IsScalar → ∀ key, v.hasPath key = false) := by
  have hdotted (p s : String) : v.hasPath (p ++ "." ++ s) = true ↔ ∃ w, LeadsTo v p w ∧ w.hasPath s = true := by
    simp only [hasPath_iff_leadsTo, leadsTo_dotted]
    constructor
    · rintro ⟨w, u, hu, hw⟩
      exact ⟨u, hu, w, hw⟩
    · rintro ⟨u, hu, w, hw⟩
      exact ⟨w, u, hu, hw⟩
  refine ⟨fun key => hasPath_iff_leadsTo, fun path w h hne hpath => ?_,
    fun text hread path members hn m => child_of_read hread hn, hdotted, fun p s h => ?_,
    fun p w s hw hscalar => ?_, hasPath_of_isScalar⟩
  · have hleads := h.leadsTo hne hpath
    exact ⟨hleads, hasPath_iff_leadsTo.2 ⟨w, hleads⟩⟩
  · obtain ⟨w, hw, -⟩ := (hdotted p s).1 h
    exact hasPath_iff_leadsTo.2 ⟨w, hw⟩
  · rw [← Bool.not_eq_true, hdotted]
    rintro ⟨u, hu, hs⟩
    rw [hu.unique hw, hasPath_of_isScalar hscalar] at hs
    cases hs

/-- An item is found under its number, also with a sign and a zero before it; there is nothing below a truth value. -/
example :
    let v : Value := .object [("user", .object [("roles", .array [.null, .bool true])])]
    v.hasPath "user.roles.1" = true ∧ v.hasPath "user.roles.+01" = true ∧ v.hasPath "user.roles.2" = false ∧
      v.hasPath "user.roles.1." = false := by decide +kernel

end InterceptAddons.Json
