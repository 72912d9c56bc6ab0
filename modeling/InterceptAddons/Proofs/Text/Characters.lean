import InterceptAddons.Text.Unicode.Blank
import InterceptAddons.Text.Unicode.Letters

/-!
# Classes of characters

How the classes of characters lie to each other: no letter is white space, and a class that does not depend on the
letter case of ASCII characters depends on letter case nowhere.
-/

namespace InterceptAddons.Text

/-! ### ASCII -/

/-- A property of all ASCII characters can be checked by going through them. -/
theorem of_ascii {P : Char → Prop} (h : ∀ n < 128, P (Char.ofNat n)) {c : Char} (hc : c.toNat < 128) :
    P c := by
  rw [← Char.ofNat_toNat c]
  exact h _ hc

theorem lt_of_isDigit {c : Char} (h : c.isDigit = true) : c.toNat < 128 := by
  simp only [Char.isDigit, Bool.and_eq_true, decide_eq_true_eq] at h
  have := UInt32.le_iff_toNat_le.1 h.2
  exact Nat.lt_of_le_of_lt this (by decide)

theorem lt_of_isUpper {c : Char} (h : c.isUpper = true) : c.toNat < 128 := by
  have hc : c.val ≥ 'A'.val ∧ c.val ≤ 'Z'.val := of_decide_eq_true h
  have := UInt32.le_iff_toNat_le.1 hc.2
  exact Nat.lt_of_le_of_lt this (by decide)

theorem toLower_of_not_isUpper {c : Char} (h : c.isUpper = false) : c.toLower = c := by
  have hc : ¬(c.val ≥ 'A'.val ∧ c.val ≤ 'Z'.val) := of_decide_eq_false h
  exact dif_neg hc

theorem isUpper_toLower (c : Char) : c.toLower.isUpper = false := by
  cases h : c.isUpper with
  | false => rw [toLower_of_not_isUpper h, h]
  | true =>
    exact of_ascii (P := fun c => c.isUpper = true → c.toLower.isUpper = false) (by decide)
      (lt_of_isUpper h) h

/-- What does not depend on the letter case of ASCII characters does not depend on letter case. -/
theorem apply_toLower {α : Type} {f : Char → α} (h : ∀ n < 128, f (Char.ofNat n).toLower = f (Char.ofNat n))
    (c : Char) : f c.toLower = f c := by
  cases hu : c.isUpper with
  | false => rw [toLower_of_not_isUpper hu]
  | true => exact of_ascii (P := fun c => f c.toLower = f c) h (lt_of_isUpper hu)

theorem eq_of_toLower_eq {α : Type} {f : Char → α} (h : ∀ c : Char, f c.toLower = f c) {c d : Char}
    (hcd : c.toLower = d.toLower) : f c = f d := by
  rw [← h c, hcd, h]

theorem isAlphanum_toLower (c : Char) : c.toLower.isAlphanum = c.isAlphanum := apply_toLower (by decide) c

theorem toList_toLower (s : String) : s.toLower.toList = s.toList.map Char.toLower := by
  show (s.map Char.toLower).toList = _
  rw [String.toList_map]

theorem toLower_eq_iff {s t : String} :
    s.toLower = t.toLower ↔ s.toList.map Char.toLower = t.toList.map Char.toLower := by
  rw [← String.toList_inj, toList_toLower, toList_toLower]

theorem toLower_of_forall_not_isUpper {word : String} (h : ∀ c ∈ word.toList, c.isUpper = false) :
    word.toLower = word := by
  rw [← String.toList_inj, toList_toLower]
  exact (List.map_congr_left fun c hc => toLower_of_not_isUpper (h c hc)).trans (List.map_id _)

theorem toLower_of_all {word : String} (h : word.toList.all (!·.isUpper) = true) : word.toLower = word :=
  toLower_of_forall_not_isUpper fun c hc => by simpa using List.all_eq_true.1 h c hc

/-! ### White space -/

theorem exists_range_of_contains {s : CharSet} {c : Char} (h : s.contains c = true) :
    ∃ r ∈ s.ranges, r.1 ≤ c.toNat ∧ c.toNat ≤ r.2 := by
  have key : ∀ (rs : List (Nat × Nat)) (n : Nat), CharSet.contains.go rs n = true →
      ∃ r ∈ rs, r.1 ≤ n ∧ n ≤ r.2 := by
    intro rs n hn
    induction rs with
    | nil => simp [CharSet.contains.go] at hn
    | cons r rs ih =>
      obtain ⟨lo, hi⟩ := r
      rw [CharSet.contains.go] at hn
      split at hn
      · cases hn
      · next hlo =>
        rcases Bool.or_eq_true .. ▸ hn with hhi | hrs
        · exact ⟨(lo, hi), List.mem_cons_self, Nat.le_of_not_lt hlo, by simpa using hhi⟩
        · obtain ⟨r, hr, hb⟩ := ih hrs
          exact ⟨r, List.mem_cons_of_mem _ hr, hb⟩
  exact key s.ranges c.toNat h

/-- A property of all white space can be checked by going through it. -/
theorem of_isBlank {P : Char → Prop}
    (h : ∀ r ∈ blank.ranges, ∀ i ≤ r.2 - r.1, P (Char.ofNat (r.1 + i))) {c : Char}
    (hc : isBlank c = true) : P c := by
  obtain ⟨r, hr, hlo, hhi⟩ := exists_range_of_contains hc
  have hp := h r hr (c.toNat - r.1) (by omega)
  rwa [Nat.add_sub_cancel' hlo, Char.ofNat_toNat] at hp

theorem isAlphabetic_of_isBlank {c : Char} (h : isBlank c = true) : isAlphabetic c = false :=
  of_isBlank (P := fun c => isAlphabetic c = false) (by decide +kernel) h

theorem isDigit_of_isBlank {c : Char} (h : isBlank c = true) : c.isDigit = false :=
  of_isBlank (P := fun c => c.isDigit = false) (by decide) h

end InterceptAddons.Text
