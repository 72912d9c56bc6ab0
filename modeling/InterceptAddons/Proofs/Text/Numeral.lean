import InterceptAddons.Proofs.Text.Characters
import InterceptAddons.Text.Numeral
import Mathlib.Data.Nat.Digits.Defs

/-!
# Numerals

`IsNumeral base cs n`: the characters are digits of a base, and `n` is their value by the powers of the base. Numerals
are read exactly so (`numeralValue?_eq_some_iff`), also where their values have a bound. The decimal digits of a number
have that number as their value.
-/

namespace InterceptAddons.Text

/-! ### Digits of a base -/

theorem lt_of_hexValue? {c : Char} {d : Nat} (h : hexValue? c = some d) : c.toNat < 128 := by
  unfold hexValue? at h
  split at h
  · next hd => exact Nat.lt_of_le_of_lt (Char.le_def.1 hd.2) (by decide)
  split at h
  · next hd => exact Nat.lt_of_le_of_lt (Char.le_def.1 hd.2) (by decide)
  split at h
  · next hd => exact Nat.lt_of_le_of_lt (Char.le_def.1 hd.2) (by decide)
  · cases h

theorem hexValue?_eq_some_iff {c : Char} {d : Nat} :
    hexValue? c = some d ↔ d < 16 ∧ c.toLower = Nat.digitChar d := by
  constructor
  · intro h
    have key : ∀ n < 128, ∀ d ∈ hexValue? (Char.ofNat n), d < 16 ∧ (Char.ofNat n).toLower = Nat.digitChar d := by
      decide
    exact of_ascii (P := fun c => ∀ d ∈ hexValue? c, d < 16 ∧ c.toLower = Nat.digitChar d) key
      (lt_of_hexValue? h) d h
  · rintro ⟨hd, hc⟩
    have hdigit : ∀ d < 16, hexValue? (Nat.digitChar d) = some d := by decide
    rw [← apply_toLower (f := hexValue?) (by decide), hc, hdigit d hd]

section

variable {base : Nat} (hb : base ≤ 16)
include hb

theorem digitValue?_eq_some_iff {c : Char} {d : Nat} :
    digitValue? base c = some d ↔ d < base ∧ c.toLower = Nat.digitChar d := by
  unfold digitValue?
  constructor
  · intro h
    split at h
    · next d' hd' =>
      split at h
      · next hlt =>
        obtain rfl := Option.some.inj h
        exact ⟨hlt, (hexValue?_eq_some_iff.1 hd').2⟩
      · cases h
    · cases h
  · rintro ⟨hlt, hc⟩
    rw [hexValue?_eq_some_iff.2 ⟨Nat.lt_of_lt_of_le hlt hb, hc⟩]
    exact if_pos hlt

theorem digitsValue?_eq_some_iff {cs : List Char} {n m : Nat} :
    digitsValue? base n cs = some m ↔ ∃ ds : List Nat, (∀ d ∈ ds, d < base) ∧
      cs.map Char.toLower = ds.map Nat.digitChar ∧ m = ds.foldl (fun n d => base * n + d) n := by
  induction cs generalizing n with
  | nil =>
    rw [digitsValue?]
    constructor
    · intro h
      exact ⟨[], List.forall_mem_nil _, rfl, (Option.some.inj h).symm⟩
    · rintro ⟨ds, -, hmap, rfl⟩
      obtain rfl : ds = [] := List.map_eq_nil_iff.1 hmap.symm
      rfl
  | cons c cs ih =>
    rw [digitsValue?]
    constructor
    · intro h
      split at h
      · next d hd =>
        obtain ⟨hlt, hc⟩ := (digitValue?_eq_some_iff hb).1 hd
        obtain ⟨ds, hds, hmap, hm⟩ := ih.1 h
        exact ⟨d :: ds, List.forall_mem_cons.2 ⟨hlt, hds⟩, by rw [List.map_cons, List.map_cons, hc, hmap], hm⟩
      · cases h
    · rintro ⟨ds, hds, hmap, hm⟩
      cases ds with
      | nil => cases hmap
      | cons d ds =>
        obtain ⟨hc, hmap⟩ := List.cons.inj hmap
        obtain ⟨hlt, hds⟩ := List.forall_mem_cons.1 hds
        rw [(digitValue?_eq_some_iff hb).2 ⟨hlt, hc⟩]
        exact ih.2 ⟨ds, hds, hmap, hm⟩

end

/-- The characters are a numeral with the value `n`: at least one digit of the base, in any letter case. -/
def IsNumeral (base : Nat) (cs : List Char) (n : Nat) : Prop :=
  ∃ ds : List Nat, ds ≠ [] ∧ (∀ d ∈ ds, d < base) ∧ cs.map Char.toLower = ds.map Nat.digitChar ∧
    n = Nat.ofDigits base ds.reverse

theorem ofDigits_reverse (base : Nat) (ds : List Nat) :
    Nat.ofDigits base ds.reverse = ds.foldl (fun n d => base * n + d) 0 := by
  rw [Nat.ofDigits_eq_foldr, List.foldr_reverse]
  simp only [Nat.cast_id, Nat.add_comm]

/-- A character that is no digit of the base stands in no numeral. -/
theorem IsNumeral.notMem {base n : Nat} {cs : List Char} (h : IsNumeral base cs n) {c : Char}
    (hc : ∀ d < base, c.toLower ≠ Nat.digitChar d) : c ∉ cs := fun hmem => by
  obtain ⟨ds, -, hds, hmap, -⟩ := h
  have hlower : c.toLower ∈ ds.map Nat.digitChar := hmap ▸ List.mem_map_of_mem hmem
  obtain ⟨d, hd, heq⟩ := List.mem_map.1 hlower
  exact hc d (hds d hd) heq.symm

/-- **Numerals are read with their values.** -/
theorem numeralValue?_eq_some_iff {base n : Nat} (hb : base ≤ 16) {cs : List Char} :
    numeralValue? base cs = some n ↔ IsNumeral base cs n := by
  unfold IsNumeral
  simp only [ofDigits_reverse]
  cases cs with
  | nil =>
    refine iff_of_false (fun h => by cases h) ?_
    rintro ⟨ds, hne, -, hmap, -⟩
    exact hne (List.map_eq_nil_iff.1 hmap.symm)
  | cons c cs =>
    rw [numeralValue?, digitsValue?_eq_some_iff hb]
    · refine exists_congr fun ds => (and_iff_right_of_imp ?_).symm
      rintro ⟨-, hmap, -⟩ rfl
      cases hmap
    · exact List.cons_ne_nil c cs

/-! ### Decimal digits of a number -/

theorem digitValue?_of_isDigit {c : Char} (h : c.isDigit = true) :
    digitValue? 10 c = some (c.toNat - '0'.toNat) :=
  of_ascii (P := fun c => c.isDigit = true → digitValue? 10 c = some (c.toNat - '0'.toNat)) (by decide)
    (lt_of_isDigit h) h

theorem digitsValue?_of_isDigit {cs : List Char} (h : ∀ c ∈ cs, c.isDigit = true) (n : Nat) :
    digitsValue? 10 n cs = some (Nat.ofDigitChars 10 cs n) := by
  induction cs generalizing n with
  | nil => simp [digitsValue?]
  | cons c cs ih =>
    rw [digitsValue?, digitValue?_of_isDigit (h c List.mem_cons_self), Nat.ofDigitChars_cons]
    exact ih (fun c hc => h c (List.mem_cons_of_mem _ hc)) _

theorem isDigit_of_mem_toDigits {n : Nat} {c : Char} (h : c ∈ Nat.toDigits 10 n) : c.isDigit = true :=
  Nat.isDigit_of_mem_toDigits (by decide) (by decide) h

theorem numeralValue?_toDigits (n : Nat) : numeralValue? 10 (Nat.toDigits 10 n) = some n := by
  cases hd : Nat.toDigits 10 n with
  | nil => exact absurd hd Nat.toDigits_ne_nil
  | cons c cs =>
    rw [numeralValue?, ← hd, digitsValue?_of_isDigit fun c => isDigit_of_mem_toDigits,
      Nat.ofDigitChars_ten_toDigits]
    simp

theorem isNumeral_toDigits (n : Nat) : IsNumeral 10 (Nat.toDigits 10 n) n :=
  (numeralValue?_eq_some_iff (by decide)).1 (numeralValue?_toDigits n)

/-! ### Numbers with a bound -/

theorem digitsValue?_of_mem {base : Nat} {c : Char} {cs : List Char} (hc : c ∈ cs) (hd : digitValue? base c = none)
    (n : Nat) : digitsValue? base n cs = none := by
  induction cs generalizing n with
  | nil => cases hc
  | cons d cs ih =>
    rw [digitsValue?]
    rcases List.mem_cons.1 hc with rfl | hc
    · rw [hd]
    · split
      · exact ih hc _
      · rfl

theorem unsigned?_plus (limit : Nat) (cs : List Char) :
    unsigned? limit ('+' :: cs) = (numeralValue? 10 cs).filter (· < limit) := by
  rw [unsigned?]
  cases numeralValue? 10 cs <;> simp [Option.filter_some]

theorem unsigned?_of_ne_plus (limit : Nat) {cs : List Char} (h : ∀ rest, cs ≠ '+' :: rest) :
    unsigned? limit cs = (numeralValue? 10 cs).filter (· < limit) := by
  rw [unsigned?]
  · cases numeralValue? 10 cs <;> simp [Option.filter_some]
  · exact h

/-- A text with a character that is neither a digit nor a sign is no number. -/
theorem unsigned?_of_mem {limit : Nat} {c : Char} {cs : List Char} (hc : c ∈ cs) (hne : c ≠ '+')
    (hd : digitValue? 10 c = none) : unsigned? limit cs = none := by
  have hnumeral {ds : List Char} (hc : c ∈ ds) : numeralValue? 10 ds = none := by
    cases ds with
    | nil => rfl
    | cons d ds => exact digitsValue?_of_mem hc hd 0
  by_cases hsign : ∃ rest, cs = '+' :: rest
  · obtain ⟨rest, rfl⟩ := hsign
    rw [unsigned?_plus, hnumeral ((List.mem_cons.1 hc).resolve_left hne), Option.filter_none]
  · rw [unsigned?_of_ne_plus limit (not_exists.1 hsign), hnumeral hc, Option.filter_none]

theorem unsigned?_eq_some_iff {limit n : Nat} {cs : List Char} : unsigned? limit cs = some n ↔
    n < limit ∧ ∃ digits, IsNumeral 10 digits n ∧ (cs = digits ∨ cs = '+' :: digits) := by
  have below (digits : List Char) :
      (numeralValue? 10 digits).filter (· < limit) = some n ↔ n < limit ∧ IsNumeral 10 digits n := by
    rw [Option.filter_eq_some_iff, numeralValue?_eq_some_iff (by decide), decide_eq_true_iff, and_comm]
  by_cases hsign : ∃ rest, cs = '+' :: rest
  · obtain ⟨rest, rfl⟩ := hsign
    have hplus : ¬ IsNumeral 10 ('+' :: rest) n := fun h => h.notMem (by decide) List.mem_cons_self
    rw [unsigned?_plus, below]
    refine and_congr_right fun _ => ⟨fun h => ⟨rest, h, .inr rfl⟩, ?_⟩
    rintro ⟨digits, h, rfl | heq⟩
    · exact absurd h hplus
    · exact (List.cons.inj heq).2 ▸ h
  · rw [unsigned?_of_ne_plus limit (not_exists.1 hsign), below]
    refine and_congr_right fun _ => ⟨fun h => ⟨cs, h, .inl rfl⟩, ?_⟩
    rintro ⟨digits, h, rfl | rfl⟩
    · exact h
    · exact absurd ⟨digits, rfl⟩ hsign

theorem unsigned?_lt {limit n : Nat} {cs : List Char} (h : unsigned? limit cs = some n) : n < limit :=
  (unsigned?_eq_some_iff.1 h).1

theorem unsigned?_toDigits {limit n : Nat} (h : n < limit) : unsigned? limit (Nat.toDigits 10 n) = some n :=
  unsigned?_eq_some_iff.2 ⟨h, _, isNumeral_toDigits n, .inl rfl⟩

end InterceptAddons.Text
