import InterceptAddons.Proofs.Filter.Places
import InterceptAddons.Proofs.Text.Numeral

/-!
# Numbers in filter texts

`IsNumber text n`: the characters are a decimal, hexadecimal or binary number with the value `n`, whatever its size.
Main statement: `lex_number`, wherever a token starts with a digit or a minus sign it is the longest run of letters and
digits from there on, and it is read as its value if that fits into 64 bits and refused at its start if not.

The digits are added up before the sign and the bounds are looked at. How far they may be added up makes no difference
(`integerBelow?_eq`), as long as the least integer is within reach.
-/

namespace InterceptAddons.Filter

open InterceptAddons.Text

/-! ### Numbers -/

/-- The bases of numbers, each with the characters before its digits. -/
def bases : List (Nat × List Char) := [(10, []), (16, ['0', 'x']), (2, ['0', 'b'])]

/-- The characters are a number with the value `n`. -/
inductive IsNumber : List Char → Int → Prop
  | plain {base n : Nat} {mark digits : List Char} (hb : (base, mark) ∈ bases) (h : IsNumeral base digits n) :
    IsNumber (mark ++ digits) n
  | minus {base n : Nat} {mark digits : List Char} (hb : (base, mark) ∈ bases) (h : IsNumeral base digits n) :
    IsNumber ('-' :: (mark ++ digits)) (-n)

theorem IsNumber.of_decimal {digits : List Char} {n : Nat} (h : IsNumeral 10 digits n) : IsNumber digits n :=
  have hb : (10, []) ∈ bases := List.mem_cons_self
  .plain hb h

theorem magnitude?_of_isNumeral {cs : List Char} {n : Nat} (h : IsNumeral 10 cs n) : magnitude? cs = some n := by
  rw [magnitude?, numeralValue?_eq_some_iff (by decide)]
  · exact h
  -- the marks of the other bases hold letters
  · rintro cs' rfl
    exact h.notMem (c := 'x') (by decide) (by simp)
  · rintro cs' rfl
    exact h.notMem (c := 'b') (by decide) (by simp)

theorem magnitude?_eq_some_iff {cs : List Char} {n : Nat} : magnitude? cs = some n ↔
    ∃ base mark digits, (base, mark) ∈ bases ∧ cs = mark ++ digits ∧ IsNumeral base digits n := by
  constructor
  · intro h
    unfold magnitude? at h
    split at h
    · next cs => exact ⟨16, ['0', 'x'], cs, by decide, rfl, (numeralValue?_eq_some_iff (by decide)).1 h⟩
    · next cs => exact ⟨2, ['0', 'b'], cs, by decide, rfl, (numeralValue?_eq_some_iff (by decide)).1 h⟩
    · exact ⟨10, [], cs, by decide, rfl, (numeralValue?_eq_some_iff (by decide)).1 h⟩
  · rintro ⟨base, mark, digits, hb, rfl, h⟩
    simp only [bases, List.mem_cons, Prod.mk.injEq, List.not_mem_nil, or_false] at hb
    obtain ⟨rfl, rfl⟩ | ⟨rfl, rfl⟩ | ⟨rfl, rfl⟩ := hb
    · exact magnitude?_of_isNumeral h
    · exact (numeralValue?_eq_some_iff (by decide)).2 h
    · exact (numeralValue?_eq_some_iff (by decide)).2 h

/-- A number without a sign starts with a digit. -/
theorem magnitude?_minus (cs : List Char) : magnitude? ('-' :: cs) = none := by
  rw [magnitude?, numeralValue?]
  · exact digitsValue?_of_mem List.mem_cons_self (by decide) 0
  · exact List.cons_ne_nil _ _
  · rintro _ ⟨⟩
  · rintro _ ⟨⟩

theorem int64?_eq_some_iff {i : Int} {n : Int64} : int64? i = some n ↔ n.toInt = i := by
  rw [int64?]
  constructor
  · intro h
    split at h
    · next hi =>
      obtain rfl := Option.some.inj h
      exact Int64.toInt_ofInt_of_le hi.1 (by have : Int64.maxValue.toInt = 2 ^ 63 - 1 := rfl; omega)
    · cases h
  · rintro rfl
    rw [if_pos ⟨Int64.le_toInt n, Int64.toInt_le n⟩, Int64.ofInt_toInt]

/-- **A number is read as its value**, if that is an integer of 64 bits. -/
theorem integer?_eq_some_iff {cs : List Char} {n : Int64} : integer? cs = some n ↔ IsNumber cs n.toInt := by
  constructor
  · intro h
    unfold integer? at h
    split at h
    · next cs =>
      obtain ⟨m, hm, hn⟩ := Option.bind_eq_some_iff.1 h
      obtain ⟨base, mark, digits, hb, rfl, hdigits⟩ := magnitude?_eq_some_iff.1 hm
      rw [int64?_eq_some_iff.1 hn]
      exact .minus hb hdigits
    · obtain ⟨m, hm, hn⟩ := Option.bind_eq_some_iff.1 h
      obtain ⟨base, mark, digits, hb, rfl, hdigits⟩ := magnitude?_eq_some_iff.1 hm
      rw [int64?_eq_some_iff.1 hn]
      exact .plain hb hdigits
  · intro h
    generalize hi : n.toInt = i at h
    cases h with
    | @plain base m mark digits hb h =>
      have hm := magnitude?_eq_some_iff.2 ⟨base, mark, digits, hb, rfl, h⟩
      rw [integer?, hm]
      · exact int64?_eq_some_iff.2 hi
      · rintro cs hcs
        rw [hcs, magnitude?_minus] at hm
        cases hm
    | @minus base m mark digits hb h =>
      rw [integer?, magnitude?_eq_some_iff.2 ⟨base, mark, digits, hb, rfl, h⟩]
      exact int64?_eq_some_iff.2 hi

/-! ### How far digits are added up -/

/-- Continues the number `n` with further digits as long as it stays below a limit. -/
def digitsBelow? (limit base : Nat) : Nat → List Char → Option Nat
  | n, [] => some n
  | n, c :: cs =>
    match digitValue? base c with
    | some d => if base * n + d < limit then digitsBelow? limit base (base * n + d) cs else none
    | none => none

def numeralBelow? (limit base : Nat) : List Char → Option Nat
  | [] => none
  | cs => digitsBelow? limit base 0 cs

def magnitudeBelow? (limit : Nat) : List Char → Option Nat
  | '0' :: 'x' :: cs => numeralBelow? limit 16 cs
  | '0' :: 'b' :: cs => numeralBelow? limit 2 cs
  | cs => numeralBelow? limit 10 cs

/-- The integer that a number token denotes, with its digits added up below a limit. -/
def integerBelow? (limit : Nat) : List Char → Option Int64
  | '-' :: cs => (magnitudeBelow? limit cs).bind fun n => int64? (-n)
  | cs => (magnitudeBelow? limit cs).bind fun n => int64? n

theorem le_of_digitsValue? {base n m : Nat} (hb : 0 < base) {cs : List Char} (h : digitsValue? base n cs = some m) :
    n ≤ m := by
  induction cs generalizing n with
  | nil => exact Nat.le_of_eq (Option.some.inj h)
  | cons c cs ih =>
    rw [digitsValue?] at h
    split at h
    · next d hd =>
      calc n ≤ base * n := Nat.le_mul_of_pos_left n hb
        _ ≤ base * n + d := Nat.le_add_right ..
        _ ≤ m := ih h
    · cases h

section

variable {limit base : Nat} (hb : 0 < base)
include hb

theorem digitsBelow?_eq {n : Nat} (hn : n < limit) (cs : List Char) :
    digitsBelow? limit base n cs = (digitsValue? base n cs).filter (· < limit) := by
  induction cs generalizing n with
  | nil => simp [digitsBelow?, digitsValue?, Option.filter_some, hn]
  | cons c cs ih =>
    rw [digitsBelow?, digitsValue?]
    cases digitValue? base c with
    | none => rfl
    | some d =>
      by_cases hlt : base * n + d < limit
      · exact (if_pos hlt).trans (ih hlt)
      · -- what is too large already only grows
        refine (if_neg hlt).trans (Option.filter_eq_none_iff.2 fun m hm => ?_).symm
        have := le_of_digitsValue? hb hm
        simp
        omega

theorem numeralBelow?_eq (hl : 0 < limit) (cs : List Char) :
    numeralBelow? limit base cs = (numeralValue? base cs).filter (· < limit) := by
  cases cs with
  | nil => rfl
  | cons c cs => exact digitsBelow?_eq hb hl (c :: cs)

end

theorem magnitudeBelow?_eq {limit : Nat} (hl : 0 < limit) (cs : List Char) :
    magnitudeBelow? limit cs = (magnitude? cs).filter (· < limit) := by
  fun_cases magnitude? cs with
  | case1 cs => rw [magnitudeBelow?, numeralBelow?_eq (by decide) hl]
  | case2 cs => rw [magnitudeBelow?, numeralBelow?_eq (by decide) hl]
  | case3 cs hx hb => rw [magnitudeBelow?.eq_3 limit cs hx hb, numeralBelow?_eq (by decide) hl]

/-- **The limit makes no difference** if the least integer is within it. -/
theorem integerBelow?_eq {limit : Nat} (hl : 2 ^ 63 < limit) (cs : List Char) :
    integerBelow? limit cs = integer? cs := by
  have skip {f : Nat → Option Int64} (hf : ∀ n, limit ≤ n → f n = none) (x : Option Nat) :
      (x.filter (· < limit)).bind f = x.bind f := by
    cases x with
    | none => rfl
    | some n =>
      by_cases hn : n < limit
      · simp [Option.filter_some, hn]
      · simp [Option.filter_some, hn, hf n (Nat.le_of_not_lt hn)]
  have outside {i : Int} (hi : i < -2 ^ 63 ∨ 2 ^ 63 - 1 < i) : int64? i = none := by
    have hmin : Int64.minValue.toInt = -2 ^ 63 := rfl
    have hmax : Int64.maxValue.toInt = 2 ^ 63 - 1 := rfl
    rw [int64?, if_neg (by omega)]
  have hpos : 0 < limit := Nat.zero_lt_of_lt hl
  fun_cases integer? cs with
  | case1 cs => rw [integerBelow?, magnitudeBelow?_eq hpos, skip fun n hn => outside (.inl (by omega))]
  | case2 cs h =>
    rw [integerBelow?.eq_2 limit cs h, magnitudeBelow?_eq hpos, skip fun n hn => outside (.inr (by omega))]

/-! ### Numbers in texts -/

/-- Lexing keeps the tokens that it has read and goes on from every place that it comes to. -/
theorem Visits.exists_lex_eq {text : String} {pos : Nat} {cs : List Char} (hv : Visits text pos cs) :
    ∃ before, lex text = (lexFrom pos cs).map (before ++ ·) := by
  induction hv with
  | start => exact ⟨[], (map_of_id (fun _ => rfl) _).symm⟩
  | blank _ hc ih =>
    rw [lexFrom_of_isBlank hc] at ih
    exact ih
  | @token pos pos' c cs rest token _ hc hs ih =>
    obtain ⟨before, hbefore⟩ := ih
    refine ⟨before ++ [⟨token, pos⟩], ?_⟩
    rw [hbefore, lexFrom_of_scan hc hs, map_map]
    simp only [List.append_assoc, List.singleton_append]

section

variable {pos : Nat} {c : Char} {cs : List Char} (hc : c.isDigit ∨ c = '-')
include hc

theorem scan_of_isDigit : scan pos c cs =
    (integer? (c :: cs.takeWhile Char.isAlphanum)).elim
      (.error ⟨pos, .invalidNumber (String.ofList (c :: cs.takeWhile Char.isAlphanum))⟩)
      fun n => .ok (.int n, pos + byteSize (c :: cs.takeWhile Char.isAlphanum), cs.dropWhile Char.isAlphanum) := by
  obtain ⟨h₁, h₂, h₃, h₄⟩ := ne_of_isDigit hc
  rw [scan, if_neg h₁, if_neg h₂, if_neg h₃, if_neg (fun h => h₄ h.1), if_pos hc]
  dsimp only
  cases integer? (c :: cs.takeWhile Char.isAlphanum) <;> rfl

theorem scan_number {n : Int64} (hn : IsNumber (c :: cs.takeWhile Char.isAlphanum) n.toInt) : scan pos c cs =
    .ok (.int n, pos + byteSize (c :: cs.takeWhile Char.isAlphanum), cs.dropWhile Char.isAlphanum) := by
  rw [scan_of_isDigit hc, integer?_eq_some_iff.2 hn, Option.elim_some]

theorem scan_invalidNumber (hn : ∀ n : Int64, ¬ IsNumber (c :: cs.takeWhile Char.isAlphanum) n.toInt) :
    scan pos c cs = .error ⟨pos, .invalidNumber (String.ofList (c :: cs.takeWhile Char.isAlphanum))⟩ := by
  have hnone : integer? (c :: cs.takeWhile Char.isAlphanum) = none :=
    Option.eq_none_iff_forall_ne_some.2 fun n h => hn n (integer?_eq_some_iff.1 h)
  rw [scan_of_isDigit hc, hnone, Option.elim_none]

end

/-- An integer of 64 bits is an integer within their bounds. -/
theorem exists_toInt_eq_iff {i : Int} : (∃ n : Int64, n.toInt = i) ↔ -2 ^ 63 ≤ i ∧ i ≤ 2 ^ 63 - 1 := by
  have hmin : Int64.minValue.toInt = -2 ^ 63 := rfl
  have hmax : Int64.maxValue.toInt = 2 ^ 63 - 1 := rfl
  rw [← hmin, ← hmax]
  constructor
  · rintro ⟨n, rfl⟩
    exact ⟨Int64.le_toInt n, Int64.toInt_le n⟩
  · intro hi
    exact ⟨Int64.ofInt i, int64?_eq_some_iff.1 (if_pos hi)⟩

/-- **Numbers.** Wherever a token starts with a digit or a minus sign, let `run` be its longest part of letters and
digits behind the first character. Exactly if `run` is a number whose value is an integer of 64 bits, the token is this
value, with no value changed, and lexing goes on behind `run`. Otherwise the text is refused where the token starts. The
least integer can be written in each base. How far the digits are added up before the bounds are looked at makes no
difference. -/
theorem lex_number {text : String} {pos : Nat} {c : Char} {cs : List Char} (hv : Visits text pos (c :: cs))
    (hc : c.isDigit ∨ c = '-') :
    let run := c :: cs.takeWhile Char.isAlphanum
    let rest := cs.dropWhile Char.isAlphanum
    (∀ t, scan pos c cs = .ok t ↔ ∃ n : Int64, IsNumber run n.toInt ∧ t = (.int n, pos + byteSize run, rest)) ∧
    (∀ i, IsNumber run i → -2 ^ 63 ≤ i → i ≤ 2 ^ 63 - 1 → ∃ (n : Int64) (before : List Lexeme), n.toInt = i ∧
      lex text = (lexFrom (pos + byteSize run) rest).map (before ++ ⟨.int n, pos⟩ :: ·)) ∧
    ((¬ ∃ i, IsNumber run i ∧ -2 ^ 63 ≤ i ∧ i ≤ 2 ^ 63 - 1) →
      lex text = .error ⟨pos, .invalidNumber (String.ofList run)⟩) ∧
    (∀ base mark digits, (base, mark) ∈ bases → IsNumeral base digits (2 ^ 63) → run = '-' :: (mark ++ digits) →
      scan pos c cs = .ok (.int Int64.minValue, pos + byteSize run, rest)) ∧
    ∀ limit, 2 ^ 63 < limit → integerBelow? limit run = integer? run := by
  intro run rest
  have hb : isBlank c = false := not_isBlank_of_isDigit hc
  obtain ⟨before, hbefore⟩ := hv.exists_lex_eq
  refine ⟨fun t => ⟨fun h => ?_, ?_⟩, fun i hi hmin hmax => ?_, fun hno => ?_, ?_,
    fun limit hl => integerBelow?_eq hl run⟩
  · by_cases hn : ∃ n : Int64, IsNumber run n.toInt
    · obtain ⟨n, hn⟩ := hn
      exact ⟨n, hn, (Except.ok.inj ((scan_number hc hn).symm.trans h)).symm⟩
    · rw [scan_invalidNumber hc (not_exists.1 hn)] at h
      cases h
  · rintro ⟨n, hn, rfl⟩
    exact scan_number hc hn
  · obtain ⟨n, rfl⟩ := exists_toInt_eq_iff.2 ⟨hmin, hmax⟩
    refine ⟨n, before, rfl, ?_⟩
    rw [hbefore, lexFrom_of_scan hb (scan_number hc hi), map_map]
  · have hinvalid : scan pos c cs = .error ⟨pos, .invalidNumber (String.ofList run)⟩ :=
      scan_invalidNumber hc fun n hn => hno ⟨n.toInt, hn, exists_toInt_eq_iff.1 ⟨n, rfl⟩⟩
    rw [hbefore, lexFrom_of_scan_error hb hinvalid]
    rfl
  · intro base mark digits hbase hdigits hrun
    refine scan_number hc (show IsNumber run (-2 ^ 63) from ?_)
    rw [hrun]
    exact .minus hbase hdigits

/-- The least integer, and behind it the first one that is too large. -/
theorem lex_number_bounds :
    let text := "-0x8000000000000000 9223372036854775808"
    (∃ (n : Int64) (before : List Lexeme), n.toInt = -2 ^ 63 ∧
      lex text = (lexFrom 19 " 9223372036854775808".toList).map (before ++ ⟨.int n, 0⟩ :: ·)) ∧
    Visits text 20 "9223372036854775808".toList ∧
    lex text = .error ⟨20, .invalidNumber "9223372036854775808"⟩ := by
  intro text
  have htext : text.toList = '-' :: "0x8000000000000000 9223372036854775808".toList := by decide +kernel
  have hvalue : integer? "-0x8000000000000000".toList = some Int64.minValue := by decide +kernel
  have hlarge : integer? "9223372036854775808".toList = none := by decide +kernel
  have hleast : IsNumber "-0x8000000000000000".toList (-2 ^ 63) := integer?_eq_some_iff.1 hvalue
  have hstart : Visits text 0 ('-' :: "0x8000000000000000 9223372036854775808".toList) := htext ▸ .start
  have hblank : Visits text 19 (' ' :: "9223372036854775808".toList) :=
    hstart.token (by decide) (scan_number (n := Int64.minValue) (.inr rfl) hleast)
  have hsecond : Visits text 20 ('9' :: "223372036854775808".toList) := hblank.blank (by decide)
  refine ⟨(lex_number hstart (.inr rfl)).2.1 _ hleast (by decide) (by decide), hsecond, ?_⟩
  refine (lex_number hsecond (.inl (by decide))).2.2.1 ?_
  rintro ⟨i, hi, hbounds⟩
  obtain ⟨n, rfl⟩ := exists_toInt_eq_iff.2 hbounds
  have hsome : integer? "9223372036854775808".toList = some n := integer?_eq_some_iff.2 hi
  rw [hlarge] at hsome
  cases hsome

end InterceptAddons.Filter
