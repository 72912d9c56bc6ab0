import Mathlib.Data.Nat.Bitwise
import InterceptAddons.Pattern.Match

/-!
# What an expression matches

`Regex.Spans text r i j` says that some match of `r` begins at the place `i` of the text and ends at `j`. It
is the language of the expression, read off its syntax: nothing in it prefers one match to another. The
main statement is `Regex.testBit_ends`: the sets of places that are computed are those the relation
reaches, whichever shortcuts the repetitions take. So `Regex.matchesAll_iff` and `Regex.matchesPart_iff`
say of the two searches that they decide the relation.
-/

namespace InterceptAddons.Pattern

open InterceptAddons.Text

/-! ### The relation -/

/-- `k` steps of a relation, one after another. -/
def Times {α : Type} (R : α → α → Prop) : Nat → α → α → Prop
  | 0, x, y => x = y
  | k + 1, x, y => ∃ z, R x z ∧ Times R k z y

theorem times_add {α : Type} {R : α → α → Prop} (k l : Nat) (x y : α) :
    Times R (k + l) x y ↔ ∃ z, Times R k x z ∧ Times R l z y := by
  induction k generalizing x with
  | zero => simp [Times]
  | succ k ih =>
    rw [Nat.succ_add]
    constructor
    · rintro ⟨w, hxw, hwy⟩
      obtain ⟨z, hwz, hzy⟩ := (ih w).1 hwy
      exact ⟨z, ⟨w, hxw, hwz⟩, hzy⟩
    · rintro ⟨z, ⟨w, hxw, hwz⟩, hzy⟩
      exact ⟨w, hxw, (ih w).2 ⟨z, hwz, hzy⟩⟩

def before? (text : List Char) (i : Nat) : Option Char := if i = 0 then none else text[i - 1]?

/-- Some match of the expression begins at the place `i` of the text and ends at `j`. Where the bounds of a
repetition are out of order the lower one counts. -/
def Regex.Spans (text : List Char) : Regex → Nat → Nat → Prop
  | .empty, i, j => i = j
  | .set s, i, j => j = i + 1 ∧ ∃ c, text[i]? = some c ∧ s.contains c = true
  | .look l, i, j => i = j ∧ l.holds (before? text i) text[i]? = true
  | .cat a b, i, j => ∃ m, a.Spans text i m ∧ b.Spans text m j
  | .alt a b, i, j => a.Spans text i j ∨ b.Spans text i j
  | .rep r min max _, i, j =>
    ∃ k, min ≤ k ∧ (∀ m ∈ max, k ≤ Nat.max m min) ∧ Times (r.Spans text) k i j

/-- A relation that never leads backward, and from a place of a text of `n` characters only to places of
that text. -/
structure Forward (n : Nat) (R : Nat → Nat → Prop) : Prop where
  le : ∀ {i j}, R i j → i ≤ j
  le_length : ∀ {i j}, R i j → i ≤ n → j ≤ n

section Steps

variable {n : Nat} {R : Nat → Nat → Prop}

theorem Forward.times (h : Forward n R) (k : Nat) : Forward n (Times R k) := by
  induction k with
  | zero => exact ⟨fun hij => Nat.le_of_eq hij, fun hij hi => hij ▸ hi⟩
  | succ k ih =>
    constructor
    · rintro i j ⟨m, him, hmj⟩
      exact (h.le him).trans (ih.le hmj)
    · rintro i j ⟨m, him, hmj⟩ hi
      exact ih.le_length hmj (h.le_length him hi)

/-- Rounds that take no character can be left out, so no more rounds are needed than characters taken. -/
theorem Times.shorten (h : Forward n R) {k i j : Nat} (hk : Times R k i j) :
    ∃ l ≤ j - i, Times R l i j := by
  induction k generalizing i with
  | zero => exact ⟨0, Nat.zero_le _, hk⟩
  | succ k ih =>
    obtain ⟨m, him, hmj⟩ := hk
    obtain ⟨l, hl, hlj⟩ := ih hmj
    have hle := h.le him
    have hle' := (h.times l).le hlj
    by_cases hmi : m = i
    · subst hmi
      exact ⟨l, hl, hlj⟩
    · exact ⟨l + 1, by omega, m, him, hlj⟩

/-- Steps that may also stay are fewer steps. -/
theorem times_or_eq (k i j : Nat) :
    Times (fun i j => i = j ∨ R i j) k i j ↔ ∃ l ≤ k, Times R l i j := by
  induction k generalizing i with
  | zero => simp [Times]
  | succ k ih =>
    constructor
    · rintro ⟨m, rfl | him, hmj⟩
      · obtain ⟨l, hl, hlj⟩ := (ih i).1 hmj
        exact ⟨l, by omega, hlj⟩
      · obtain ⟨l, hl, hlj⟩ := (ih m).1 hmj
        exact ⟨l + 1, by omega, m, him, hlj⟩
    · rintro ⟨_ | l, hl, hlj⟩
      · exact ⟨i, .inl rfl, (ih i).2 ⟨0, Nat.zero_le _, hlj⟩⟩
      · obtain ⟨m, him, hmj⟩ := hlj
        exact ⟨m, .inr him, (ih m).2 ⟨l, by omega, hmj⟩⟩

end Steps

theorem Regex.spans_forward (text : List Char) (r : Regex) : Forward text.length (r.Spans text) := by
  induction r with
  | empty => exact ⟨fun h => Nat.le_of_eq h, fun h hi => h ▸ hi⟩
  | set s =>
    constructor
    · rintro i j ⟨rfl, -⟩
      exact Nat.le_succ i
    · rintro i j ⟨rfl, c, hc, -⟩ -
      exact (List.getElem?_eq_some_iff.1 hc).1
  | look l => exact ⟨fun h => Nat.le_of_eq h.1, fun h hi => h.1 ▸ hi⟩
  | cat a b iha ihb =>
    constructor
    · rintro i j ⟨m, ha, hb⟩
      exact (iha.le ha).trans (ihb.le hb)
    · rintro i j ⟨m, ha, hb⟩ hi
      exact ihb.le_length hb (iha.le_length ha hi)
  | alt a b iha ihb =>
    constructor
    · rintro i j (h | h)
      · exact iha.le h
      · exact ihb.le h
    · rintro i j (h | h) hi
      · exact iha.le_length h hi
      · exact ihb.le_length h hi
  | rep r min max greedy ih =>
    constructor
    · rintro i j ⟨k, -, -, hk⟩
      exact (ih.times k).le hk
    · rintro i j ⟨k, -, -, hk⟩ hi
      exact (ih.times k).le_length hk hi

namespace Regex

variable {text : List Char} {r : Regex} {min i j : Nat} {greedy : Bool}

/-- A bounded repetition is as many matches as it must be, then at most as many as are left. -/
theorem spans_rep_some {most : Nat} :
    (rep r min (some most) greedy).Spans text i j ↔
      ∃ m, Times (r.Spans text) min i m ∧ ∃ l ≤ most - min, Times (r.Spans text) l m j := by
  constructor
  · rintro ⟨k, hk, hmost, hij⟩
    obtain ⟨l, rfl⟩ := Nat.exists_eq_add_of_le hk
    obtain ⟨m, him, hmj⟩ := (times_add min l i j).1 hij
    have hl : min + l ≤ max most min := hmost most rfl
    exact ⟨m, him, l, by omega, hmj⟩
  · rintro ⟨m, him, l, hl, hmj⟩
    refine ⟨min + l, Nat.le_add_right min l, ?_, (times_add min l i j).2 ⟨m, him, hmj⟩⟩
    rintro _ ⟨⟩
    have : min + l ≤ max most min := by omega
    exact this

/-- An unbounded repetition is as many matches as it must be, then any number. -/
theorem spans_rep_none :
    (rep r min none greedy).Spans text i j ↔
      ∃ m, Times (r.Spans text) min i m ∧ ∃ l, Times (r.Spans text) l m j := by
  constructor
  · rintro ⟨k, hk, -, hij⟩
    obtain ⟨l, rfl⟩ := Nat.exists_eq_add_of_le hk
    obtain ⟨m, him, hmj⟩ := (times_add min l i j).1 hij
    exact ⟨m, him, l, hmj⟩
  · rintro ⟨m, him, l, hmj⟩
    exact ⟨min + l, Nat.le_add_right min l, nofun, (times_add min l i j).2 ⟨m, him, hmj⟩⟩

end Regex

/-! ### Sets of places -/

/-- A set of places of a text of `n` characters. -/
def Within (n S : Nat) : Prop := ∀ i, S.testBit i = true → i ≤ n

theorem testBit_allPlaces (text : List Char) (i : Nat) :
    (allPlaces text).testBit i = decide (i ≤ text.length) := by
  rw [allPlaces, Nat.one_shiftLeft, Nat.testBit_two_pow_sub_one]
  exact decide_eq_decide.2 Nat.lt_succ_iff

theorem testBit_zero_toNat_add (b : Bool) (x : Nat) : (b.toNat + 2 * x).testBit 0 = b := by
  cases b <;> simp [Nat.testBit_zero]

theorem testBit_succ_toNat_add (b : Bool) (x i : Nat) :
    (b.toNat + 2 * x).testBit (i + 1) = x.testBit i := by
  rw [Nat.testBit_succ]
  cases b
  · simp
  · simp only [Bool.toNat_true]
    rw [show (1 + 2 * x) / 2 = x by omega]

theorem testBit_setPlaces (s : CharSet) (text : List Char) (i : Nat) :
    (setPlaces s text).testBit i = text[i]?.any s.contains := by
  induction text generalizing i with
  | nil => simp [setPlaces]
  | cons c cs ih =>
    cases i with
    | zero =>
      rw [setPlaces, testBit_zero_toNat_add]
      rfl
    | succ i =>
      rw [setPlaces, testBit_succ_toNat_add, ih]
      rfl

/-- In a text that follows the character `prev` a test holds at a place of the text, between the characters
at either side. -/
theorem testBit_lookPlaces (l : Look) (prev : Option Char) (text : List Char) (i : Nat) :
    (lookPlaces l prev text).testBit i =
      (decide (i ≤ text.length) && l.holds (if i = 0 then prev else text[i - 1]?) text[i]?) := by
  induction text generalizing i prev with
  | nil =>
    cases i with
    | zero => cases h : l.holds prev none <;> simp [lookPlaces, h]
    | succ i => cases h : l.holds prev none <;> simp [lookPlaces, h, Nat.testBit_succ]
  | cons c cs ih =>
    cases i with
    | zero =>
      rw [lookPlaces, testBit_zero_toNat_add]
      rfl
    | succ i =>
      rw [lookPlaces, testBit_succ_toNat_add, ih]
      cases i <;> simp

/-! ### Moving sets of places -/

/-- A map of sets of places that sends each set to the places a relation leads to from it. -/
structure Moves (n : Nat) (f : Nat → Nat) (R : Nat → Nat → Prop) : Prop where
  forward : Forward n R
  testBit : ∀ {S}, Within n S → ∀ j, (f S).testBit j = true ↔ ∃ i, S.testBit i = true ∧ R i j

namespace Moves

variable {n : Nat} {f g : Nat → Nat} {R Q : Nat → Nat → Prop}

theorem within (h : Moves n f R) {S : Nat} (hS : Within n S) : Within n (f S) := by
  intro j hj
  obtain ⟨i, hi, hij⟩ := (h.testBit hS j).1 hj
  exact h.forward.le_length hij (hS i hi)

/-- One map after another follows one relation after the other. -/
theorem comp (h : Moves n f R) (h' : Moves n g Q) :
    Moves n (fun S => g (f S)) (fun i j => ∃ m, R i m ∧ Q m j) := by
  refine ⟨⟨?_, ?_⟩, ?_⟩
  · rintro i j ⟨m, him, hmj⟩
    exact (h.forward.le him).trans (h'.forward.le hmj)
  · rintro i j ⟨m, him, hmj⟩ hi
    exact h'.forward.le_length hmj (h.forward.le_length him hi)
  · intro S hS j
    rw [h'.testBit (h.within hS)]
    constructor
    · rintro ⟨m, hm, hmj⟩
      obtain ⟨i, hi, him⟩ := (h.testBit hS m).1 hm
      exact ⟨i, hi, m, him, hmj⟩
    · rintro ⟨i, hi, m, him, hmj⟩
      exact ⟨m, (h.testBit hS m).2 ⟨i, hi, him⟩, hmj⟩

/-- Two maps side by side follow either relation. -/
theorem or (h : Moves n f R) (h' : Moves n g Q) :
    Moves n (fun S => f S ||| g S) (fun i j => R i j ∨ Q i j) := by
  refine ⟨⟨?_, ?_⟩, ?_⟩
  · rintro i j (hij | hij)
    · exact h.forward.le hij
    · exact h'.forward.le hij
  · rintro i j (hij | hij) hi
    · exact h.forward.le_length hij hi
    · exact h'.forward.le_length hij hi
  · intro S hS j
    rw [Nat.testBit_or, Bool.or_eq_true, h.testBit hS, h'.testBit hS]
    simp only [and_or_left, exists_or]

theorem refl (n : Nat) : Moves n (fun S => S) Eq :=
  ⟨⟨fun h => Nat.le_of_eq h, fun h hi => h ▸ hi⟩, fun _ j => by simp⟩

theorem congr (h : Moves n f R) (hR : ∀ i j, i ≤ n → (R i j ↔ Q i j)) (hQ : Forward n Q) :
    Moves n f Q := by
  refine ⟨hQ, fun {S} hS j => ?_⟩
  rw [h.testBit hS]
  constructor
  · rintro ⟨i, hi, hij⟩
    exact ⟨i, hi, (hR i j (hS i hi)).1 hij⟩
  · rintro ⟨i, hi, hij⟩
    exact ⟨i, hi, (hR i j (hS i hi)).2 hij⟩

/-- Steps cut short where one changes nothing are still all the steps. -/
theorem exactly_eq_iterate (f : Nat → Nat) (k S : Nat) : exactly f k S = f^[k] S := by
  induction k generalizing S with
  | zero => rfl
  | succ k ih =>
    rw [exactly, Function.iterate_succ_apply, ih]
    split
    · next hS => rw [hS, Function.iterate_fixed hS]
    · rfl

theorem iterate (h : Moves n f R) (k : Nat) : Moves n (f^[k]) (Times R k) := by
  induction k with
  | zero => exact refl n
  | succ k ih => exact h.comp ih

theorem exactly (h : Moves n f R) (k : Nat) : Moves n (exactly f k) (Times R k) := by
  rw [funext (exactly_eq_iterate f k)]
  exact h.iterate k

theorem upTo_eq_exactly (f : Nat → Nat) (k S : Nat) :
    upTo f k S = Pattern.exactly (fun S => S ||| f S) k S := by
  induction k generalizing S with
  | zero => rfl
  | succ k ih => simp only [upTo, Pattern.exactly, ih]

theorem upTo (h : Moves n f R) (k : Nat) : Moves n (upTo f k) (fun i j => ∃ l ≤ k, Times R l i j) := by
  rw [funext (upTo_eq_exactly f k)]
  have hsteps := ((refl n).or h).exactly k
  refine hsteps.congr (fun i j _ => times_or_eq k i j) ⟨?_, ?_⟩
  · rintro i j ⟨l, -, hl⟩
    exact (h.forward.times l).le hl
  · rintro i j ⟨l, -, hl⟩ hi
    exact (h.forward.times l).le_length hl hi

end Moves

/-! ### Running the plan of an expression -/

variable (text : List Char)

theorem moves_stay {R : Nat → Nat → Prop} {places : Nat}
    (h : ∀ i j, i ≤ text.length → (R i j ↔ i = j ∧ places.testBit i = true))
    (hR : Forward text.length R) : Moves text.length (fun S => S &&& places) R := by
  refine ⟨hR, fun {S} hS j => ?_⟩
  rw [Nat.testBit_and, Bool.and_eq_true]
  constructor
  · rintro ⟨hj, hp⟩
    exact ⟨j, hj, (h j j (hS j hj)).2 ⟨rfl, hp⟩⟩
  · rintro ⟨i, hi, hij⟩
    obtain ⟨rfl, hp⟩ := (h i j (hS i hi)).1 hij
    exact ⟨hi, hp⟩

theorem moves_advance (s : CharSet) :
    Moves text.length (fun S => (S &&& setPlaces s text) <<< 1) ((Regex.set s).Spans text) := by
  refine ⟨(Regex.set s).spans_forward text, fun {S} hS j => ?_⟩
  have hset (i : Nat) : (setPlaces s text).testBit i = true ↔
      ∃ c, text[i]? = some c ∧ s.contains c = true := by
    rw [testBit_setPlaces, Option.any_eq_true]
  rw [Nat.testBit_shiftLeft, Bool.and_eq_true, decide_eq_true_iff, Nat.testBit_and, Bool.and_eq_true, hset]
  constructor
  · rintro ⟨hj, hi, hc⟩
    exact ⟨j - 1, hi, by omega, hc⟩
  · rintro ⟨i, hi, rfl, hc⟩
    exact ⟨Nat.le_add_left 1 i, hi, hc⟩

/-- **Running a plan** leads from a set of places to all the places where a match ends that begins at one of
them, and to no others. -/
theorem Plan.moves (r : Regex) :
    Moves text.length ((Plan.of text r).run text.length) (r.Spans text) := by
  induction r with
  | empty =>
    refine moves_stay text (fun i j hi => ?_) (Regex.empty.spans_forward text)
    rw [testBit_allPlaces]
    simp [Regex.Spans, hi]
  | set s => exact moves_advance text s
  | look l =>
    refine moves_stay text (fun i j hi => ?_) ((Regex.look l).spans_forward text)
    rw [testBit_lookPlaces]
    simp [Regex.Spans, before?, hi]
  | cat a b iha ihb => exact iha.comp ihb
  | alt a b iha ihb => exact iha.or ihb
  | rep r min max greedy ih =>
    refine ((ih.exactly min).comp (ih.upTo _)).congr (fun i j hi => ?_)
      ((Regex.rep r min max greedy).spans_forward text)
    cases max with
    | some most => exact Regex.spans_rep_some.symm
    | none =>
      rw [Regex.spans_rep_none]
      constructor
      · rintro ⟨m, him, l, -, hmj⟩
        exact ⟨m, him, l, hmj⟩
      · rintro ⟨m, him, l, hmj⟩
        have hm := ((r.spans_forward text).times min).le_length him hi
        have hj := ((r.spans_forward text).times l).le_length hmj hm
        obtain ⟨l', hl', hmj'⟩ := hmj.shorten (r.spans_forward text)
        exact ⟨m, him, l', le_trans hl' (le_trans (Nat.sub_le j m) hj), hmj'⟩

namespace Regex

/-- **The places where a match may end** are those that the relation leads to. -/
theorem testBit_ends (r : Regex) {S : Nat} (hS : Within text.length S) (j : Nat) :
    (r.ends text S).testBit j = true ↔ ∃ i, S.testBit i = true ∧ r.Spans text i j :=
  (Plan.moves text r).testBit hS j

/-- **An expression is found to match a text from end to end** exactly when some match of it spans the text. -/
theorem matchesAll_iff (r : Regex) : r.matchesAll text = true ↔ r.Spans text 0 text.length := by
  have hfirst (i : Nat) : Nat.testBit 1 i = true ↔ i = 0 := Nat.testBit_one_eq_true_iff_self_eq_zero
  have hS : Within text.length 1 := fun i hi => by rw [(hfirst i).1 hi]; exact Nat.zero_le _
  rw [matchesAll, testBit_ends text r hS]
  simp only [hfirst, exists_eq_left]

/-- **An expression is found in a text** exactly when some match of it lies in the text. -/
theorem matchesPart_iff (r : Regex) :
    r.matchesPart text = true ↔ ∃ i ≤ text.length, ∃ j, r.Spans text i j := by
  have hall (i : Nat) : (allPlaces text).testBit i = true ↔ i ≤ text.length := by
    rw [testBit_allPlaces, decide_eq_true_iff]
  have hbit (x : Nat) : x ≠ 0 ↔ ∃ j, x.testBit j = true := by
    constructor
    · intro hx
      obtain ⟨j, hj, -⟩ := Nat.exists_most_significant_bit hx
      exact ⟨j, hj⟩
    · rintro ⟨j, hj⟩ rfl
      rw [Nat.zero_testBit] at hj
      exact absurd hj Bool.false_ne_true
  rw [matchesPart, bne_iff_ne, hbit]
  simp only [testBit_ends text r fun i hi => (hall i).1 hi, hall]
  constructor
  · rintro ⟨j, i, hi, hij⟩
    exact ⟨i, hi, j, hij⟩
  · rintro ⟨i, hi, j, hij⟩
    exact ⟨j, i, hi, hij⟩

end Regex

end InterceptAddons.Pattern
