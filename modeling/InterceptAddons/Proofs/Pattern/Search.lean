import InterceptAddons.Proofs.Pattern.Fragments

/-!
# Searching depth first

The search enters no pair of a step and a place twice, and so is short of some runs of the program; it
finds an end where there is one all the same. What has been entered leads only to what has been entered or
waits on the stack (`Explored`), and every pair that is entered takes one from those left
(`search_eq_none`). With what a program leads to, `Regex.preferredEnd?_spans` says that the preferred match
is a match and `Regex.preferredEnd?_eq_none_iff` that there is one where there is any match at all.
-/

namespace InterceptAddons.Pattern

open InterceptAddons.Text

variable (text : List Char)

/-! ### One step of a search -/

def pairKey (x : Nat × Nat) : Nat := x.1 * (text.length + 1) + x.2

def Entered (seen : Array Bool) (x : Nat × Nat) : Prop := seen.getD (pairKey text x) false = true

def enter (seen : Array Bool) (x : Nat × Nat) : Array Bool := seen.setIfInBounds (pairKey text x) true

variable {text} {P : Array Step} {seen : Array Bool} {x : Nat × Nat} {stack : List (Nat × Nat)} {fuel : Nat}

theorem search_of_entered (h : Entered text seen x) :
    search P text.toArray (fuel + 1) seen (x :: stack) = search P text.toArray fuel seen stack := by
  rw [Entered, pairKey] at h
  simp only [search, List.size_toArray, h, if_true]

theorem search_of_end (h : ¬ Entered text seen x) (hend : P[x.1]? = none) :
    search P text.toArray (fuel + 1) seen (x :: stack) = some x.2 := by
  rw [Entered, pairKey] at h
  simp only [search, List.size_toArray, h, Bool.false_eq_true, if_false, hend]

theorem search_of_step (h : ¬ Entered text seen x) {s : Step} (hs : P[x.1]? = some s) :
    search P text.toArray (fuel + 1) seen (x :: stack) =
      search P text.toArray fuel (enter text seen x) (s.next text x.1 x.2 ++ stack) := by
  rw [Entered, pairKey] at h
  cases s with
  | set s =>
    simp only [search, List.size_toArray, h, Bool.false_eq_true, if_false, hs, enter, pairKey, Step.next,
      List.getElem?_toArray]
    split <;> rfl
  | look l =>
    have hbefore : (if x.2 = 0 then none else text[x.2 - 1]?) = before? text x.2 := rfl
    simp only [search, List.size_toArray, h, Bool.false_eq_true, if_false, hs, enter, pairKey, Step.next,
      List.getElem?_toArray, hbefore]
    split <;> rfl
  | split a b =>
    simp only [search, List.size_toArray, h, Bool.false_eq_true, if_false, hs, enter, pairKey, Step.next]
    rfl
  | jump a =>
    simp only [search, List.size_toArray, h, Bool.false_eq_true, if_false, hs, enter, pairKey, Step.next]
    rfl

/-- What a search answers is where some run of the program ends. -/
theorem exists_of_search {j : Nat} (h : search P text.toArray fuel seen stack = some j) :
    ∃ x ∈ stack, ∃ k pc, Times (Leads text P) k x (pc, j) ∧ P[pc]? = none := by
  induction fuel generalizing seen stack with
  | zero => exact absurd h nofun
  | succ fuel ih =>
    cases stack with
    | nil => exact absurd h nofun
    | cons x stack =>
      by_cases hseen : Entered text seen x
      · rw [search_of_entered hseen] at h
        obtain ⟨y, hy, hrun⟩ := ih h
        exact ⟨y, List.mem_cons_of_mem x hy, hrun⟩
      · cases hs : P[x.1]? with
        | none =>
          rw [search_of_end hseen hs] at h
          obtain rfl := Option.some.inj h
          exact ⟨x, List.mem_cons_self, 0, x.1, rfl, hs⟩
        | some s =>
          rw [search_of_step hseen hs] at h
          obtain ⟨y, hy, k, pc, hrun, hend⟩ := ih h
          rcases List.mem_append.1 hy with hy | hy
          · exact ⟨x, List.mem_cons_self, k + 1, pc, ⟨y, ⟨s, hs, hy⟩, hrun⟩, hend⟩
          · exact ⟨y, List.mem_cons_of_mem x hy, k, pc, hrun, hend⟩

/-! ### Nothing is missed -/

theorem le_length_of_mem_next {s : Step} {y : Nat × Nat} (hx : x.2 ≤ text.length)
    (hy : y ∈ s.next text x.1 x.2) : y.2 ≤ text.length := by
  cases s with
  | set s =>
    obtain ⟨hc, hy⟩ := List.mem_ite_nil_right.1 hy
    obtain ⟨c, hc, -⟩ := (Option.any_eq_true ..).1 hc
    obtain rfl := List.mem_singleton.1 hy
    exact (List.getElem?_eq_some_iff.1 hc).1
  | look l =>
    obtain ⟨-, hy⟩ := List.mem_ite_nil_right.1 hy
    obtain rfl := List.mem_singleton.1 hy
    exact hx
  | split a b =>
    simp only [Step.next, List.mem_cons, List.not_mem_nil, or_false] at hy
    rcases hy with rfl | rfl <;> exact hx
  | jump a =>
    obtain rfl := List.mem_singleton.1 hy
    exact hx

theorem next_length_le (s : Step) (pc i : Nat) : (s.next text pc i).length ≤ 2 := by
  cases s <;> simp only [Step.next]
  case set => split <;> simp
  case look => split <;> simp
  case split => simp
  case jump => simp

theorem pairKey_inj {y : Nat × Nat} (hx : x.2 ≤ text.length) (hy : y.2 ≤ text.length)
    (h : pairKey text x = pairKey text y) : x = y := by
  have hdiv (z : Nat × Nat) (hz : z.2 ≤ text.length) : pairKey text z / (text.length + 1) = z.1 := by
    rw [pairKey, Nat.mul_comm, Nat.mul_add_div (Nat.succ_pos _), Nat.div_eq_of_lt (Nat.lt_succ_of_le hz),
      Nat.add_zero]
  have hfst : x.1 = y.1 := by rw [← hdiv x hx, ← hdiv y hy, h]
  refine Prod.ext hfst ?_
  rw [pairKey, pairKey, hfst] at h
  omega

theorem pairKey_lt (hx : x.1 < P.size) (hx' : x.2 ≤ text.length) :
    pairKey text x < (P.size + 1) * (text.length + 1) := by
  have hle : (x.1 + 1) * (text.length + 1) ≤ (P.size + 1) * (text.length + 1) :=
    Nat.mul_le_mul_right _ (by omega)
  rw [Nat.succ_mul] at hle
  rw [pairKey]
  omega

/-- Where a search stands: no place lies outside of the text, and a pair that has been entered is a step that
leads only to pairs that have been entered or wait. -/
structure Explored (text : List Char) (P : Array Step) (seen : Array Bool) (stack : List (Nat × Nat)) :
    Prop where
  le_length : ∀ x ∈ stack, x.2 ≤ text.length
  size_eq : seen.size = (P.size + 1) * (text.length + 1)
  closed : ∀ x : Nat × Nat, x.2 ≤ text.length → Entered text seen x →
    ∃ s, P[x.1]? = some s ∧ ∀ y ∈ s.next text x.1 x.2, Entered text seen y ∨ y ∈ stack

namespace Explored

theorem tail (h : Explored text P seen (x :: stack)) (hx : Entered text seen x) : Explored text P seen stack := by
  refine ⟨fun y hy => h.le_length y (List.mem_cons_of_mem x hy), h.size_eq, fun y hy hseen => ?_⟩
  obtain ⟨s, hs, hnext⟩ := h.closed y hy hseen
  refine ⟨s, hs, fun z hz => ?_⟩
  rcases hnext z hz with hz | hz
  · exact .inl hz
  · rcases List.mem_cons.1 hz with rfl | hz
    · exact .inl hx
    · exact .inr hz

variable {s : Step}

theorem key_lt (h : Explored text P seen (x :: stack)) (hs : P[x.1]? = some s) : pairKey text x < seen.size := by
  rw [h.size_eq]
  exact pairKey_lt (Array.getElem?_eq_some_iff.1 hs).1 (h.le_length x List.mem_cons_self)

/-- A pair that is entered joins those that have been. -/
theorem entered_enter (h : Explored text P seen (x :: stack)) (hs : P[x.1]? = some s) {y : Nat × Nat}
    (hy : y.2 ≤ text.length) : Entered text (enter text seen x) y ↔ y = x ∨ Entered text seen y := by
  have hlt := h.key_lt hs
  rw [Entered, enter, Array.getD_eq_getD_getElem?]
  by_cases heq : y = x
  · subst heq
    rw [Array.getElem?_setIfInBounds_self_of_lt hlt]
    simp
  · have hne : pairKey text x ≠ pairKey text y := fun hkey =>
      heq (pairKey_inj hy (h.le_length x List.mem_cons_self) hkey.symm)
    rw [Array.getElem?_setIfInBounds_ne hne, ← Array.getD_eq_getD_getElem?]
    simp only [heq, false_or]
    rfl

theorem step (h : Explored text P seen (x :: stack)) (hs : P[x.1]? = some s) :
    Explored text P (enter text seen x) (s.next text x.1 x.2 ++ stack) := by
  have hx := h.le_length x List.mem_cons_self
  refine ⟨fun y hy => ?_, ?_, fun y hy hseen => ?_⟩
  · rcases List.mem_append.1 hy with hy | hy
    · exact le_length_of_mem_next hx hy
    · exact h.le_length y (List.mem_cons_of_mem x hy)
  · rw [enter, Array.size_setIfInBounds, h.size_eq]
  · rcases (h.entered_enter hs hy).1 hseen with rfl | hseen
    · exact ⟨s, hs, fun z hz => .inr (List.mem_append_left _ hz)⟩
    · obtain ⟨t, ht, hnext⟩ := h.closed y hy hseen
      refine ⟨t, ht, fun z hz => ?_⟩
      have hz' := le_length_of_mem_next hy hz
      rcases hnext z hz with hz | hz
      · exact .inl ((h.entered_enter hs hz').2 (.inr hz))
      · rcases List.mem_cons.1 hz with rfl | hz
        · exact .inl ((h.entered_enter hs hz').2 (.inl rfl))
        · exact .inr (List.mem_append_right _ hz)

/-- Entering a pair leaves one pair less to enter. -/
theorem count_enter (h : Explored text P seen (x :: stack)) (hs : P[x.1]? = some s)
    (hseen : ¬ Entered text seen x) : (enter text seen x).count false + 1 = seen.count false := by
  have hlt := h.key_lt hs
  have hfalse : seen[pairKey text x] = false := by
    rw [Entered, Array.getD_eq_getD_getElem?, Array.getElem?_eq_getElem hlt] at hseen
    simpa using hseen
  have hpos : 0 < seen.count false := Array.count_pos_iff.2 (hfalse ▸ Array.getElem_mem hlt)
  rw [enter, Array.setIfInBounds_def, dif_pos hlt, Array.count_set, hfalse]
  have hkept : (true == false) = false := rfl
  simp only [beq_self_eq_true, if_true, hkept, Bool.false_eq_true, if_false]
  omega

/-- Once nothing waits, what has been entered leads only to what has been entered. -/
theorem getElem?_ne_none (h : Explored text P seen []) (hx : x.2 ≤ text.length) (hentered : Entered text seen x)
    {k : Nat} {y : Nat × Nat} (hrun : Times (Leads text P) k x y) : P[y.1]? ≠ none := by
  induction k generalizing x with
  | zero =>
    obtain rfl : x = y := hrun
    obtain ⟨s, hs, -⟩ := h.closed x hx hentered
    rw [hs]
    exact Option.some_ne_none s
  | succ k ih =>
    obtain ⟨z, ⟨s, hs, hz⟩, hrun⟩ := hrun
    obtain ⟨t, ht, hnext⟩ := h.closed x hx hentered
    obtain rfl := Option.some.inj (hs.symm.trans ht)
    exact ih (le_length_of_mem_next hx hz) ((hnext z hz).resolve_right List.not_mem_nil) hrun

end Explored

/-- **A search that finds nothing** has missed nothing: nothing that it has entered or that waits leads to an
end of the program. Every pair is entered once and adds at most two, so that the fuel lasts. -/
theorem of_search_eq_none (hfuel : 2 * seen.count false + stack.length < fuel)
    (h : Explored text P seen stack) (hnone : search P text.toArray fuel seen stack = none) (x : Nat × Nat)
    (hx : x.2 ≤ text.length) (hseen : Entered text seen x ∨ x ∈ stack) (k : Nat) (y : Nat × Nat)
    (hrun : Times (Leads text P) k x y) : P[y.1]? ≠ none := by
  induction fuel generalizing seen stack with
  | zero => exact absurd hfuel (Nat.not_lt_zero _)
  | succ fuel ih =>
    cases stack with
    | nil => exact h.getElem?_ne_none hx (hseen.resolve_right List.not_mem_nil) hrun
    | cons w stack =>
      by_cases hw : Entered text seen w
      · rw [search_of_entered hw] at hnone
        rw [List.length_cons] at hfuel
        refine ih (by omega) (h.tail hw) hnone ?_
        rcases hseen with hseen | hmem
        · exact .inl hseen
        · rcases List.mem_cons.1 hmem with rfl | hmem
          · exact .inl hw
          · exact .inr hmem
      · cases hs : P[w.1]? with
        | none =>
          rw [search_of_end hw hs] at hnone
          exact absurd hnone nofun
        | some s =>
          rw [search_of_step hw hs] at hnone
          have hcount := h.count_enter hs hw
          have hlength : (s.next text w.1 w.2).length ≤ 2 := next_length_le s w.1 w.2
          rw [List.length_cons] at hfuel
          refine ih (by rw [List.length_append]; omega) (h.step hs) hnone ?_
          rcases hseen with hseen | hmem
          · exact .inl ((h.entered_enter hs hx).2 (.inr hseen))
          · rcases List.mem_cons.1 hmem with rfl | hmem
            · exact .inl ((h.entered_enter hs hx).2 (.inl rfl))
            · exact .inr (List.mem_append_right _ hmem)

namespace Regex

variable {r : Regex}

/-- Runs of the whole program are matches that start the text. -/
theorem spans_of_run {k pc j : Nat} (hrun : Times (Leads text (r.emit #[])) k (0, 0) (pc, j))
    (hend : (r.emit #[])[pc]? = none) : pc = (r.emit #[]).size ∧ r.Spans text 0 j := by
  have hfragment := (emits_emit text r).fragment #[] (r.emit #[]) fun _ _ _ => rfl
  have hpc := Array.getElem?_eq_none_iff.1 hend
  obtain ⟨m, hm, l, -, hrest⟩ := hfragment.sound hrun (.inr hpc)
  cases l with
  | zero =>
    obtain ⟨rfl, rfl⟩ := Prod.mk.inj hrest
    exact ⟨rfl, hm⟩
  | succ l =>
    obtain ⟨z, ⟨s, hs, -⟩, -⟩ := hrest
    simp at hs

/-- **The preferred match** is a match. -/
theorem preferredEnd?_spans {j : Nat} (h : r.preferredEnd? text = some j) : r.Spans text 0 j := by
  obtain ⟨x, hx, k, pc, hrun, hend⟩ := exists_of_search h
  obtain rfl := List.mem_singleton.1 hx
  exact (spans_of_run hrun hend).2

/-- **There is a preferred match** where there is any match at all. -/
theorem preferredEnd?_eq_none_iff : r.preferredEnd? text = none ↔ ∀ j, ¬ r.Spans text 0 j := by
  constructor
  · intro hnone j hj
    have hfragment := (emits_emit text r).fragment #[] (r.emit #[]) fun _ _ _ => rfl
    obtain ⟨k, hrun⟩ := hfragment.complete hj
    refine of_search_eq_none ?_ ?_ hnone (0, 0) (Nat.zero_le _) (.inr (List.mem_singleton.2 rfl)) k _ hrun ?_
    · rw [Array.count_replicate_self]
      simp
    · refine ⟨?_, Array.size_replicate .., ?_⟩
      · rintro x hx
        obtain rfl := List.mem_singleton.1 hx
        exact Nat.zero_le _
      · intro x _ hx
        rw [Entered, Array.getD_eq_getD_getElem?, Array.getElem?_replicate] at hx
        split at hx <;> exact absurd hx Bool.false_ne_true
    · simp
  · intro hno
    cases h : r.preferredEnd? text with
    | none => rfl
    | some j => exact absurd (preferredEnd?_spans h) (hno j)

end Regex

end InterceptAddons.Pattern
