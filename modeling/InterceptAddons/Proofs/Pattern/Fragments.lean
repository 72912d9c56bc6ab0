import InterceptAddons.Pattern.Preferred
import InterceptAddons.Proofs.Pattern.Spans

/-!
# Programs of expressions

`Leads` is what a program does in one step, without saying which of two ways it tries first, and
`Fragment` a part of a program that goes from its first step to the step behind its last one as some
relation does between places of the text. Each way of appending steps makes a fragment of the relation of
its expression, wherever it stands; `emits_emit` is the result.
-/

namespace InterceptAddons.Pattern

open InterceptAddons.Text

variable (text : List Char)

/-! ### Steps -/

/-- Where a step leads from its place `pc` in the program and the place `i` in the text, the preferred way
first. -/
def Step.next (pc i : Nat) : Step → List (Nat × Nat)
  | .set s => if text[i]?.any s.contains then [(pc + 1, i + 1)] else []
  | .look l => if l.holds (before? text i) text[i]? then [(pc + 1, i)] else []
  | .split a b => [(a, i), (b, i)]
  | .jump a => [(a, i)]

/-- What one step of a program leads to, from a place in the program and one in the text. -/
def Leads (P : Array Step) (x y : Nat × Nat) : Prop := ∃ s, P[x.1]? = some s ∧ y ∈ s.next text x.1 x.2

theorem Leads.of_getElem? {P : Array Step} {pc i : Nat} {s : Step} (hs : P[pc]? = some s) (y : Nat × Nat) :
    Leads text P (pc, i) y ↔ y ∈ s.next text pc i := by
  constructor
  · rintro ⟨t, ht, hy⟩
    obtain rfl := Option.some.inj (hs.symm.trans ht)
    exact hy
  · exact fun hy => ⟨s, hs, hy⟩

theorem leads_choice {P : Array Step} {greedy : Bool} {pc on off : Nat} (hs : P[pc]? = some (choice greedy on off))
    (i : Nat) (y : Nat × Nat) : Leads text P (pc, i) y ↔ y = (on, i) ∨ y = (off, i) := by
  rw [Leads.of_getElem? text hs]
  cases greedy <;> simp [choice, Step.next, or_comm]

theorem leads_jump {P : Array Step} {pc target : Nat} (hs : P[pc]? = some (.jump target)) (i : Nat)
    (y : Nat × Nat) : Leads text P (pc, i) y ↔ y = (target, i) := by
  rw [Leads.of_getElem? text hs]
  simp [Step.next]

/-- A run that ends elsewhere than it begins takes a first step. -/
theorem Times.first {α : Type} {R : α → α → Prop} {k : Nat} {x y : α} (h : Times R k x y) (hne : x ≠ y) :
    ∃ l z, l < k ∧ R x z ∧ Times R l z y := by
  cases k with
  | zero => exact absurd h hne
  | succ k =>
    obtain ⟨z, hxz, hzy⟩ := h
    exact ⟨k, z, Nat.lt_succ_self k, hxz, hzy⟩

/-! ### Fragments -/

/-- A part of a program that follows a relation: a run that leaves it does so behind its last step, at a
place the relation leads to, and to every such place there is a run. -/
structure Fragment (P : Array Step) (lo hi : Nat) (R : Nat → Nat → Prop) : Prop where
  le : lo ≤ hi
  sound : ∀ {k i pc j}, Times (Leads text P) k (lo, i) (pc, j) → pc < lo ∨ hi ≤ pc →
    ∃ m, R i m ∧ ∃ l ≤ k, Times (Leads text P) l (hi, m) (pc, j)
  complete : ∀ {i j}, R i j → ∃ k, Times (Leads text P) k (lo, i) (hi, j)

namespace Fragment

variable {text} {P : Array Step} {lo mid hi : Nat} {R Q : Nat → Nat → Prop}

theorem congr (h : Fragment text P lo hi R) (hR : ∀ i j, R i j ↔ Q i j) : Fragment text P lo hi Q := by
  have : R = Q := funext₂ fun i j => propext (hR i j)
  exact this ▸ h

theorem nil (lo : Nat) : Fragment text P lo lo Eq :=
  ⟨le_rfl, fun hrun _ => ⟨_, rfl, _, le_rfl, hrun⟩, fun hij => ⟨0, by rw [hij]; rfl⟩⟩

/-- A step that can only go on to the next one. -/
theorem single {s : Step} (hs : P[lo]? = some s)
    (hnext : ∀ i y, y ∈ s.next text lo i ↔ y.1 = lo + 1 ∧ R i y.2) : Fragment text P lo (lo + 1) R := by
  refine ⟨Nat.le_succ lo, ?_, ?_⟩
  · intro k i pc j hrun hpc
    obtain ⟨l, ⟨pc', m⟩, hl, hstep, hrest⟩ := hrun.first (by rintro ⟨⟩; omega)
    obtain ⟨rfl, hR⟩ := (hnext i _).1 ((Leads.of_getElem? text hs _).1 hstep)
    exact ⟨m, hR, l, by omega, hrest⟩
  · intro i j hij
    exact ⟨1, (lo + 1, j), (Leads.of_getElem? text hs _).2 ((hnext i _).2 ⟨rfl, hij⟩), rfl⟩

theorem comp (h : Fragment text P lo mid R) (h' : Fragment text P mid hi Q) :
    Fragment text P lo hi fun i j => ∃ m, R i m ∧ Q m j := by
  refine ⟨h.le.trans h'.le, ?_, ?_⟩
  · intro k i pc j hrun hpc
    have hle := h.le
    have hle' := h'.le
    obtain ⟨m, hR, l, hl, hrun⟩ := h.sound hrun (by omega)
    obtain ⟨m', hQ, l', hl', hrun⟩ := h'.sound hrun (by omega)
    exact ⟨m', ⟨m, hR, hQ⟩, l', hl'.trans hl, hrun⟩
  · rintro i j ⟨m, hR, hQ⟩
    obtain ⟨k, hk⟩ := h.complete hR
    obtain ⟨l, hl⟩ := h'.complete hQ
    exact ⟨k + l, (times_add k l _ _).2 ⟨_, hk, hl⟩⟩

/-- Two branches, of which the first ends with a jump behind the second. -/
theorem branches (hs : P[lo]? = some (.split (lo + 1) (mid + 1)))
    (h : Fragment text P (lo + 1) mid R) (hjump : P[mid]? = some (.jump hi))
    (h' : Fragment text P (mid + 1) hi Q) : Fragment text P lo hi fun i j => R i j ∨ Q i j := by
  have hle := h.le
  have hle' := h'.le
  have hstep := leads_choice text (show P[lo]? = some (choice true (lo + 1) (mid + 1)) from hs)
  have hmid := leads_jump text hjump
  refine ⟨by omega, ?_, ?_⟩
  · intro k i pc j hrun hpc
    obtain ⟨l, y, hl, hy, hrest⟩ := hrun.first (by rintro ⟨⟩; omega)
    obtain rfl | rfl := (hstep i y).1 hy
    · obtain ⟨m, hR, l', hl', hrest⟩ := h.sound hrest (by omega)
      obtain ⟨l'', y, hl'', hy, hrest⟩ := hrest.first (by rintro ⟨⟩; omega)
      obtain rfl := (hmid m y).1 hy
      exact ⟨m, .inl hR, l'', by omega, hrest⟩
    · obtain ⟨m, hQ, l', hl', hrest⟩ := h'.sound hrest (by omega)
      exact ⟨m, .inr hQ, l', by omega, hrest⟩
  · rintro i j (hR | hQ)
    · obtain ⟨k, hk⟩ := h.complete hR
      have hout : Times (Leads text P) 1 (mid, j) (hi, j) := ⟨(hi, j), (hmid j _).2 rfl, rfl⟩
      exact ⟨(k + 1) + 1, (lo + 1, i), (hstep i _).2 (.inl rfl), (times_add k 1 _ _).2 ⟨_, hk, hout⟩⟩
    · obtain ⟨k, hk⟩ := h'.complete hQ
      exact ⟨k + 1, (mid + 1, i), (hstep i _).2 (.inr rfl), hk⟩

/-- A part that can be passed by. -/
theorem guard {greedy : Bool} (hs : P[lo]? = some (choice greedy (lo + 1) hi))
    (h : Fragment text P (lo + 1) hi R) : Fragment text P lo hi fun i j => i = j ∨ R i j := by
  have hle := h.le
  have hstep := leads_choice text hs
  refine ⟨by omega, ?_, ?_⟩
  · intro k i pc j hrun hpc
    obtain ⟨l, y, hl, hy, hrest⟩ := hrun.first (by rintro ⟨⟩; omega)
    obtain rfl | rfl := (hstep i y).1 hy
    · obtain ⟨m, hR, l', hl', hrest⟩ := h.sound hrest (by omega)
      exact ⟨m, .inr hR, l', by omega, hrest⟩
    · exact ⟨i, .inl rfl, l, by omega, hrest⟩
  · rintro i j (rfl | hR)
    · exact ⟨1, (hi, i), (hstep i _).2 (.inr rfl), rfl⟩
    · obtain ⟨k, hk⟩ := h.complete hR
      exact ⟨k + 1, (lo + 1, i), (hstep i _).2 (.inl rfl), hk⟩

/-- A body behind which a choice leads back to it. -/
theorem loop {greedy : Bool} (h : Fragment text P lo mid R)
    (hs : P[mid]? = some (choice greedy lo (mid + 1))) :
    Fragment text P lo (mid + 1) fun i j => ∃ k, Times R (k + 1) i j := by
  have hle := h.le
  have hstep := leads_choice text hs
  refine ⟨by omega, ?_, ?_⟩
  · intro k i pc j hrun hpc
    -- every round takes a step of its own at the choice, so that the rest of the run is shorter
    induction k using Nat.strongRecOn generalizing i with
    | ind k ih =>
      obtain ⟨m, hR, l, hl, hrest⟩ := h.sound hrun (by omega)
      obtain ⟨l', y, hl', hy, hrest⟩ := hrest.first (by rintro ⟨⟩; omega)
      obtain rfl | rfl := (hstep m y).1 hy
      · obtain ⟨m', ⟨n, hn⟩, l'', hl'', hrest⟩ := ih l' (by omega) hrest
        exact ⟨m', ⟨n + 1, m, hR, hn⟩, l'', by omega, hrest⟩
      · exact ⟨m, ⟨0, m, hR, rfl⟩, l', by omega, hrest⟩
  · rintro i j ⟨n, hn⟩
    induction n generalizing i with
    | zero =>
      obtain ⟨m, hR, rfl⟩ := hn
      obtain ⟨k, hk⟩ := h.complete hR
      have hout : Times (Leads text P) 1 (mid, m) (mid + 1, m) := ⟨_, (hstep m _).2 (.inr rfl), rfl⟩
      exact ⟨k + 1, (times_add k 1 _ _).2 ⟨_, hk, hout⟩⟩
    | succ n ih =>
      obtain ⟨m, hR, hn⟩ := hn
      obtain ⟨k, hk⟩ := h.complete hR
      obtain ⟨l, hl⟩ := ih hn
      have hback : Times (Leads text P) (l + 1) (mid, m) (mid + 1, j) := ⟨(lo, m), (hstep m _).2 (.inl rfl), hl⟩
      exact ⟨k + (l + 1), (times_add k (l + 1) _ _).2 ⟨_, hk, hback⟩⟩

/-- A body before which a choice leads past it and behind which a jump leads back to the choice. -/
theorem star {greedy : Bool} (hs : P[lo]? = some (choice greedy (lo + 1) (mid + 1)))
    (h : Fragment text P (lo + 1) mid R) (hjump : P[mid]? = some (.jump lo)) :
    Fragment text P lo (mid + 1) fun i j => ∃ k, Times R k i j := by
  have hle := h.le
  have hstep := leads_choice text hs
  have hmid := leads_jump text hjump
  refine ⟨by omega, ?_, ?_⟩
  · intro k i pc j hrun hpc
    induction k using Nat.strongRecOn generalizing i with
    | ind k ih =>
      obtain ⟨l, y, hl, hy, hrest⟩ := hrun.first (by rintro ⟨⟩; omega)
      obtain rfl | rfl := (hstep i y).1 hy
      · obtain ⟨m, hR, l', hl', hrest⟩ := h.sound hrest (by omega)
        obtain ⟨l'', y, hl'', hy, hrest⟩ := hrest.first (by rintro ⟨⟩; omega)
        obtain rfl := (hmid m y).1 hy
        obtain ⟨m', ⟨n, hn⟩, l₃, hl₃, hrest⟩ := ih l'' (by omega) hrest
        exact ⟨m', ⟨n + 1, m, hR, hn⟩, l₃, by omega, hrest⟩
      · exact ⟨i, ⟨0, rfl⟩, l, by omega, hrest⟩
  · rintro i j ⟨n, hn⟩
    induction n generalizing i with
    | zero =>
      obtain rfl : i = j := hn
      exact ⟨1, _, (hstep i _).2 (.inr rfl), rfl⟩
    | succ n ih =>
      obtain ⟨m, hR, hn⟩ := hn
      obtain ⟨k, hk⟩ := h.complete hR
      obtain ⟨l, hl⟩ := ih hn
      have hback : Times (Leads text P) (l + 1) (mid, m) (mid + 1, j) := ⟨(lo, m), (hmid m _).2 rfl, hl⟩
      exact ⟨(k + (l + 1)) + 1, (lo + 1, i), (hstep i _).2 (.inl rfl),
        (times_add k (l + 1) _ _).2 ⟨_, hk, hback⟩⟩

end Fragment

/-! ### Appending fragments -/

/-- Two programs have the same steps in a part. -/
def AgreeOn (lo hi : Nat) (P Q : Array Step) : Prop := ∀ i, lo ≤ i → i < hi → P[i]? = Q[i]?

/-- Something that appends a fragment of a relation: it keeps the steps that are there, and what it appends
is such a fragment in every program that has it at its place. -/
structure Emits (emit : Array Step → Array Step) (R : Nat → Nat → Prop) : Prop where
  size_le : ∀ p, p.size ≤ (emit p).size
  keeps : ∀ p, AgreeOn 0 p.size (emit p) p
  fragment : ∀ p P, AgreeOn p.size (emit p).size P (emit p) → Fragment text P p.size (emit p).size R

namespace Emits

variable {text} {e e' : Array Step → Array Step} {R Q : Nat → Nat → Prop}

theorem congr (h : Emits text e R) (hR : ∀ i j, R i j ↔ Q i j) : Emits text e Q :=
  ⟨h.size_le, h.keeps, fun p P hP => (h.fragment p P hP).congr hR⟩

theorem nothing : Emits text (fun p => p) Eq :=
  ⟨fun _ => le_rfl, fun _ _ _ _ => rfl, fun p _ _ => .nil p.size⟩

/-- A single step that can only go on to the next one. -/
theorem single {s : Step} (hnext : ∀ pc i y, y ∈ s.next text pc i ↔ y.1 = pc + 1 ∧ R i y.2) :
    Emits text (·.push s) R := by
  refine ⟨fun p => by simp, fun p i _ hi => Array.getElem?_push_lt hi |>.trans (by simp [hi]), ?_⟩
  intro p P hP
  have hs : P[p.size]? = some s := by
    rw [hP p.size le_rfl (by simp), Array.getElem?_push_size]
  simpa using Fragment.single hs (hnext p.size)

theorem comp (h : Emits text e R) (h' : Emits text e' Q) :
    Emits text (fun p => e' (e p)) fun i j => ∃ m, R i m ∧ Q m j := by
  refine ⟨fun p => (h.size_le p).trans (h'.size_le (e p)), ?_, ?_⟩
  · intro p i hi hip
    rw [h'.keeps (e p) i hi (hip.trans_le (h.size_le p)), h.keeps p i hi hip]
  · intro p P hP
    have hfirst : AgreeOn p.size (e p).size P (e p) := fun i hi hlt => by
      rw [hP i hi (hlt.trans_le (h'.size_le (e p))), h'.keeps (e p) i (Nat.zero_le i) hlt]
    have hsecond : AgreeOn (e p).size (e' (e p)).size P (e' (e p)) := fun i hi hlt =>
      hP i ((h.size_le p).trans hi) hlt
    exact (h.fragment p P hfirst).comp (h'.fragment (e p) P hsecond)

theorem times (h : Emits text e R) (n : Nat) : Emits text (Pattern.times e n) (Times R n) := by
  induction n with
  | zero => exact nothing
  | succ n ih => exact h.comp ih

/-! A step is often appended before its targets are known, and set later. -/

theorem lt_size_push (h : Emits text e R) (p : Array Step) (s : Step) : p.size < (e (p.push s)).size := by
  have := h.size_le (p.push s)
  rw [Array.size_push] at this
  omega

theorem keeps_push (h : Emits text e R) (p : Array Step) (s : Step) : AgreeOn 0 p.size (e (p.push s)) p := by
  intro i hi hip
  rw [h.keeps (p.push s) i hi (by rw [Array.size_push]; omega), Array.getElem?_push_lt hip]
  simp [hip]

theorem fragment_push (h : Emits text e R) (p : Array Step) (s : Step) {P : Array Step}
    (hP : AgreeOn (p.size + 1) (e (p.push s)).size P (e (p.push s))) :
    Fragment text P (p.size + 1) (e (p.push s)).size R := by
  have := h.fragment (p.push s) P
  rw [Array.size_push] at this
  exact this hP

/-- A part that can be passed by. -/
theorem guarded (h : Emits text e R) (greedy : Bool) :
    Emits text (fun p =>
      let q := e (p.push (.jump 0))
      q.setIfInBounds p.size (choice greedy (p.size + 1) q.size)) fun i j => i = j ∨ R i j := by
  refine ⟨fun p => ?_, fun p i hi hip => ?_, fun p P hP => ?_⟩
  · have := h.lt_size_push p (.jump 0)
    simp only [Array.size_setIfInBounds]
    omega
  · rw [Array.getElem?_setIfInBounds_ne (by omega), h.keeps_push p _ i hi hip]
  · have hlt := h.lt_size_push p (.jump 0)
    simp only [Array.size_setIfInBounds] at hP ⊢
    have hhead := hP p.size le_rfl hlt
    rw [Array.getElem?_setIfInBounds_self_of_lt hlt] at hhead
    refine .guard hhead (h.fragment_push p (.jump 0) fun i hi hiq => ?_)
    rw [hP i (by omega) hiq, Array.getElem?_setIfInBounds_ne (by omega)]

/-- A part that runs once or more. -/
theorem plus (h : Emits text e R) (greedy : Bool) :
    Emits text (Pattern.plus e greedy) fun i j => ∃ k, Times R (k + 1) i j := by
  refine ⟨fun p => ?_, fun p i hi hip => ?_, fun p P hP => ?_⟩
  · have := h.size_le p
    simp only [Pattern.plus, Array.size_push]
    omega
  · have := h.size_le p
    rw [Pattern.plus, Array.getElem?_push_lt (by omega), ← Array.getElem?_eq_getElem, h.keeps p i hi hip]
  · have hle := h.size_le p
    simp only [Pattern.plus, Array.size_push] at hP ⊢
    have hlast := hP (e p).size hle (Nat.lt_succ_self _)
    rw [Array.getElem?_push_size] at hlast
    refine .loop (h.fragment p P fun i hi hiq => ?_) hlast
    rw [hP i hi (by omega), Array.getElem?_push_lt hiq, ← Array.getElem?_eq_getElem]

/-- A part that runs any number of times and takes a character each time. -/
theorem star (h : Emits text e R) (greedy : Bool) :
    Emits text (fun p =>
      let q := (e (p.push (.jump 0))).push (.jump p.size)
      q.setIfInBounds p.size (choice greedy (p.size + 1) q.size)) fun i j => ∃ k, Times R k i j := by
  refine ⟨fun p => ?_, fun p i hi hip => ?_, fun p P hP => ?_⟩
  · have := h.lt_size_push p (.jump 0)
    simp only [Array.size_setIfInBounds, Array.size_push]
    omega
  · have := h.lt_size_push p (.jump 0)
    rw [Array.getElem?_setIfInBounds_ne (by omega), Array.getElem?_push_lt (by omega),
      ← Array.getElem?_eq_getElem, h.keeps_push p _ i hi hip]
  · have hlt := h.lt_size_push p (.jump 0)
    simp only [Array.size_setIfInBounds, Array.size_push] at hP ⊢
    have hhead := hP p.size le_rfl (by omega)
    rw [Array.getElem?_setIfInBounds_self_of_lt (by rw [Array.size_push]; omega)] at hhead
    have hlast := hP _ hlt.le (Nat.lt_succ_self _)
    rw [Array.getElem?_setIfInBounds_ne (by omega), Array.getElem?_push_size] at hlast
    refine .star hhead (h.fragment_push p (.jump 0) fun i hi hiq => ?_) hlast
    rw [hP i (by omega) (by omega), Array.getElem?_setIfInBounds_ne (by omega), Array.getElem?_push_lt hiq,
      ← Array.getElem?_eq_getElem]

/-- Two parts to choose between. -/
theorem branches (h : Emits text e R) (h' : Emits text e' Q) :
    Emits text (fun p =>
      let q := e (p.push (.jump 0))
      let q' := e' (q.push (.jump 0))
      (q'.setIfInBounds p.size (.split (p.size + 1) (q.size + 1))).setIfInBounds q.size (.jump q'.size))
      fun i j => R i j ∨ Q i j := by
  refine ⟨fun p => ?_, fun p i hi hip => ?_, fun p P hP => ?_⟩
  · have := h.lt_size_push p (.jump 0)
    have := h'.lt_size_push (e (p.push (.jump 0))) (.jump 0)
    simp only [Array.size_setIfInBounds]
    omega
  · have hlt := h.lt_size_push p (.jump 0)
    rw [Array.getElem?_setIfInBounds_ne (by omega), Array.getElem?_setIfInBounds_ne (by omega),
      h'.keeps_push _ _ i hi (by omega), h.keeps_push p _ i hi hip]
  · have hlt := h.lt_size_push p (.jump 0)
    have hlt' := h'.lt_size_push (e (p.push (.jump 0))) (.jump 0)
    simp only [Array.size_setIfInBounds] at hP ⊢
    generalize hq : e (p.push (.jump 0)) = q at *
    have hhead := hP p.size le_rfl (by omega)
    rw [Array.getElem?_setIfInBounds_ne (by omega), Array.getElem?_setIfInBounds_self_of_lt (by omega)] at hhead
    have hjump := hP q.size hlt.le hlt'
    rw [Array.getElem?_setIfInBounds_self_of_lt (by simpa using hlt')] at hjump
    refine .branches hhead ?_ hjump (h'.fragment_push q (.jump 0) fun i hi hiq => ?_)
    · subst hq
      refine h.fragment_push p (.jump 0) fun i hi hiq => ?_
      rw [hP i (by omega) (by omega), Array.getElem?_setIfInBounds_ne (by omega),
        Array.getElem?_setIfInBounds_ne (by omega), h'.keeps_push _ _ i (Nat.zero_le i) hiq]
    · rw [hP i (by omega) hiq, Array.getElem?_setIfInBounds_ne (by omega),
        Array.getElem?_setIfInBounds_ne (by omega)]

/-- Repetitions that are appended, and the places of the choices between them, which are set later: each leads
on to the next step or out behind the last. -/
structure Opens (text : List Char) (greedy : Bool) (p : Array Step) (x : Array Step × List Nat)
    (R : Nat → Nat → Prop) : Prop where
  size_le : p.size ≤ x.1.size
  keeps : AgreeOn 0 p.size x.1 p
  size_le_hole : ∀ i ∈ x.2, p.size ≤ i
  fragment : ∀ P : Array Step,
    (∀ i, p.size ≤ i → i < x.1.size →
      P[i]? = if i ∈ x.2 then some (choice greedy (i + 1) x.1.size) else x.1[i]?) →
    Fragment text P p.size x.1.size R

/-- One more repetition before the others. -/
theorem Opens.cons (h : Emits text e R) {greedy : Bool} {p : Array Step} {x : Array Step × List Nat}
    (hx : Opens text greedy (e (p.push (.jump 0))) x Q) :
    Opens text greedy p (x.1, p.size :: x.2) fun i j => i = j ∨ ∃ m, R i m ∧ Q m j := by
  have hlt := h.lt_size_push p (.jump 0)
  have hle := hx.size_le
  have hhole (i : Nat) (hi : i ∈ x.2) : p.size < i := hlt.trans_le (hx.size_le_hole i hi)
  refine ⟨hlt.le.trans hle, fun i hi hip => ?_, fun i hi => ?_, fun P hP => ?_⟩
  · rw [hx.keeps i hi (by omega), h.keeps_push p _ i hi hip]
  · rcases List.mem_cons.1 hi with rfl | hi
    · exact le_rfl
    · exact (hhole i hi).le
  · have hhead := hP p.size le_rfl (hlt.trans_le hle)
    rw [if_pos List.mem_cons_self] at hhead
    have hbody : Fragment text P (p.size + 1) (e (p.push (.jump 0))).size R := by
      refine h.fragment_push p (.jump 0) fun i hi hiq => ?_
      have hi' : i ∉ p.size :: x.2 := fun hmem => by
        rcases List.mem_cons.1 hmem with rfl | hmem
        · omega
        · have := hx.size_le_hole i hmem
          omega
      rw [hP i (by omega) (hiq.trans_le hle), if_neg hi', hx.keeps i (Nat.zero_le i) hiq]
    have hrest := hx.fragment P fun i hi hiq => by
      have hne : i ≠ p.size := by omega
      rw [hP i (by omega) hiq]
      simp only [List.mem_cons, hne, false_or]
    exact .guard hhead (hbody.comp hrest)

/-- At most `n` repetitions. -/
theorem optional (h : Emits text e R) (greedy : Bool) (n : Nat) (p : Array Step) :
    Opens text greedy p (optional e n p) fun i j => ∃ k ≤ n, Times R k i j := by
  induction n generalizing p with
  | zero =>
    refine ⟨le_rfl, fun _ _ _ => rfl, nofun, fun P _ => (Fragment.nil p.size).congr fun i j => ?_⟩
    simp [Times]
  | succ n ih =>
    have hcons := Opens.cons h (ih (e (p.push (.jump 0))))
    refine ⟨hcons.size_le, hcons.keeps, hcons.size_le_hole, fun P hP => (hcons.fragment P hP).congr fun i j => ?_⟩
    constructor
    · rintro (rfl | ⟨m, him, k, hk, hmj⟩)
      · exact ⟨0, Nat.zero_le _, rfl⟩
      · exact ⟨k + 1, by omega, m, him, hmj⟩
    · rintro ⟨_ | k, hk, hij⟩
      · exact .inl hij
      · obtain ⟨m, him, hmj⟩ := hij
        exact .inr ⟨m, him, k, by omega, hmj⟩

/-- Setting the choices changes only them. -/
theorem getElem?_setChoices (greedy : Bool) (holes : List Nat) (q : Array Step) :
    (holes.foldl (fun q i => q.setIfInBounds i (choice greedy (i + 1) q.size)) q).size = q.size ∧
      ∀ i < q.size, (holes.foldl (fun q i => q.setIfInBounds i (choice greedy (i + 1) q.size)) q)[i]? =
        if i ∈ holes then some (choice greedy (i + 1) q.size) else q[i]? := by
  induction holes generalizing q with
  | nil => exact ⟨rfl, fun i _ => by simp⟩
  | cons hole holes ih =>
    obtain ⟨hsize, hget⟩ := ih (q.setIfInBounds hole (choice greedy (hole + 1) q.size))
    rw [Array.size_setIfInBounds] at hsize hget
    refine ⟨hsize, fun i hi => ?_⟩
    rw [List.foldl_cons, hget i hi]
    by_cases hmem : i ∈ holes
    · rw [if_pos hmem, if_pos (List.mem_cons_of_mem _ hmem)]
    · by_cases hhole : i = hole
      · subst hhole
        rw [if_neg hmem, if_pos List.mem_cons_self, Array.getElem?_setIfInBounds_self_of_lt hi]
      · rw [if_neg hmem, if_neg (by simp [hhole, hmem]), Array.getElem?_setIfInBounds_ne (Ne.symm hhole)]

/-- At most `n` repetitions. -/
theorem bounded (h : Emits text e R) (greedy : Bool) (n : Nat) :
    Emits text (fun p =>
      let x := Pattern.optional e n p
      x.2.foldl (fun q i => q.setIfInBounds i (choice greedy (i + 1) q.size)) x.1)
      fun i j => ∃ k ≤ n, Times R k i j := by
  refine ⟨fun p => ?_, fun p i hi hip => ?_, fun p P hP => ?_⟩
  all_goals
    have hx := h.optional greedy n p
    obtain ⟨hsize, hget⟩ := getElem?_setChoices greedy (Pattern.optional e n p).2 (Pattern.optional e n p).1
  · exact hx.size_le.trans_eq hsize.symm
  · have hi' : i ∉ (Pattern.optional e n p).2 := fun hmem => by
      have := hx.size_le_hole i hmem
      omega
    exact (hget i (hip.trans_le hx.size_le)).trans ((if_neg hi').trans (hx.keeps i hi hip))
  · simp only at hP ⊢
    rw [hsize] at hP ⊢
    exact hx.fragment P fun i hi hiq => (hP i hi hiq).trans (hget i hiq)

end Emits

/-- Any number of repetitions, of something that may take no character or of something that always does. -/
theorem emits_any {r : Regex} (h : Emits text r.emit (r.Spans text)) (greedy : Bool) :
    Emits text (Regex.rep r 0 none greedy).emit ((Regex.rep r 0 none greedy).Spans text) := by
  have hrep (i j : Nat) : (∃ k, Times (r.Spans text) k i j) ↔ (Regex.rep r 0 none greedy).Spans text i j := by
    rw [Regex.spans_rep_none]
    simp [Times]
  by_cases hempty : r.canBeEmpty = true
  · have hemit : (Regex.rep r 0 none greedy).emit = fun p =>
        let q := plus r.emit greedy (p.push (.jump 0))
        q.setIfInBounds p.size (choice greedy (p.size + 1) q.size) := by
      funext p
      simp only [Regex.emit, hempty, if_true]
    rw [hemit]
    refine ((h.plus greedy).guarded greedy).congr fun i j => Iff.trans ?_ (hrep i j)
    constructor
    · rintro (rfl | ⟨k, hk⟩)
      · exact ⟨0, rfl⟩
      · exact ⟨k + 1, hk⟩
    · rintro ⟨_ | k, hk⟩
      · exact .inl hk
      · exact .inr ⟨k, hk⟩
  · have hemit : (Regex.rep r 0 none greedy).emit = fun p =>
        let q := (r.emit (p.push (.jump 0))).push (.jump p.size)
        q.setIfInBounds p.size (choice greedy (p.size + 1) q.size) := by
      funext p
      simp only [Regex.emit, hempty, Bool.false_eq_true, if_false]
    rw [hemit]
    exact (h.star greedy).congr hrep

/-- **Every expression** is appended as a fragment of its matches. -/
theorem emits_emit (r : Regex) : Emits text r.emit (r.Spans text) := by
  induction r with
  | empty => exact .nothing
  | set s =>
    refine .single fun pc i y => ?_
    obtain ⟨pc', j⟩ := y
    simp only [Step.next, List.mem_ite_nil_right, List.mem_singleton, Prod.mk.injEq, Regex.Spans, Option.any_eq_true]
    constructor
    · rintro ⟨hc, rfl, rfl⟩
      exact ⟨rfl, rfl, hc⟩
    · rintro ⟨rfl, rfl, hc⟩
      exact ⟨hc, rfl, rfl⟩
  | look l =>
    refine .single fun pc i y => ?_
    obtain ⟨pc', j⟩ := y
    simp only [Step.next, List.mem_ite_nil_right, List.mem_singleton, Prod.mk.injEq, Regex.Spans]
    constructor
    · rintro ⟨hl, rfl, rfl⟩
      exact ⟨rfl, rfl, hl⟩
    · rintro ⟨rfl, rfl, hl⟩
      exact ⟨hl, rfl, rfl⟩
  | cat a b iha ihb => exact iha.comp ihb
  | alt a b iha ihb => exact iha.branches ihb
  | rep r min max greedy ih =>
    cases max with
    | some most =>
      exact ((ih.times min).comp (ih.bounded greedy (most - min))).congr fun i j => Regex.spans_rep_some.symm
    | none =>
      cases min with
      | zero => exact emits_any text ih greedy
      | succ n =>
        refine ((ih.times n).comp (ih.plus greedy)).congr fun i j => ?_
        rw [Regex.spans_rep_none]
        constructor
        · rintro ⟨m, hn, k, x, hx, hk⟩
          exact ⟨x, (times_add n 1 i x).2 ⟨m, hn, x, hx, rfl⟩, k, hk⟩
        · rintro ⟨x, hx, k, hk⟩
          obtain ⟨m, hn, y, hy, rfl⟩ := (times_add n 1 i x).1 hx
          exact ⟨m, hn, k, y, hy, hk⟩

end InterceptAddons.Pattern
