import InterceptAddons.Text.Split
import Mathlib.Data.List.TakeWhile

/-!
# Cutting texts at separators

What the pieces of a text are: none of them holds the separator, and together with it they make up the text. The first
and the last cut are each known by one side on which the separator does not stand.
-/

namespace InterceptAddons.Text

/-- A character without the property of all characters of a text is none of them. -/
theorem notMem_of_forall {p : Char → Bool} {cs : List Char} {c : Char} (h : ∀ d ∈ cs, p d = true)
    (hc : p c = false) : c ∉ cs := fun hmem => by
  rw [h c hmem] at hc
  cases hc

/-! ### Pieces -/

theorem splitOn_eq (sep : Char) (cs : List Char) : splitOn sep cs = cs.splitOn sep := by
  induction cs with
  | nil => rfl
  | cons c cs ih =>
    rw [splitOn, ih, List.splitOn_cons_eq_if_modifyHead]
    by_cases hc : c = sep
    · rw [if_pos hc, if_pos (beq_iff_eq.2 hc)]
    · rw [if_neg hc, if_neg (mt beq_iff_eq.1 hc)]
      obtain ⟨p, ps, hps⟩ := List.exists_cons_of_ne_nil (List.splitOn_ne_nil sep cs)
      rw [hps]
      rfl

theorem splitOn_intercalate {sep : Char} {ps : List (List Char)} (hne : ps ≠ []) (h : ∀ p ∈ ps, sep ∉ p) :
    splitOn sep (List.intercalate [sep] ps) = ps := by
  rw [splitOn_eq]
  exact List.splitOn_intercalate sep h hne

theorem splitOn_ne_nil (sep : Char) (cs : List Char) : splitOn sep cs ≠ [] := by
  rw [splitOn_eq]
  exact List.splitOn_ne_nil sep cs

theorem splitOn_of_notMem {sep : Char} {p : List Char} (hp : sep ∉ p) : splitOn sep p = [p] := by
  have h := splitOn_intercalate (List.cons_ne_nil p []) (List.forall_mem_singleton.2 hp)
  rwa [List.intercalate_singleton] at h

/-- Every separator parts the pieces before it from those behind it. -/
theorem splitOn_append_cons (sep : Char) (p rest : List Char) :
    splitOn sep (p ++ sep :: rest) = splitOn sep p ++ splitOn sep rest := by
  induction p with
  | nil => exact if_pos rfl
  | cons c p ih =>
    rw [List.cons_append, splitOn, splitOn, ih]
    split
    · rfl
    · obtain ⟨q, qs, hq⟩ := List.exists_cons_of_ne_nil (splitOn_ne_nil sep p)
      rw [hq]
      rfl

theorem splitOn_append {sep : Char} {p : List Char} (hp : sep ∉ p) (rest : List Char) :
    splitOn sep (p ++ sep :: rest) = p :: splitOn sep rest := by
  rw [splitOn_append_cons, splitOn_of_notMem hp]
  rfl

/-- The characters of a piece are characters of the text other than the separator. -/
theorem of_mem_piece {sep : Char} {cs p : List Char} (hp : p ∈ splitOn sep cs) : ∀ c ∈ p, c ≠ sep ∧ c ∈ cs := by
  induction cs generalizing p with
  | nil =>
    obtain rfl := List.mem_singleton.1 hp
    exact fun _ hc => absurd hc List.not_mem_nil
  | cons d cs ih =>
    have hrest {q : List Char} (hq : q ∈ splitOn sep cs) : ∀ c ∈ q, c ≠ sep ∧ c ∈ d :: cs :=
      fun c hc => ⟨(ih hq c hc).1, List.mem_cons_of_mem _ (ih hq c hc).2⟩
    rw [splitOn] at hp
    by_cases hd : d = sep
    · rw [if_pos hd] at hp
      rcases List.mem_cons.1 hp with rfl | hp
      · exact fun _ hc => absurd hc List.not_mem_nil
      · exact hrest hp
    · rw [if_neg hd] at hp
      split at hp
      · obtain rfl := List.mem_singleton.1 hp
        exact List.forall_mem_singleton.2 ⟨hd, List.mem_cons_self⟩
      · next q qs hq =>
        rw [hq] at hrest
        rcases List.mem_cons.1 hp with rfl | hp
        · exact List.forall_mem_cons.2 ⟨⟨hd, List.mem_cons_self⟩, hrest List.mem_cons_self⟩
        · exact hrest (List.mem_cons_of_mem _ hp)

/-! ### The first and the last cut -/

theorem cutFirst_eq_some_iff {sep : Char} {cs p q : List Char} :
    cutFirst sep cs = some (p, q) ↔ cs = p ++ sep :: q ∧ sep ∉ p := by
  induction cs generalizing p with
  | nil => simp [cutFirst]
  | cons c cs ih =>
    rw [cutFirst]
    by_cases hc : c = sep
    · subst hc
      cases p with
      | nil => simp [eq_comm]
      | cons d p =>
        simp only [if_pos, List.cons_append, List.cons.injEq, List.mem_cons, not_or]
        grind
    · rw [if_neg hc]
      cases p with
      | nil => simp [hc]
      | cons d p =>
        simp only [Option.map_eq_some_iff, Prod.exists, List.cons_append, List.cons.injEq, List.mem_cons, not_or]
        grind

theorem cutFirst_eq_none_iff {sep : Char} {cs : List Char} : cutFirst sep cs = none ↔ sep ∉ cs := by
  induction cs with
  | nil => simp [cutFirst]
  | cons c cs ih =>
    rw [cutFirst, List.mem_cons, not_or, ← ih]
    by_cases hc : c = sep
    · simp [hc]
    · rw [if_neg hc, Option.map_eq_none_iff]
      exact ⟨fun h => ⟨fun h => hc h.symm, h⟩, And.right⟩

theorem cutLast_eq_some_iff {sep : Char} {cs p q : List Char} :
    cutLast sep cs = some (p, q) ↔ cs = p ++ sep :: q ∧ sep ∉ q := by
  rw [cutLast, Option.map_eq_some_iff]
  constructor
  · rintro ⟨⟨q', p'⟩, hcut, heq⟩
    obtain ⟨rfl, rfl⟩ : p'.reverse = p ∧ q'.reverse = q := by simpa using heq
    obtain ⟨hcs, hq⟩ := cutFirst_eq_some_iff.1 hcut
    rw [← List.reverse_reverse cs, hcs]
    simp [hq]
  · rintro ⟨rfl, hq⟩
    refine ⟨(q.reverse, p.reverse), cutFirst_eq_some_iff.2 ⟨by simp, by simpa using hq⟩, by simp⟩

theorem cutLast_eq_none_iff {sep : Char} {cs : List Char} : cutLast sep cs = none ↔ sep ∉ cs := by
  rw [cutLast, Option.map_eq_none_iff, cutFirst_eq_none_iff, List.mem_reverse]

theorem afterLast_of_notMem {sep : Char} {cs : List Char} (h : sep ∉ cs) : afterLast sep cs = cs := by
  rw [afterLast, cutLast_eq_none_iff.2 h]
  rfl

theorem takeWhile_of_notMem {sep : Char} {cs : List Char} (h : sep ∉ cs) : cs.takeWhile (· != sep) = cs := by
  rw [List.takeWhile_eq_self_iff]
  intro c hc
  rw [bne_iff_ne]
  rintro rfl
  exact h hc

theorem takeWhile_append_of_notMem {sep : Char} {cs : List Char} (h : sep ∉ cs) (rest : List Char) :
    (cs ++ sep :: rest).takeWhile (· != sep) = cs := by
  have hcs : ∀ c ∈ cs, (c != sep) = true := fun c hc => bne_iff_ne.2 fun heq => h (heq ▸ hc)
  rw [List.takeWhile_append_of_pos hcs, List.takeWhile_cons, bne_self_eq_false, if_neg (by decide), List.append_nil]

theorem notMem_takeWhile (sep : Char) (cs : List Char) : sep ∉ cs.takeWhile (· != sep) := fun h => by
  have hne : (sep != sep) = true := List.mem_takeWhile_imp (p := (· != sep)) h
  simp at hne

theorem afterLast_eq_iff {sep : Char} {cs q : List Char} :
    afterLast sep cs = q ↔ sep ∉ q ∧ (cs = q ∨ ∃ p, cs = p ++ sep :: q) := by
  cases hcut : cutLast sep cs with
  | none =>
    have hcs := cutLast_eq_none_iff.1 hcut
    rw [afterLast_of_notMem hcs]
    constructor
    · rintro rfl
      exact ⟨hcs, .inl rfl⟩
    · rintro ⟨-, heq | ⟨p, rfl⟩⟩
      · exact heq
      · exact absurd (List.mem_append_right p List.mem_cons_self) hcs
  | some parts =>
    obtain ⟨p, r⟩ := parts
    obtain ⟨hcs, hr⟩ := cutLast_eq_some_iff.1 hcut
    rw [afterLast, hcut]
    constructor
    · rintro rfl
      exact ⟨hr, .inr ⟨p, hcs⟩⟩
    · rintro ⟨hq, heq | ⟨p', hp'⟩⟩
      · exact absurd (hcs ▸ List.mem_append_right p List.mem_cons_self) (heq ▸ hq)
      · have hcut' := cutLast_eq_some_iff.2 ⟨hp', hq⟩
        rw [hcut, Option.some.injEq, Prod.mk.injEq] at hcut'
        exact hcut'.2

/-! ### The end of a text -/

theorem dropEnd?_eq_some_iff {part cs front : List Char} : dropEnd? part cs = some front ↔ cs = front ++ part := by
  rw [dropEnd?]
  constructor
  · intro h
    split at h
    · next hsuffix =>
      obtain ⟨front', rfl⟩ := List.isSuffixOf_iff_suffix.1 hsuffix
      have hfront : front' = front := by simpa using h
      rw [hfront]
    · cases h
  · rintro rfl
    rw [if_pos (List.isSuffixOf_iff_suffix.2 (List.suffix_append front part))]
    simp

/-! ### White space around a text -/

/-- A text without white space at either end. -/
structure Trimmed (cs : List Char) : Prop where
  head : ∀ c ∈ cs.head?, isBlank c = false
  last : ∀ c ∈ cs.getLast?, isBlank c = false

instance (cs : List Char) : Decidable (Trimmed cs) :=
  decidable_of_iff ((cs.head?.all fun c => !isBlank c) = true ∧ (cs.getLast?.all fun c => !isBlank c) = true) <| by
    rw [Option.all_eq_true, Option.all_eq_true]
    simp only [Bool.not_eq_true']
    exact ⟨fun h => ⟨h.1, h.2⟩, fun h => ⟨h.head, h.last⟩⟩

theorem dropWhile_of_head? {p : Char → Bool} {cs : List Char} (h : ∀ c ∈ cs.head?, p c = false) :
    cs.dropWhile p = cs := by
  cases cs with
  | nil => rfl
  | cons c cs => rw [List.dropWhile_cons, if_neg (by simp [h c rfl])]

theorem trimEnd_append {after : List Char} (ha : ∀ c ∈ after, isBlank c = true) (cs : List Char) :
    trimEnd (cs ++ after) = trimEnd cs := by
  rw [trimEnd, List.reverse_append, List.dropWhile_append_of_pos fun c hc => ha c (List.mem_reverse.1 hc)]
  rfl

theorem Trimmed.trim_append {before cs after : List Char} (h : Trimmed cs) (hb : ∀ c ∈ before, isBlank c = true)
    (ha : ∀ c ∈ after, isBlank c = true) : trim (before ++ cs ++ after) = cs := by
  have hstart : trimStart (before ++ cs ++ after) = trimStart (cs ++ after) := by
    rw [List.append_assoc]
    exact List.dropWhile_append_of_pos hb
  rw [trim, hstart]
  cases hcase : cs with
  | nil =>
    have hnone : trimStart after = [] := List.dropWhile_eq_nil_iff.2 ha
    rw [List.nil_append, hnone]
    rfl
  | cons c l =>
    have hhead : ∀ d ∈ (cs ++ after).head?, isBlank d = false := fun d hd => by
      rw [hcase] at hd
      exact h.head d (by rwa [hcase])
    have hkeep : trimEnd cs = cs := by
      rw [trimEnd, dropWhile_of_head? fun d hd => h.last d (by rwa [List.head?_reverse] at hd), List.reverse_reverse]
    rw [← hcase, trimStart, dropWhile_of_head? hhead, trimEnd_append ha, hkeep]

theorem Trimmed.trim_eq {cs : List Char} (h : Trimmed cs) : trim cs = cs := by
  have hnone : ∀ c ∈ ([] : List Char), isBlank c = true := List.forall_mem_nil _
  simpa using h.trim_append hnone hnone

/-- What is trimmed off a text is white space. -/
theorem exists_trim (cs : List Char) : ∃ before after, (∀ c ∈ before, isBlank c = true) ∧
    (∀ c ∈ after, isBlank c = true) ∧ cs = before ++ trim cs ++ after := by
  have hblank {l : List Char} : ∀ c ∈ l.takeWhile isBlank, isBlank c = true := fun _ => List.mem_takeWhile_imp
  refine ⟨cs.takeWhile isBlank, ((trimStart cs).reverse.takeWhile isBlank).reverse, hblank,
    fun c hc => hblank c (List.mem_reverse.1 hc), ?_⟩
  rw [trim, trimEnd, List.append_assoc, ← List.reverse_append, List.takeWhile_append_dropWhile, List.reverse_reverse,
    trimStart, List.takeWhile_append_dropWhile]

theorem mem_of_mem_trim {c : Char} {cs : List Char} (h : c ∈ trim cs) : c ∈ cs := by
  obtain ⟨before, after, -, -, hcs⟩ := exists_trim cs
  rw [hcs]
  exact List.mem_append_left _ (List.mem_append_right _ h)

theorem trim_surrounded {before cs after : List Char} (hb : ∀ c ∈ before, isBlank c = true)
    (ha : ∀ c ∈ after, isBlank c = true) (hcs : ∀ c ∈ cs, isBlank c = false) :
    trim (before ++ cs ++ after) = cs :=
  have h : Trimmed cs :=
    ⟨fun c hc => hcs c (List.mem_of_mem_head? hc), fun c hc => hcs c (List.mem_of_mem_getLast? hc)⟩
  h.trim_append hb ha

end InterceptAddons.Text
