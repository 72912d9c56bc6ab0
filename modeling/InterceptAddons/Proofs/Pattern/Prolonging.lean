import InterceptAddons.Pattern.Syntax.Reader

/-!
# Reading a source with more behind it

A source between anchors is read as the source alone is, up to its end. Every reader of the syntax answers
the same when `closing` stands behind what it reads, and leaves a rest that is prolonged in the same way, or
not at all, if a comment has taken all that stood behind. `Prolongs` relates two such rests and `Agrees` two
answers; there is one lemma for each reader, from white space up to classes, bounds and groups.

Only where the first reader answers does the second have to, with one exception: a text that begins no named
class is read as a class of another kind, so `readPosix_prolonged` says of refusals too that they agree.
-/

namespace InterceptAddons.Pattern

open InterceptAddons.Text

/-! ### Rests and answers -/

/-- What stands behind a source between anchors: the end of its group, and the end of the text. -/
def closing : List Char := [')', '\\', 'z']

/-- The second text is the first, with `closing` behind it or not. -/
inductive Prolongs : List Char → List Char → Prop
  | same : Prolongs [] []
  | closed : Prolongs [] closing
  | cons (c : Char) {cs cs' : List Char} (h : Prolongs cs cs') : Prolongs (c :: cs) (c :: cs')

theorem Prolongs.append_closing (cs : List Char) : Prolongs cs (cs ++ closing) := by
  induction cs with
  | nil => exact .closed
  | cons c cs ih => exact .cons c ih

/-- Both texts begin with a character other than the first of `closing`, or neither does. -/
theorem Prolongs.head_or {cs cs' : List Char} (h : Prolongs cs cs') (c : Char) (hc : c ≠ ')') :
    (∃ rest rest', cs = c :: rest ∧ cs' = c :: rest' ∧ Prolongs rest rest') ∨
      (∀ rest, cs ≠ c :: rest) ∧ ∀ rest, cs' ≠ c :: rest := by
  cases h with
  | same => exact .inr ⟨nofun, nofun⟩
  | closed => exact .inr ⟨nofun, fun rest hrest => hc (List.cons.inj hrest).1.symm⟩
  | @cons d cs cs' h =>
    by_cases hd : d = c
    · subst hd
      exact .inl ⟨cs, cs', rfl, rfl, h⟩
    · refine .inr ⟨fun rest hrest => hd (List.cons.inj hrest).1, fun rest hrest => hd (List.cons.inj hrest).1⟩

/-- Both texts begin with two characters other than the first of `closing`, or neither does. -/
theorem Prolongs.heads_or {cs cs' : List Char} (h : Prolongs cs cs') (c d : Char) (hc : c ≠ ')') (hd : d ≠ ')') :
    (∃ rest rest', cs = c :: d :: rest ∧ cs' = c :: d :: rest' ∧ Prolongs rest rest') ∨
      (∀ rest, cs ≠ c :: d :: rest) ∧ ∀ rest, cs' ≠ c :: d :: rest := by
  obtain ⟨ds, ds', rfl, rfl, hds⟩ | ⟨hcs, hcs'⟩ := h.head_or c hc
  · obtain ⟨rest, rest', rfl, rfl, hrest⟩ | ⟨hds, hds'⟩ := hds.head_or d hd
    · exact .inl ⟨rest, rest', rfl, rfl, hrest⟩
    · exact .inr ⟨fun rest heq => hds rest (List.cons.inj heq).2, fun rest heq => hds' rest (List.cons.inj heq).2⟩
  · exact .inr ⟨fun _ => hcs _, fun _ => hcs' _⟩

theorem Prolongs.length_le {cs cs' : List Char} (h : Prolongs cs cs') : cs.length ≤ cs'.length := by
  induction h with
  | same => exact Nat.le_refl _
  | closed => exact Nat.zero_le _
  | cons c h ih => exact Nat.succ_le_succ ih

theorem Prolongs.ne_nil {cs cs' : List Char} (h : Prolongs cs cs') (hcs : cs ≠ []) : cs' ≠ [] := by
  cases h with
  | same => exact hcs
  | closed => exact absurd rfl hcs
  | cons c h => exact List.cons_ne_nil c _

/-- What the first reader answers, the second answers too, up to a relation between answers. -/
def Agrees {β : Type} (P : β → β → Prop) (o o' : Option β) : Prop :=
  ∀ x, o = some x → ∃ y, o' = some y ∧ P x y

/-- Pairs with one and the same first part and second parts that are related. -/
def Beside {α β : Type} (P : β → β → Prop) (x y : α × β) : Prop := x.1 = y.1 ∧ P x.2 y.2

namespace Agrees

variable {α β : Type} {P : α → α → Prop} {Q : β → β → Prop} {o o' : Option α}

theorem none (o : Option α) : Agrees P none o := fun _ h => absurd h nofun

theorem some {x y : α} (h : P x y) : Agrees P (some x) (some y) := by
  rintro _ ⟨⟩
  exact ⟨y, rfl, h⟩

theorem bind {f f' : α → Option β} (h : Agrees P o o')
    (hf : ∀ x y, P x y → Agrees Q (f x) (f' y)) : Agrees Q (o.bind f) (o'.bind f') := by
  intro z hz
  obtain ⟨x, hx, hz⟩ := Option.bind_eq_some_iff.1 hz
  obtain ⟨y, hy, hxy⟩ := h x hx
  rw [hy]
  exact hf x y hxy z hz

theorem map {f f' : α → β} (h : Agrees P o o') (hf : ∀ x y, P x y → Q (f x) (f' y)) :
    Agrees Q (o.map f) (o'.map f') := by
  rw [Option.map_eq_bind, Option.map_eq_bind]
  exact h.bind fun x y hxy => .some (hf x y hxy)

theorem refl (hP : ∀ x, P x x) (o : Option α) : Agrees P o o := fun x h => ⟨x, h, hP x⟩

end Agrees

/-! ### Layout -/

theorem isBlank_closing : isBlank ')' = false := by decide

namespace Prolongs

variable {cs cs' : List Char}

theorem dropLayout (h : Prolongs cs cs') (inComment : Bool) :
    Prolongs (dropLayout inComment cs) (dropLayout inComment cs') := by
  induction h generalizing inComment with
  | same => cases inComment <;> exact .same
  | closed =>
    cases inComment with
    | true => exact .same
    | false => exact .closed
  | cons c h ih =>
    cases inComment with
    | true => exact ih _
    | false =>
      simp only [Pattern.dropLayout]
      split
      · exact ih _
      · split
        · exact ih _
        · exact .cons c h

theorem skip (h : Prolongs cs cs') (verbose : Bool) : Prolongs (skip verbose cs) (skip verbose cs') := by
  cases verbose with
  | true => exact h.dropLayout false
  | false => exact h

/-- What is looked at without moving stays the same as long as there is something to look at. -/
theorem peekPastBlank (h : Prolongs cs cs') (seen : Bool) :
    Pattern.peekPastBlank seen cs' = Pattern.peekPastBlank seen cs ∨
      Pattern.peekPastBlank seen cs = none ∧ Pattern.peekPastBlank seen cs' = some ')' := by
  induction h generalizing seen with
  | same => exact .inl rfl
  | closed => exact .inr ⟨by cases seen <;> rfl, by cases seen <;> rfl⟩
  | cons c h ih =>
    simp only [Pattern.peekPastBlank]
    split
    · exact ih _
    · split
      · exact ih _
      · exact .inl rfl

theorem peek (h : Prolongs cs cs') (verbose : Bool) :
    Pattern.peek verbose cs' = Pattern.peek verbose cs ∨
      Pattern.peek verbose cs = none ∧ Pattern.peek verbose cs' = some ')' := by
  cases verbose with
  | true => exact h.peekPastBlank false
  | false =>
    cases h with
    | same => exact .inl rfl
    | closed => exact .inr ⟨rfl, rfl⟩
    | cons c h => exact .inl rfl

theorem peek_beq (h : Prolongs cs cs') (verbose : Bool) {c : Char} (hc : c ≠ ')') :
    (Pattern.peek verbose cs' == some c) = (Pattern.peek verbose cs == some c) := by
  obtain heq | ⟨hnone, hsome⟩ := h.peek verbose
  · rw [heq]
  · rw [hnone, hsome]
    exact beq_eq_false_iff_ne.2 fun h => hc (Option.some.inj h).symm

theorem dropBlanks (h : Prolongs cs cs') (verbose : Bool) :
    Prolongs (dropBlanks verbose cs) (dropBlanks verbose cs') := by
  induction cs using dropBlanks.induct verbose generalizing cs' with
  | case1 =>
    cases h with
    | same => rw [Pattern.dropBlanks]; exact .same
    | closed =>
      rw [Pattern.dropBlanks, closing, Pattern.dropBlanks, if_neg (by simp [isBlank_closing])]
      exact .closed
  | case2 c cs hc ih =>
    cases h with
    | cons _ h =>
      rw [Pattern.dropBlanks, Pattern.dropBlanks, if_pos hc, if_pos hc]
      exact ih (h.skip verbose)
  | case3 c cs hc =>
    cases h with
    | cons _ h =>
      rw [Pattern.dropBlanks, Pattern.dropBlanks, if_neg hc, if_neg hc]
      exact .cons c h

/-- Characters are taken up to the same place, if that is before the end. -/
theorem takeSpaced (h : Prolongs cs cs') (verbose : Bool) {p : Char → Bool}
    (hp : p ')' = false ∨ (takeSpaced verbose p cs).2 ≠ []) :
    Beside Prolongs (takeSpaced verbose p cs) (takeSpaced verbose p cs') := by
  induction cs using takeSpaced.induct verbose p generalizing cs' with
  | case1 =>
    have hclose : p ')' = false := hp.resolve_right (by simp [Pattern.takeSpaced])
    cases h with
    | same => exact ⟨rfl, by rw [Pattern.takeSpaced]; exact .same⟩
    | closed =>
      rw [closing, Pattern.takeSpaced, Pattern.takeSpaced, if_neg (by simp [hclose])]
      exact ⟨rfl, .closed⟩
  | case2 c cs hc taken rest hrest ih =>
    cases h with
    | cons _ h =>
      rw [Pattern.takeSpaced, if_pos hc] at hp ⊢
      rw [Pattern.takeSpaced, if_pos hc]
      obtain ⟨htaken, hrest⟩ := ih (h.skip verbose) hp
      exact ⟨congrArg (c :: ·) htaken, hrest⟩
  | case3 c cs hc =>
    cases h with
    | cons _ h =>
      rw [Pattern.takeSpaced, Pattern.takeSpaced, if_neg hc, if_neg hc]
      exact ⟨rfl, .cons c h⟩

/-- Characters of one kind end at the same place, if that is before the end. -/
theorem dropWhile (h : Prolongs cs cs') {p : Char → Bool} (hp : p ')' = false ∨ cs.dropWhile p ≠ []) :
    cs'.takeWhile p = cs.takeWhile p ∧ Prolongs (cs.dropWhile p) (cs'.dropWhile p) := by
  induction h with
  | same => exact ⟨rfl, .same⟩
  | closed =>
    have hclose : ¬ p ')' = true := by simpa using hp
    rw [closing, List.takeWhile_cons_of_neg hclose, List.dropWhile_cons_of_neg hclose]
    exact ⟨rfl, .closed⟩
  | cons c h ih =>
    cases hc : p c with
    | true =>
      rw [List.dropWhile_cons_of_pos hc] at hp ⊢
      obtain ⟨htake, hdrop⟩ := ih hp
      rw [List.dropWhile_cons_of_pos hc, List.takeWhile_cons_of_pos hc, List.takeWhile_cons_of_pos hc, htake]
      exact ⟨rfl, hdrop⟩
    | false =>
      have hc' : ¬ p c = true := by simp [hc]
      rw [List.dropWhile_cons_of_neg hc', List.dropWhile_cons_of_neg hc', List.takeWhile_cons_of_neg hc',
        List.takeWhile_cons_of_neg hc']
      exact ⟨rfl, .cons c h⟩

/-- Characters that `closing` may continue end at the same place, or nowhere. -/
theorem dropWhile_of_closing (h : Prolongs cs cs') {p : Char → Bool} (hp : closing.dropWhile p = []) :
    Prolongs (cs.dropWhile p) (cs'.dropWhile p) := by
  induction h with
  | same => exact .same
  | closed => rw [hp]; exact .same
  | cons c h ih =>
    rw [List.dropWhile_cons, List.dropWhile_cons]
    split
    · exact ih
    · exact .cons c h

theorem readDecimal (h : Prolongs cs cs') (verbose : Bool) :
    Beside Prolongs (readDecimal verbose cs) (readDecimal verbose cs') := by
  have hblank := (h.dropWhile (.inl isBlank_closing)).2
  obtain ⟨hdigits, hrest⟩ := hblank.takeSpaced verbose (p := Char.isDigit) (.inl rfl)
  refine ⟨?_, hrest.dropBlanks verbose⟩
  simp only [Pattern.readDecimal, hdigits]

end Prolongs

/-! ### Escapes -/

section Escapes

variable {cs cs' : List Char} (verbose : Bool)

theorem readHexDigits_prolonged (n : Nat) (h : Prolongs cs cs') :
    Agrees (Beside Prolongs) (readHexDigits verbose n cs) (readHexDigits verbose n cs') := by
  induction n generalizing cs cs' with
  | zero => exact .some ⟨rfl, h⟩
  | succ n ih =>
    cases h with
    | same => exact .none _
    | closed => exact .none _
    | cons c h =>
      simp only [readHexDigits]
      split
      · refine (ih (h.skip verbose)).map ?_
        rintro ⟨ds, rest⟩ ⟨_, rest'⟩ ⟨rfl, hrest⟩
        exact ⟨rfl, hrest⟩
      · exact .none _

theorem readHex_prolonged (width : Nat) (h : Prolongs cs cs') :
    Agrees (Beside Prolongs) (readHex verbose width cs) (readHex verbose width cs') := by
  unfold readHex
  obtain ⟨rest, rest', hcs, hcs', hrest⟩ | ⟨hcs, hcs'⟩ := (h.skip verbose).head_or '\x7b' (by decide)
  · obtain ⟨hdigits, hrest⟩ := (hrest.skip verbose).takeSpaced verbose (p := isHexDigit) (.inl rfl)
    simp only [hcs, hcs', hdigits]
    obtain ⟨more, more', hmore, hmore', hrest⟩ | ⟨hmore, -⟩ := hrest.head_or '\x7d' (by decide)
    · simp only [hmore, hmore']
      split
      · exact .none _
      · exact (Agrees.refl Eq.refl _).map fun _ _ hc => hc ▸ ⟨rfl, hrest.skip verbose⟩
    · split
      · next heq => exact absurd heq (hmore _)
      · exact .none _
  · -- neither text opens a brace, so both are read as digits of a fixed number
    simp only
    refine (readHexDigits_prolonged verbose width (h.skip verbose)).bind ?_
    rintro ⟨digits, rest⟩ ⟨_, rest'⟩ ⟨rfl, hrest⟩
    exact (Agrees.refl Eq.refl _).bind fun _ _ hc => hc ▸ .some ⟨rfl, hrest⟩

theorem readProperty_prolonged (h : Prolongs cs cs') :
    Agrees (Beside Prolongs) (readProperty verbose cs) (readProperty verbose cs') := by
  unfold readProperty
  have hskip := h.skip verbose
  generalize skip verbose cs = ds at hskip ⊢
  generalize skip verbose cs' = ds' at hskip ⊢
  cases hskip with
  | same => exact .none _
  | closed => exact .none _
  | @cons c ds ds' h =>
    by_cases hbrace : c = '\x7b'
    · subst hbrace
      -- a name may hold the first character of `closing`, but not where it has a brace behind it
      have htake := (h.skip verbose).takeSpaced verbose (p := (· != '\x7d'))
      simp only
      generalize takeSpaced verbose (· != '\x7d') (skip verbose ds) = x at htake ⊢
      generalize takeSpaced verbose (· != '\x7d') (skip verbose ds') = y at htake ⊢
      obtain ⟨name, _ | ⟨c, rest⟩⟩ := x
      · exact .none _
      · obtain ⟨name', rest'⟩ := y
        obtain ⟨hname, hrest⟩ := htake (.inr (List.cons_ne_nil c rest))
        cases hrest with
        | cons _ hrest => exact .some ⟨congrArg propertyName hname, hrest⟩
    · by_cases hback : c = '\\'
      · subst hback
        exact .none _
      · simp only
        exact .some ⟨rfl, h.skip verbose⟩

theorem readBoundary_prolonged (h : Prolongs cs cs') :
    Agrees (Beside Prolongs) (readBoundary verbose cs) (readBoundary verbose cs') := by
  unfold readBoundary
  obtain ⟨inner, inner', rfl, rfl, hinner⟩ | ⟨hcs, hcs'⟩ := h.head_or '\x7b' (by decide)
  · have hskip := hinner.skip verbose
    simp only
    generalize skip verbose inner = ds at hskip ⊢
    generalize skip verbose inner' = ds' at hskip ⊢
    cases hskip with
    | same => exact .none _
    | closed => exact .none _
    | @cons c ds ds' hrest =>
      simp only
      split
      · obtain ⟨hname, hrest⟩ :=
          (hrest.cons c).takeSpaced verbose (p := isBoundaryNameChar) (.inl rfl)
        rw [hname]
        obtain ⟨rest, rest', hmore, hmore', hrest⟩ | ⟨hmore, -⟩ := hrest.head_or '\x7d' (by decide)
        · simp only [hmore, hmore']
          split
          all_goals first | exact .none _ | exact .some ⟨rfl, hrest⟩
        · split
          · next heq => exact absurd heq (hmore _)
          · exact .none _
      · exact .some ⟨rfl, h⟩
  · simp only
    exact .some ⟨rfl, h⟩

theorem readEscape_prolonged (h : Prolongs cs cs') :
    Agrees (Beside Prolongs) (readEscape verbose cs) (readEscape verbose cs') := by
  cases h with
  | same => exact .none _
  | closed => exact .none _
  | cons c h =>
    have hread {α : Type} (f : α → Primitive) {o o' : Option (α × List Char)}
        (ho : Agrees (Beside Prolongs) o o') : Agrees (Beside Prolongs)
          (o.map fun x => (f x.1, x.2)) (o'.map fun x => (f x.1, x.2)) :=
      ho.map fun _ _ hxy => ⟨congrArg f hxy.1, hxy.2⟩
    simp only [readEscape]
    split
    -- most escapes are one character long
    all_goals first | exact .some ⟨rfl, h⟩ | skip
    · exact hread .literal (readHex_prolonged verbose 2 h)
    · exact hread .literal (readHex_prolonged verbose 4 h)
    · exact hread .literal (readHex_prolonged verbose 8 h)
    · exact hread (.property · false) (readProperty_prolonged verbose h)
    · exact hread (.property · true) (readProperty_prolonged verbose h)
    · exact hread .assertion (readBoundary_prolonged verbose h)
    · split
      · exact .some ⟨rfl, h⟩
      · exact .none _

end Escapes

/-! ### Classes -/

section Classes

variable {cs cs' : List Char} (verbose : Bool)

theorem readCaret_prolonged (h : Prolongs cs cs') : Beside Prolongs (readCaret cs) (readCaret cs') := by
  obtain ⟨rest, rest', rfl, rfl, hrest⟩ | ⟨hcs, hcs'⟩ := h.head_or '^' (by decide)
  · exact ⟨rfl, hrest⟩
  · simp only [readCaret]
    exact ⟨rfl, h⟩

/-- A text that begins no named class begins none either with `closing` behind it, which has no colon. -/
theorem readPosix_prolonged (h : Prolongs cs cs') :
    Option.Rel (Beside Prolongs) (readPosix cs) (readPosix cs') := by
  unfold readPosix
  obtain ⟨cs, cs', rfl, rfl, hcs⟩ | ⟨hcs, hcs'⟩ := h.head_or ':' (by decide)
  · have hcaret := readCaret_prolonged hcs
    simp only
    generalize readCaret cs = x at hcaret ⊢
    generalize readCaret cs' = y at hcaret ⊢
    obtain ⟨negated, cs⟩ := x
    obtain ⟨_, cs'⟩ := y
    obtain ⟨rfl, hcs⟩ := hcaret
    have hdrop : Prolongs (cs.dropWhile (· != ':')) (cs'.dropWhile (· != ':')) :=
      Prolongs.dropWhile_of_closing hcs rfl
    simp only
    obtain ⟨rest, rest', hend, hend', hrest⟩ | ⟨hend, hend'⟩ := hdrop.heads_or ':' ']' (by decide) (by decide)
    · have hname := (Prolongs.dropWhile hcs (.inr (by rw [hend]; exact List.cons_ne_nil _ _))).1
      simp only [hend, hend', hname]
      cases PosixClass.ofName? (String.ofList (cs.takeWhile (· != ':'))) with
      | none => exact .none
      | some k => exact .some ⟨rfl, hrest⟩
    · simp only
      exact .none
  · simp only
    exact .none

theorem openClass_prolonged (h : Prolongs cs cs') :
    Agrees (Beside (Beside Prolongs)) (openClass verbose cs) (openClass verbose cs') := by
  have hcaret := readCaret_prolonged (h.skip verbose)
  have hrest := (hcaret.2.skip verbose).takeSpaced verbose (p := (· == '-')) (.inl rfl)
  simp only [openClass, hcaret.1]
  generalize takeSpaced verbose (· == '-') (skip verbose (readCaret (skip verbose cs)).2) = x at hrest ⊢
  generalize takeSpaced verbose (· == '-') (skip verbose (readCaret (skip verbose cs')).2) = y at hrest ⊢
  obtain ⟨hyphens, rest⟩ := x
  obtain ⟨_, rest'⟩ := y
  obtain ⟨rfl, hrest⟩ := hrest
  simp only at hrest ⊢
  cases hrest with
  | same =>
    simp only
    exact .none _
  | closed =>
    simp only
    exact .none _
  | @cons c more more' hmore =>
    cases hyphens with
    | cons d hyphens => exact .some ⟨rfl, rfl, hmore.cons c⟩
    | nil =>
      simp only [List.map_nil]
      by_cases hc : c = ']'
      · subst hc
        have hskip := hmore.skip verbose
        simp only
        generalize skip verbose more = ds at hskip ⊢
        generalize skip verbose more' = ds' at hskip ⊢
        cases hskip with
        | same => exact .none _
        | closed => exact .none _
        | cons c h => exact .some ⟨rfl, rfl, h.cons c⟩
      · simp only [List.cons.injEq, hc, false_and, false_imp_iff, imp_true_iff]
        exact .some ⟨rfl, rfl, hmore.cons c⟩

theorem readClassPrimitive_prolonged (h : Prolongs cs cs') :
    Agrees (Beside Prolongs) (readClassPrimitive verbose cs) (readClassPrimitive verbose cs') := by
  cases h with
  | same => exact .none _
  | closed => exact .none _
  | cons c h =>
    by_cases hback : c = '\\'
    · subst hback
      exact readEscape_prolonged verbose h
    · simp only [readClassPrimitive]
      exact .some ⟨rfl, h⟩

theorem readClassItem_prolonged (h : Prolongs cs cs') :
    Agrees (Beside Prolongs) (readClassItem verbose cs) (readClassItem verbose cs') := by
  refine (readClassPrimitive_prolonged verbose h).bind ?_
  rintro ⟨first, cs⟩ ⟨_, cs'⟩ ⟨rfl, h⟩
  have hskip := h.skip verbose
  simp only
  generalize skip verbose cs = ds at hskip ⊢
  generalize skip verbose cs' = ds' at hskip ⊢
  by_cases hnil : ds = []
  · subst hnil
    exact .none _
  · obtain ⟨rest, rest', rfl, rfl, hrest⟩ | ⟨hds, hds'⟩ := hskip.head_or '-' (by decide)
    · simp only [hrest.peek_beq verbose (show ']' ≠ ')' by decide),
        hrest.peek_beq verbose (show '-' ≠ ')' by decide)]
      split
      · exact (Agrees.refl Eq.refl _).bind fun _ _ hx => .some ⟨hx, hrest.cons '-'⟩
      · refine (readClassPrimitive_prolonged verbose (hrest.skip verbose)).bind ?_
        rintro ⟨second, rest⟩ ⟨_, rest'⟩ ⟨rfl, hrest⟩
        simp only
        split
        · split
          · exact .some ⟨rfl, hrest⟩
          · exact .none _
        · exact .none _
    · have hnil' := hskip.ne_nil hnil
      simp only
      exact (Agrees.refl Eq.refl _).bind fun _ _ hx => .some ⟨hx, hskip⟩

theorem readClassItems_prolonged {n m : Nat} (hn : n ≤ m) (stack : List ClassFrame) (items : List ClassSet)
    (h : Prolongs cs cs') : Agrees (Beside (Beside Prolongs))
      (readClassItems verbose n stack items cs) (readClassItems verbose m stack items cs') := by
  induction n generalizing m stack items cs cs' with
  | zero => exact .none _
  | succ n ih =>
    obtain ⟨m, rfl⟩ := Nat.exists_eq_add_of_le' (Nat.le_trans (Nat.le_add_left 1 n) hn)
    have hm : n ≤ m := Nat.le_of_succ_le_succ hn
    -- the cases are those of the reader, each with what both texts begin with
    have hskip := h.skip verbose
    simp only [readClassItems]
    generalize skip verbose cs = ds at hskip ⊢
    generalize skip verbose cs' = ds' at hskip ⊢
    by_cases hnil : ds = []
    · subst hnil
      exact .none _
    have hnil' := hskip.ne_nil hnil
    obtain ⟨rest, rest', rfl, rfl, hrest⟩ | ⟨hopen, hopen'⟩ := hskip.head_or '[' (by decide)
    · simp only
      have hposix := readPosix_prolonged hrest
      generalize readPosix rest = o at hposix ⊢
      generalize readPosix rest' = o' at hposix ⊢
      cases hposix with
      | none =>
        refine (openClass_prolonged verbose hrest).bind ?_
        rintro ⟨negated, inner, rest⟩ ⟨_, _, rest'⟩ ⟨rfl, rfl, hrest⟩
        exact ih hm _ _ hrest
      | @some x y hposix =>
        obtain ⟨s, rest⟩ := x
        obtain ⟨_, rest'⟩ := y
        obtain ⟨rfl, hrest⟩ := hposix
        exact ih hm _ _ hrest
    obtain ⟨rest, rest', rfl, rfl, hrest⟩ | ⟨hclose, hclose'⟩ := hskip.head_or ']' (by decide)
    · simp only
      split
      · exact .some ⟨rfl, rfl, hrest⟩
      · exact ih hm _ _ hrest
      · exact .none _
    obtain ⟨rest, rest', rfl, rfl, hrest⟩ | ⟨hand, hand'⟩ := hskip.heads_or '&' '&' (by decide) (by decide)
    · exact ih hm _ _ hrest
    obtain ⟨rest, rest', rfl, rfl, hrest⟩ | ⟨hminus, hminus'⟩ := hskip.heads_or '-' '-' (by decide) (by decide)
    · exact ih hm _ _ hrest
    obtain ⟨rest, rest', rfl, rfl, hrest⟩ | ⟨htilde, htilde'⟩ := hskip.heads_or '~' '~' (by decide) (by decide)
    · exact ih hm _ _ hrest
    simp only
    refine (readClassItem_prolonged verbose hskip).bind ?_
    rintro ⟨s, rest⟩ ⟨_, rest'⟩ ⟨rfl, hrest⟩
    exact ih hm _ _ hrest

theorem readClass_prolonged (h : Prolongs cs cs') :
    Agrees (Beside (Beside Prolongs)) (readClass verbose cs) (readClass verbose cs') := by
  refine (openClass_prolonged verbose h).bind ?_
  rintro ⟨negated, items, rest⟩ ⟨_, _, rest'⟩ ⟨rfl, rfl, hrest⟩
  exact readClassItems_prolonged verbose (Nat.succ_le_succ h.length_le) _ _ hrest

end Classes

/-! ### Bounds and groups -/

section Groups

variable {cs cs' : List Char} (verbose : Bool)

theorem readGreed_prolonged (h : Prolongs cs cs') : Beside Prolongs (readGreed cs) (readGreed cs') := by
  obtain ⟨rest, rest', rfl, rfl, hrest⟩ | ⟨hcs, hcs'⟩ := h.head_or '?' (by decide)
  · exact ⟨rfl, hrest⟩
  · simp only [readGreed]
    exact ⟨rfl, h⟩

theorem readRange_prolonged (h : Prolongs cs cs') :
    Agrees (Beside (Beside Prolongs)) (readRange verbose cs) (readRange verbose cs') := by
  have hleast := (h.skip verbose).readDecimal verbose
  unfold readRange
  generalize readDecimal verbose (skip verbose cs) = x at hleast ⊢
  generalize readDecimal verbose (skip verbose cs') = y at hleast ⊢
  obtain ⟨least, cs⟩ := x
  obtain ⟨_, cs'⟩ := y
  obtain ⟨rfl, hcs⟩ := hleast
  simp only at hcs ⊢
  obtain ⟨rest, rest', rfl, rfl, hrest⟩ | ⟨hcomma, hcomma'⟩ := hcs.head_or ',' (by decide)
  · have hskip := hrest.skip verbose
    simp only
    generalize skip verbose rest = ds at hskip ⊢
    generalize skip verbose rest' = ds' at hskip ⊢
    obtain ⟨more, more', rfl, rfl, hmore⟩ | ⟨hclose, hclose'⟩ := hskip.head_or '\x7d' (by decide)
    · exact (Agrees.refl Eq.refl least).map fun _ _ hn => ⟨hn, rfl, hmore.cons _⟩
    · obtain ⟨hmost, hrest⟩ := hskip.readDecimal verbose
      simp only [hmost]
      refine (Agrees.refl Eq.refl least).bind fun n _ hn => ?_
      exact (Agrees.refl Eq.refl _).bind fun m _ hm => .some ⟨hn, congrArg some hm, hrest⟩
  · simp only
    exact (Agrees.refl Eq.refl least).map fun _ _ hn => ⟨hn, congrArg some hn, hcs⟩

theorem readBounds_prolonged (h : Prolongs cs cs') :
    Agrees (Beside (Beside (Beside Prolongs))) (readBounds verbose cs) (readBounds verbose cs') := by
  refine (readRange_prolonged verbose h).bind ?_
  rintro ⟨least, most, cs⟩ ⟨_, _, cs'⟩ ⟨rfl, rfl, hcs⟩
  simp only at hcs ⊢
  obtain ⟨more, more', rfl, rfl, hmore⟩ | ⟨hclose, hclose'⟩ := hcs.head_or '\x7d' (by decide)
  · simp only
    split
    · exact .none _
    · obtain ⟨rest, rest', hlazy, hlazy', hrest⟩ | ⟨hlazy, hlazy'⟩ := (hmore.skip verbose).head_or '?' (by decide)
      · simp only [hlazy, hlazy']
        exact .some ⟨rfl, rfl, rfl, hrest⟩
      · simp only
        exact .some ⟨rfl, rfl, rfl, hmore⟩
  · simp only
    exact .none _

theorem readFlags_prolonged (off dangling : Bool) (changes : FlagChanges) (h : Prolongs cs cs') :
    Agrees (Beside Prolongs) (readFlags off dangling changes cs) (readFlags off dangling changes cs') := by
  induction h generalizing off dangling changes with
  | same => exact .none _
  | closed => exact .none _
  | cons c h ih =>
    simp only [readFlags]
    split
    · split
      · exact .none _
      · exact .some ⟨rfl, h.cons c⟩
    · split
      · split
        · exact .none _
        · exact ih _ _ _
      · split
        · exact .none _
        · split
          · exact .none _
          · exact ih _ _ _

theorem readName_prolonged (h : Prolongs cs cs') :
    Agrees (Beside Prolongs) (readName cs) (readName cs') := by
  cases h with
  | same => exact .none _
  | closed => exact .none _
  | @cons c cs cs' h =>
    simp only [readName]
    split
    · exact .none _
    · by_cases hend : cs.dropWhile (isNameChar false) = []
      · simp only [hend]
        exact .none _
      · obtain ⟨hname, hrest⟩ := h.dropWhile (p := isNameChar false) (.inr hend)
        obtain ⟨rest, rest', hmore, hmore', hrest⟩ | ⟨hmore, -⟩ := hrest.head_or '>' (by decide)
        · simp only [hmore, hmore', hname]
          exact .some ⟨rfl, hrest⟩
        · split
          · next heq => exact absurd heq (hmore _)
          · exact .none _

theorem readGroupStart_prolonged (h : Prolongs cs cs') :
    Agrees (Beside Prolongs) (readGroupStart verbose cs) (readGroupStart verbose cs') := by
  have hname {rest rest' : List Char} (hrest : Prolongs rest rest') : Agrees (Beside Prolongs)
      ((readName rest).map fun x => (GroupStart.group true [] (some x.1), x.2))
      ((readName rest').map fun x => (GroupStart.group true [] (some x.1), x.2)) :=
    (readName_prolonged hrest).map fun _ _ hxy => ⟨by rw [hxy.1], hxy.2⟩
  have hskip := h.skip verbose
  unfold readGroupStart
  generalize skip verbose cs = ds at hskip ⊢
  generalize skip verbose cs' = ds' at hskip ⊢
  obtain ⟨ds, ds', rfl, rfl, hds⟩ | ⟨hopen, hopen'⟩ := hskip.head_or '?' (by decide)
  · obtain ⟨rest, rest', rfl, rfl, hrest⟩ | ⟨hnamed, hnamed'⟩ := hds.heads_or 'P' '<' (by decide) (by decide)
    · exact hname hrest
    obtain ⟨rest, rest', rfl, rfl, -⟩ | ⟨hahead, hahead'⟩ := hds.head_or '=' (by decide)
    · exact .none _
    obtain ⟨rest, rest', rfl, rfl, -⟩ | ⟨hnot, hnot'⟩ := hds.head_or '!' (by decide)
    · exact .none _
    obtain ⟨rest, rest', rfl, rfl, hrest⟩ | ⟨hangle, hangle'⟩ := hds.head_or '<' (by decide)
    · obtain ⟨rest, rest', rfl, rfl, -⟩ | ⟨hbehind, hbehind'⟩ := hrest.head_or '=' (by decide)
      · exact .none _
      obtain ⟨rest, rest', rfl, rfl, -⟩ | ⟨hnbehind, hnbehind'⟩ := hrest.head_or '!' (by decide)
      · exact .none _
      simp only
      exact hname hrest
    -- what is left are flags, which end before the end of the source
    simp only [hangle, hangle', imp_self, implies_true]
    have hflags := readFlags_prolonged false false [] hds
    rcases hread : readFlags false false [] ds with _ | ⟨changes, after⟩
    · exact .none _
    · obtain ⟨⟨_, after'⟩, hread', rfl, hafter⟩ := hflags _ hread
      simp only at hafter
      rw [hread']
      obtain ⟨rest, rest', rfl, rfl, hrest⟩ | ⟨hcolon, hcolon'⟩ := hafter.head_or ':' (by decide)
      · exact .some ⟨rfl, hrest⟩
      · cases hafter with
        | same => exact .none _
        | closed => exact .none _
        | @cons c after after' hafter =>
          by_cases hc : c = ')'
          · subst hc
            have hhead : ds'.head? = ds.head? := by
              cases hds with
              | same => rfl
              | closed => exact absurd hread nofun
              | cons c h => rfl
            simp only [hhead]
            split
            · exact .none _
            · exact .some ⟨rfl, hafter⟩
          · have hcolon : c ≠ ':' := fun h => hcolon after (by rw [h])
            simp only [Option.some.injEq, Prod.mk.injEq, List.cons.injEq, hc, hcolon, false_and, and_false, imp_self,
              implies_true]
            exact .none _
  · simp only [hopen, hopen', imp_self, implies_true]
    exact .some ⟨rfl, hskip⟩

end Groups

end InterceptAddons.Pattern
