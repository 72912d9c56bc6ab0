import InterceptAddons.Filter.Parser
import InterceptAddons.Proofs.Filter.Lexing
import InterceptAddons.Proofs.Results

/-!
# Places in filter texts

Tokens and errors carry octets of the text. `At text pos rest`: at octet `pos` of the text the characters `rest` are
left. Main statement: `parse_places`, all octets that come up lie between two characters of the text, and the error for
a text that can be cut into tokens is found at the start of one of them.

For the tokens, every place that `lexFrom` comes to is followed (`Visits`). For the reader, `Progress.Within` says that
all unfinished forms start at octets of some kind, which every step keeps (`step_within`).
-/

namespace InterceptAddons.Filter

open InterceptAddons.Text

/-! ### Slices -/

/-- The part of a text between two octets; none unless both lie in the text, in this order and inside no character. -/
def slice? (text : String) (first last : Nat) : Option String :=
  (text.pos? ⟨first⟩).bind fun p => (text.pos? ⟨last⟩).bind fun q => (text.slice? p q).map String.Slice.copy

theorem byteSize_eq (cs : List Char) : byteSize cs = (String.ofList cs).utf8ByteSize := by
  induction cs with
  | nil => rfl
  | cons c cs ih => rw [byteSize, ih, String.ofList_cons, String.utf8ByteSize_append, String.utf8ByteSize_singleton]

/-- At octet `pos` of a text the characters `rest` are left. -/
def At (text : List Char) (pos : Nat) (rest : List Char) : Prop := ∃ front, text = front ++ rest ∧ pos = byteSize front

namespace At

variable {pos : Nat} {rest : List Char}

theorem zero (text : List Char) : At text 0 text := ⟨[], rfl, rfl⟩

theorem drop {text w : List Char} (h : At text pos (w ++ rest)) : At text (pos + byteSize w) rest := by
  obtain ⟨front, rfl, rfl⟩ := h
  exact ⟨front ++ w, (List.append_assoc ..).symm, (byteSize_append front w).symm⟩

theorem add_byteSize {text : List Char} (h : At text pos rest) : pos + byteSize rest = byteSize text := by
  obtain ⟨front, rfl, rfl⟩ := h
  exact (byteSize_append front rest).symm

/-- An octet is the place of one rest only. -/
theorem unique {text rest' : List Char} (h : At text pos rest) (h' : At text pos rest') : rest = rest' := by
  have key {cs rest : List Char} (hs : byteSize (cs ++ rest) = byteSize rest) : cs ++ rest = rest := by
    cases cs with
    | nil => rfl
    | cons c cs =>
      rw [List.cons_append, byteSize, byteSize_append] at hs
      have := c.utf8Size_pos
      omega
  have hsize : byteSize rest = byteSize rest' := Nat.add_left_cancel (h.add_byteSize.trans h'.add_byteSize.symm)
  obtain ⟨front, htext, -⟩ := h
  obtain ⟨front', htext', -⟩ := h'
  rcases List.append_eq_append_iff.1 (htext.symm.trans htext') with ⟨cs, -, rfl⟩ | ⟨cs, -, rfl⟩
  · exact key hsize
  · exact (key hsize.symm).symm

variable {text : String}

theorem add_byteSize_eq (h : At text.toList pos rest) : pos + byteSize rest = text.utf8ByteSize := by
  rw [h.add_byteSize, byteSize_eq, String.ofList_toList]

theorem isValid (h : At text.toList pos rest) : String.Pos.Raw.IsValid text ⟨pos⟩ := by
  obtain ⟨front, htext, rfl⟩ := h
  refine String.Pos.Raw.isValid_iff_exists_append.2 ⟨String.ofList front, String.ofList rest, ?_, ?_⟩
  · rw [← String.ofList_append, ← htext, String.ofList_toList]
  · rw [byteSize_eq]
    rfl

theorem pos?_eq (h : At text.toList pos rest) : text.pos? ⟨pos⟩ = some ⟨⟨pos⟩, h.isValid⟩ := by
  have hv : String.Pos.Raw.isValidForSlice text.toSlice ⟨pos⟩ = true :=
    String.Pos.Raw.isValidForSlice_eq_true_iff.2 (String.Pos.Raw.isValidForSlice_toSlice_iff.2 h.isValid)
  rw [String.pos?, String.Slice.pos?, dif_pos hv]
  rfl

/-- What is left at a place can be cut out of the text from there on. -/
theorem slice?_eq {w : List Char} (h : At text.toList pos (w ++ rest)) :
    slice? text pos (pos + byteSize w) = some (String.ofList w) := by
  rw [slice?, h.pos?_eq, h.drop.pos?_eq, Option.bind_some, Option.bind_some, Option.map_eq_some_iff]
  obtain ⟨front, htext, hpos⟩ := id h
  have hsplit : text = String.ofList front ++ (String.ofList w ++ String.ofList rest) := by
    rw [← String.ofList_append, ← String.ofList_append, ← htext, String.ofList_toList]
  have hfirst : pos = (String.ofList front).utf8ByteSize := by rw [hpos, byteSize_eq]
  have hlast : pos + byteSize w = (String.ofList front ++ String.ofList w).utf8ByteSize := by
    rw [String.utf8ByteSize_append, ← hfirst, byteSize_eq]
  have hp : String.Pos.Splits ⟨⟨pos⟩, h.isValid⟩ (String.ofList front) (String.ofList w ++ String.ofList rest) :=
    ⟨hsplit, congrArg String.Pos.Raw.mk hfirst⟩
  have hq : String.Pos.Splits ⟨⟨pos + byteSize w⟩, h.drop.isValid⟩ (String.ofList front ++ String.ofList w)
      (String.ofList rest) := ⟨hsplit.trans (String.append_assoc ..).symm, congrArg String.Pos.Raw.mk hlast⟩
  obtain ⟨hle, hcopy⟩ := String.copy_slice_eq_iff_splits.2 ⟨_, _, hp, hq⟩
  exact ⟨_, dif_pos hle, hcopy⟩

end At

/-! ### Scanning -/

/-- Octet `n` is a place in `cs`, which starts at octet `pos`. -/
def PlaceIn (cs : List Char) (pos n : Nat) : Prop := ∃ w rest, cs = w ++ rest ∧ n = pos + byteSize w

namespace PlaceIn

variable {cs : List Char} {pos n : Nat}

theorem start (cs : List Char) (pos : Nat) : PlaceIn cs pos pos := ⟨[], cs, rfl, rfl⟩

theorem append {w : List Char} (h : PlaceIn cs (pos + byteSize w) n) : PlaceIn (w ++ cs) pos n := by
  obtain ⟨v, rest, rfl, rfl⟩ := h
  exact ⟨w ++ v, rest, (List.append_assoc ..).symm, by rw [byteSize_append, Nat.add_assoc]⟩

theorem exists_at {text : List Char} (h : PlaceIn cs pos n) (hat : At text pos cs) : ∃ rest, At text n rest := by
  obtain ⟨w, rest, rfl, rfl⟩ := h
  exact ⟨rest, hat.drop⟩

end PlaceIn

/-- A string is refused at its start, or at a place in it. -/
theorem position_of_readQuoted {start pos : Nat} {cs : List Char} {err : SyntaxError}
    (h : readQuoted start pos cs = .error err) : err.position = start ∨ PlaceIn cs pos err.position := by
  fun_induction readQuoted start pos cs with
  | case1 | case3 =>
    obtain rfl := Except.error.inj h
    exact .inl rfl
  | case2 => cases h
  | case4 pos cs ih | case5 pos cs ih | case6 pos cs ih | case7 pos cs ih | case8 pos cs ih =>
    exact (ih (map_eq_error h)).imp_right fun hp => PlaceIn.append (w := ['\\', _]) hp
  | case9 pos high low cs c hc ih =>
    obtain ⟨hh, hl⟩ := utf8Size_of_hexPair? hc
    have hw : byteSize ['\\', 'x', high, low] = 4 := by
      simp only [byteSize, hh, hl]
      rfl
    exact (ih (map_eq_error h)).imp_right fun hp => PlaceIn.append (w := ['\\', 'x', high, low]) (hw ▸ hp)
  | case10 | case11 | case12 =>
    obtain rfl := Except.error.inj h
    exact .inr (.start _ _)
  | case13 pos c cs _ _ _ _ _ _ _ _ _ _ ih =>
    exact (ih (map_eq_error h)).imp_right fun hp => PlaceIn.append (w := [c]) hp

theorem position_of_readRaw {start pos : Nat} {cs : List Char} {err : SyntaxError}
    (h : readRaw start pos cs = .error err) : err.position = start := by
  induction cs generalizing pos with
  | nil =>
    obtain rfl := Except.error.inj h
    rfl
  | cons c cs ih =>
    rw [readRaw] at h
    split at h
    · cases h
    · exact ih (map_eq_error h)

/-- A token is refused at its start, or at a place in it. -/
theorem position_of_scan {pos : Nat} {c : Char} {cs : List Char} {err : SyntaxError}
    (h : scan pos c cs = .error err) : PlaceIn (c :: cs) pos err.position := by
  unfold scan at h
  split at h
  · cases h
  split at h
  · cases h
  split at h
  · next hc =>
    rcases position_of_readQuoted (map_eq_error h) with heq | hp
    · rw [heq]
      exact .start _ _
    · rw [hc]
      exact PlaceIn.append (w := ['"']) hp
  split at h
  · rw [position_of_readRaw (map_eq_error h)]
    exact .start _ _
  split at h
  · dsimp only at h
    split at h
    · cases h
    · obtain rfl := Except.error.inj h
      exact .start _ _
  split at h
  · cases h
  · obtain rfl := Except.error.inj h
    exact .start _ _

/-- A token that is read ends at the octet behind its characters. -/
theorem spells_of_scan_pos {pos pos' : Nat} {c : Char} {cs rest : List Char} {token : Token}
    (h : scan pos c cs = .ok (token, pos', rest)) :
    ∃ w, c :: cs = w ++ rest ∧ Spells w token ∧ Ends token rest ∧ pos' = pos + byteSize w := by
  obtain ⟨w, hw, hs, he⟩ := spells_of_scan h
  obtain ⟨c', cs', hcs, -, hscan⟩ := scan_of_spells hs he pos
  rw [← hw, List.cons.injEq] at hcs
  rw [← hcs.1, ← hcs.2, h, Except.ok.injEq, Prod.mk.injEq, Prod.mk.injEq] at hscan
  exact ⟨w, hw, hs, he, hscan.2.1⟩

/-! ### Lexing -/

/-- The octets that cutting a text into tokens comes to, with what is left of the text there. -/
inductive Visits (text : String) : Nat → List Char → Prop
  | start : Visits text 0 text.toList
  | blank {pos : Nat} {c : Char} {cs : List Char} (h : Visits text pos (c :: cs)) (hc : isBlank c = true) :
    Visits text (pos + c.utf8Size) cs
  | token {pos pos' : Nat} {c : Char} {cs rest : List Char} {token : Token} (h : Visits text pos (c :: cs))
    (hc : isBlank c = false) (hs : scan pos c cs = .ok (token, pos', rest)) : Visits text pos' rest

theorem Visits.at {text : String} {pos : Nat} {cs : List Char} (h : Visits text pos cs) : At text.toList pos cs := by
  induction h with
  | start => exact .zero _
  | @blank pos c cs _ _ ih => exact At.drop (w := [c]) ih
  | token _ _ hs ih =>
    obtain ⟨w, hw, -, -, rfl⟩ := spells_of_scan_pos hs
    rw [hw] at ih
    exact ih.drop

/-- Every token is read at an octet that lexing comes to. -/
theorem Visits.token_of_lexFrom {text : String} {pos : Nat} {cs : List Char} {ls : List Lexeme}
    (hv : Visits text pos cs) (h : lexFrom pos cs = .ok ls) :
    ∀ l ∈ ls, ∃ w rest, Visits text l.start (w ++ rest) ∧ Spells w l.token ∧ Ends l.token rest := by
  fun_induction lexFrom pos cs generalizing ls with
  | case1 =>
    obtain rfl := Except.ok.inj h
    exact List.forall_mem_nil _
  | case2 pos c cs hc ih => exact ih (hv.blank hc) h
  | case3 => cases h
  | case4 pos c cs hc token pos' rest hs ih =>
    obtain ⟨ls', hls', rfl⟩ := map_eq_ok h
    have hc' : isBlank c = false := Bool.eq_false_iff.2 hc
    obtain ⟨w, hw, hspells, hends, -⟩ := spells_of_scan_pos hs
    exact List.forall_mem_cons.2 ⟨⟨w, rest, hw ▸ hv, hspells, hends⟩, ih (hv.token hc' hs) hls'⟩

/-- A text that cannot be cut into tokens is refused at a place in it. -/
theorem position_of_lexFrom {text : List Char} {pos : Nat} {cs : List Char} {err : SyntaxError}
    (hat : At text pos cs) (h : lexFrom pos cs = .error err) : ∃ rest, At text err.position rest := by
  fun_induction lexFrom pos cs with
  | case1 => cases h
  | case2 pos c cs hc ih => exact ih (At.drop (w := [c]) hat) h
  | case3 pos c cs hc e hs =>
    obtain rfl := Except.error.inj h
    exact (position_of_scan hs).exists_at hat
  | case4 pos c cs hc token pos' rest hs ih =>
    obtain ⟨w, hw, -, -, rfl⟩ := spells_of_scan_pos hs
    exact ih (At.drop (hw ▸ hat)) (map_eq_error h)

/-! ### Reading -/

section

variable {S : Nat → Prop} {stack : List Frame} {t : Lexeme} {p : Progress}

/-- Something has been read, and all unfinished forms start at octets of some kind. -/
def Progress.Within (S : Nat → Prop) : Progress → Prop
  | .reading stack => stack ≠ [] ∧ ∀ f ∈ stack, S f.start
  | .done _ => True

/-- The result of reading is within octets of some kind: the forms that it leaves open, or its error. -/
def Outcome (S : Nat → Prop) : Except SyntaxError Progress → Prop
  | .ok p => p.Within S
  | .error err => S err.position

theorem reading_within {f : Frame} (hf : S f.start) (h : ∀ f ∈ stack, S f.start) :
    (Progress.reading (f :: stack)).Within S :=
  ⟨List.cons_ne_nil _ _, List.forall_mem_cons.2 ⟨hf, h⟩⟩

theorem deliver_within (h : ∀ f ∈ stack, S f.start) (e : Expr) : (deliver e stack).Within S := by
  unfold deliver
  split
  · obtain ⟨hs, houter⟩ := List.forall_mem_cons.1 h
    exact reading_within hs houter
  · trivial

theorem readHead_within {start : Nat} (hs : S start) (h : ∀ f ∈ stack, S f.start) (ht : S t.start) :
    Outcome S (readHead start stack t) := by
  unfold readHead
  split
  · split
    · exact reading_within hs h
    · exact reading_within hs h
  · exact hs
  · exact ht

theorem readArgument_within {start : Nat} (hs : S start) (h : ∀ f ∈ stack, S f.start) (ht : S t.start) (name : String)
    (args : List Literal) : Outcome S (readArgument start name args stack t) := by
  unfold readArgument
  split
  · exact deliver_within h _
  · exact ht
  · exact reading_within hs h
  · split
    · exact reading_within hs h
    · exact ht
  · exact reading_within hs h
  · split
    · exact reading_within hs h
    · exact ht

theorem build_within {start : Nat} (hs : S start) (h : ∀ f ∈ stack, S f.start) (op : Connective) (es : List Expr) :
    Outcome S ((op.build start es).map fun e => deliver e stack) := by
  unfold Connective.build
  split
  · exact deliver_within h _
  · exact deliver_within h _
  · exact deliver_within h _
  · exact hs

theorem readOperand_within (h : ∀ f ∈ stack, S f.start) (ht : S t.start) : Outcome S (readOperand stack t) := by
  unfold readOperand
  split
  · split
    · exact reading_within ht h
    · exact ht
  · split
    · exact deliver_within h _
    · exact ht
  · split
    · obtain ⟨hs, houter⟩ := List.forall_mem_cons.1 h
      exact build_within hs houter _ _
    · exact ht
  · exact ht

/-- **Every step stays within.** -/
theorem step_within (h : ∀ f ∈ stack, S f.start) (ht : S t.start) : Outcome S ((Progress.reading stack).step t) := by
  match stack with
  | [] => exact readOperand_within h ht
  | .form start op children :: stack => exact readOperand_within h ht
  | .opened start :: stack =>
    obtain ⟨hs, houter⟩ := List.forall_mem_cons.1 h
    exact readHead_within hs houter ht
  | .call start name args :: stack =>
    obtain ⟨hs, houter⟩ := List.forall_mem_cons.1 h
    exact readArgument_within hs houter ht name args

theorem Outcome.bind {x : Except SyntaxError Progress} {f : Progress → Except SyntaxError Progress} (hx : Outcome S x)
    (hf : ∀ q : Progress, q.Within S → Outcome S (f q)) : Outcome S (x.bind f) := by
  cases x with
  | ok q => exact hf q hx
  | error err => exact hx

theorem run_within {ts : List Lexeme} (hp : p.Within S) (ht : ∀ t ∈ ts, S t.start) : Outcome S (p.run ts) := by
  induction ts generalizing p with
  | nil => exact hp
  | cons t ts ih =>
    rw [List.forall_mem_cons] at ht
    rw [Progress.run]
    refine Outcome.bind ?_ fun q hq => ih hq ht.2
    cases p with
    | reading stack => exact step_within hp.2 ht.1
    | done e => exact ht.1

end

/-- Tokens that are no expression are refused at the start of one of them, or at octet 0 if there is none. -/
theorem position_of_ofLexemes {ls : List Lexeme} {err : SyntaxError} (h : Expr.ofLexemes ls = .error err) :
    (∃ l ∈ ls, l.start = err.position) ∨ ls = [] ∧ err.position = 0 := by
  cases ls with
  | nil =>
    obtain rfl := Except.error.inj h
    exact .inr ⟨rfl, rfl⟩
  | cons t ts =>
    have hstart : ∀ l ∈ t :: ts, ∃ l' ∈ t :: ts, l'.start = l.start := fun l hl => ⟨l, hl, rfl⟩
    rw [List.forall_mem_cons] at hstart
    have hrun : Outcome (fun n => ∃ l ∈ t :: ts, l.start = n) ((Progress.reading []).run (t :: ts)) := by
      rw [Progress.run]
      exact (step_within (List.forall_mem_nil _) hstart.1).bind fun q hq => run_within hq hstart.2
    left
    unfold Expr.ofLexemes at h
    cases hp : (Progress.reading []).run (t :: ts) with
    | error err' =>
      rw [hp] at h hrun
      obtain rfl := Except.error.inj h
      exact hrun
    | ok p =>
      rw [hp] at h hrun
      cases p with
      | done => cases h
      | reading stack =>
        cases stack with
        | nil => exact absurd rfl hrun.1
        | cons frame stack =>
          obtain rfl := Except.error.inj h
          exact hrun.2 frame List.mem_cons_self

theorem position_of_parse {text : String} {err : SyntaxError} (h : Expr.parse text = .error err) :
    (∃ rest, At text.toList err.position rest) ∧
      ∀ ls, lex text = .ok ls → (∃ l ∈ ls, l.start = err.position) ∨ ls = [] ∧ err.position = 0 := by
  unfold Expr.parse at h
  cases hlex : lex text with
  | error err' =>
    rw [hlex] at h
    obtain rfl := Except.error.inj h
    exact ⟨position_of_lexFrom (.zero _) hlex, fun ls hls => by cases hls⟩
  | ok ls =>
    rw [hlex] at h
    have hstart := position_of_ofLexemes h
    refine ⟨?_, fun ls' hls => by rwa [← Except.ok.inj hls]⟩
    rcases hstart with ⟨l, hl, hpos⟩ | ⟨-, hpos⟩
    · obtain ⟨w, rest, hv, -⟩ := Visits.start.token_of_lexFrom hlex l hl
      exact ⟨w ++ rest, hpos ▸ hv.at⟩
    · exact ⟨text.toList, hpos ▸ .zero _⟩

/-- **Octets of a filter text.** Wherever cutting a text into tokens comes to, any piece of what is left there is a
slice of the text from that octet on, and each token is spelled by such a slice. A text that is refused is refused at
an octet of it between two characters or at its ends; and if it can be cut into tokens, at the start of one of these,
or at octet 0 if there are none. -/
theorem parse_places (text : String) :
    (∀ pos cs, Visits text pos cs → ∀ w rest, cs = w ++ rest →
      slice? text pos (pos + byteSize w) = some (String.ofList w) ∧
      slice? text (pos + byteSize w) text.utf8ByteSize = some (String.ofList rest)) ∧
    (∀ ls, lex text = .ok ls → ∀ l ∈ ls, ∃ w, Spells w l.token ∧
      slice? text l.start (l.start + byteSize w) = some (String.ofList w)) ∧
    ((∃ e, Expr.parse text = .ok e) ∨ ∃ err, Expr.parse text = .error err ∧
      err.position ≤ text.utf8ByteSize ∧ String.Pos.Raw.IsValid text ⟨err.position⟩ ∧
      ∀ ls, lex text = .ok ls → (∃ l ∈ ls, l.start = err.position) ∨ ls = [] ∧ err.position = 0) := by
  refine ⟨?_, ?_, ?_⟩
  · rintro pos _ hv w rest rfl
    have hrest : At text.toList (pos + byteSize w) (rest ++ []) := by
      rw [List.append_nil]
      exact hv.at.drop
    have hend := hrest.slice?_eq
    rw [hv.at.drop.add_byteSize_eq] at hend
    exact ⟨hv.at.slice?_eq, hend⟩
  · intro ls hls l hl
    obtain ⟨w, rest, hv, hw, -⟩ := Visits.start.token_of_lexFrom hls l hl
    exact ⟨w, hw, hv.at.slice?_eq⟩
  · cases hparse : Expr.parse text with
    | ok e => exact .inl ⟨e, rfl⟩
    | error err =>
      obtain ⟨⟨rest, hat⟩, hstart⟩ := position_of_parse hparse
      have hle : err.position ≤ text.utf8ByteSize := Nat.le.intro hat.add_byteSize_eq
      exact .inr ⟨err, rfl, hle, hat.isValid, hstart⟩

/-- Octets are counted, not characters: the string opens behind a letter of two octets. -/
example : Expr.parse "(é \"ü" = .error ⟨4, .unterminatedString⟩ := by cbv

end InterceptAddons.Filter
