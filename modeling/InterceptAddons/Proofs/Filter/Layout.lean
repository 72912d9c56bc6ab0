import InterceptAddons.Filter.Basic
import InterceptAddons.Proofs.Filter.Grammar
import InterceptAddons.Proofs.Filter.Places
import InterceptAddons.Proofs.Text.Split
import Mathlib.Logic.Relation

/-!
# Layout and letter case of filters

`Edit` changes a filter text where it should make no difference: white space between tokens, and the letter case of
words. Main statement: `parse_edited`, after any number of such changes the text denotes the same expression; so does
the text by which a filter is shown.

White space is followed token by token: `RendersBefore rest front ts` says that `front` renders tokens which `rest`
does not prolong, so that another rest that prolongs none can take its place. Tokens that agree up to the letter case
of words derive the same expressions (`Derives.recase`).
-/

namespace InterceptAddons.Filter

open InterceptAddons.Text

/-! ### Tokens before a rest -/

/-- The texts of tokens in front of a rest: no token is prolonged by what follows it. -/
inductive RendersBefore (rest : List Char) : List Char → List Token → Prop
  | nil : RendersBefore rest [] []
  | blank {c : Char} {cs : List Char} {ts : List Token} (hc : isBlank c = true) (h : RendersBefore rest cs ts) :
    RendersBefore rest (c :: cs) ts
  | token {text cs : List Char} {token : Token} {ts : List Token} (ht : Spells text token)
    (he : Ends token (cs ++ rest)) (h : RendersBefore rest cs ts) : RendersBefore rest (text ++ cs) (token :: ts)

theorem ends_nil (token : Token) : Ends token [] := by
  cases token with
  | int | ident => exact fun c hc => absurd hc (Option.not_mem_none c)
  | leftParen | rightParen | str | raw => trivial

theorem Ends.of_head? {token : Token} {cs cs' : List Char} (h : Ends token cs) (hc : cs.head? = cs'.head?) :
    Ends token cs' := by
  cases token with
  | int | ident => exact fun c hmem => h c (hc ▸ hmem)
  | leftParen | rightParen | str | raw => trivial

theorem Ends.append_congr {token : Token} {cs rest rest' : List Char} (h : Ends token (cs ++ rest))
    (hr : Ends token rest → Ends token rest') : Ends token (cs ++ rest') := by
  cases cs with
  | nil => exact hr h
  | cons => exact h.of_head? rfl

namespace RendersBefore

variable {rest rest' front : List Char} {ts us : List Token}

theorem append (h : RendersBefore rest front ts) (hr : Renders rest us) : Renders (front ++ rest) (ts ++ us) := by
  induction h with
  | nil => exact hr
  | blank hc _ ih => exact .blank hc ih
  | token ht he _ ih =>
    rw [List.append_assoc]
    exact .token ht he ih

theorem trans {mid : List Char} (h : RendersBefore (mid ++ rest) front ts) (hm : RendersBefore rest mid us) :
    RendersBefore rest (front ++ mid) (ts ++ us) := by
  induction h with
  | nil => exact hm
  | blank hc _ ih => exact .blank hc ih
  | token ht he _ ih =>
    rw [List.append_assoc]
    exact .token ht (by rwa [List.append_assoc]) ih

theorem congr (h : RendersBefore rest front ts) (hr : ∀ token, Ends token rest → Ends token rest') :
    RendersBefore rest' front ts := by
  induction h with
  | nil => exact .nil
  | blank hc _ ih => exact .blank hc ih
  | token ht he _ ih => exact .token ht (he.append_congr (hr _)) ih

end RendersBefore

/-- Lexing has read the tokens in front of every place that it comes to, and goes on from there. -/
theorem Visits.exists_front {text : String} {pos : Nat} {cs : List Char} {ls : List Lexeme} (hv : Visits text pos cs)
    (h : lex text = .ok ls) : ∃ front ts ls', text.toList = front ++ cs ∧ RendersBefore cs front ts ∧
      lexFrom pos cs = .ok ls' ∧ ls.map Lexeme.token = ts ++ ls'.map Lexeme.token := by
  induction hv with
  | start => exact ⟨[], [], ls, rfl, .nil, h, rfl⟩
  | @blank pos c cs _ hc ih =>
    obtain ⟨front, ts, ls', htext, hf, hls', hts⟩ := ih
    rw [lexFrom_of_isBlank hc] at hls'
    have hf' : RendersBefore ([c] ++ cs) front (ts ++ []) := by rwa [List.append_nil]
    refine ⟨front ++ [c], ts, ls', by rw [htext, List.append_assoc]; rfl, ?_, hls', hts⟩
    simpa using hf'.trans (.blank hc .nil)
  | @token pos pos' c cs rest token _ _ hs ih =>
    obtain ⟨front, ts, ls', htext, hf, hls', hts⟩ := ih
    obtain ⟨w, hw, hspells, hends, rfl⟩ := spells_of_scan_pos hs
    rw [hw] at htext hf hls'
    rw [lexFrom_of_spells hspells hends] at hls'
    obtain ⟨ls'', hls'', rfl⟩ := map_eq_ok hls'
    have hw' : RendersBefore rest (w ++ []) [token] := .token hspells hends .nil
    rw [List.append_nil] at hw'
    refine ⟨front ++ w, ts ++ [token], ls'', by rw [htext, List.append_assoc], hf.trans hw', hls'', ?_⟩
    rw [hts, List.map_cons, List.append_cons]

/-- At every place that lexing comes to, the text parts into the tokens before and those behind. -/
theorem Visits.renders {text : String} {pos : Nat} {front cs : List Char} {ls : List Lexeme} (hv : Visits text pos cs)
    (htext : text.toList = front ++ cs) (h : lex text = .ok ls) :
    ∃ ts us, RendersBefore cs front ts ∧ Renders cs us ∧ ls.map Lexeme.token = ts ++ us := by
  obtain ⟨front', ts, ls', htext', hf, hls', hts⟩ := hv.exists_front h
  obtain rfl := List.append_cancel_right (htext.symm.trans htext')
  exact ⟨ts, _, hf, renders_of_lexFrom hls', hts⟩

/-! ### White space -/

/-- A character that stands in no number and in no word. -/
def Separates (c : Char) : Prop := isBlank c = true ∨ c = '(' ∨ c = ')'

theorem Separates.isAlphanum_eq {c : Char} (h : Separates c) : c.isAlphanum = false := by
  rcases h with h | rfl | rfl
  · exact of_isBlank (P := fun c => c.isAlphanum = false) (by decide) h
  · decide
  · decide

theorem Separates.isWordTail_eq {c : Char} (h : Separates c) : isWordTail c = false := by
  rcases h with h | rfl | rfl
  · exact of_isBlank (P := fun c => isWordTail c = false) (by decide +kernel) h
  · decide
  · decide

/-- White space and parentheses prolong no token. -/
theorem Separates.ends {c : Char} (h : Separates c) (token : Token) (rest : List Char) : Ends token (c :: rest) := by
  cases token with
  | int =>
    rintro _ ⟨⟩
    exact h.isAlphanum_eq
  | ident =>
    rintro _ ⟨⟩
    refine ⟨h.isWordTail_eq, ?_⟩
    rintro - rfl
    revert h
    unfold Separates
    decide
  | leftParen | rightParen | str | raw => trivial

theorem ends_of_blank {ws : List Char} (hws : ∀ c ∈ ws, isBlank c = true) (hne : ws ≠ []) (rest : List Char)
    (token : Token) : Ends token (ws ++ rest) := by
  obtain ⟨c, ws, rfl⟩ := List.exists_cons_of_ne_nil hne
  exact Separates.ends (.inl (hws c List.mem_cons_self)) token _

/-- What starts with a parenthesis prolongs no token, nor does the end of a text. -/
theorem ends_of_paren {rest : List Char} (h : ∀ c ∈ rest.head?, c = '(' ∨ c = ')') (token : Token) :
    Ends token rest := by
  cases rest with
  | nil => exact ends_nil token
  | cons c rest => exact Separates.ends (.inr (h c rfl)) token rest

/-- A text of a token ends with no white space. Where it ends with a parenthesis, nothing prolongs the token. -/
theorem Spells.last {text : List Char} {token : Token} (h : Spells text token) :
    ∃ init c, text = init ++ [c] ∧ isBlank c = false ∧ (c = '(' ∨ c = ')' → ∀ rest, Ends token rest) := by
  have inside {cs : List Char} (hne : cs ≠ []) (hcs : ∀ c ∈ cs, ¬Separates c) : ∃ init c, cs = init ++ [c] ∧
      isBlank c = false ∧ (c = '(' ∨ c = ')' → ∀ rest, Ends token rest) := by
    obtain ⟨hb, hp⟩ := not_or.1 (hcs _ (List.getLast_mem hne))
    exact ⟨_, _, (List.dropLast_concat_getLast hne).symm, Bool.eq_false_iff.2 hb, fun h => absurd h hp⟩
  cases h with
  | leftParen => exact ⟨[], '(', rfl, by decide, fun _ _ => trivial⟩
  | rightParen => exact ⟨[], ')', rfl, by decide, fun _ _ => trivial⟩
  | @str body s => exact ⟨'"' :: body, '"', rfl, by decide, fun _ _ => trivial⟩
  | @raw body => exact ⟨'r' :: '"' :: body, '"', rfl, by decide, fun _ _ => trivial⟩
  | @int c cs n hc hcs =>
    refine inside (List.cons_ne_nil c cs) (List.forall_mem_cons.2 ⟨?_, fun d hd hp => ?_⟩)
    · obtain ⟨hl, hr, -⟩ := ne_of_isDigit hc
      exact not_or.2 ⟨Bool.eq_false_iff.1 (not_isBlank_of_isDigit hc), not_or.2 ⟨hl, hr⟩⟩
    · exact absurd (hcs d hd) (Bool.eq_false_iff.1 hp.isAlphanum_eq)
  | @ident c cs hc hcs =>
    refine inside (List.cons_ne_nil c cs) (List.forall_mem_cons.2 ⟨?_, fun d hd hp => ?_⟩)
    · obtain ⟨hl, hr, -⟩ := ne_of_isAlphabetic hc
      exact not_or.2 ⟨Bool.eq_false_iff.1 (not_isBlank_of_isAlphabetic hc), not_or.2 ⟨hl, hr⟩⟩
    · exact absurd (hcs d hd) (Bool.eq_false_iff.1 hp.isWordTail_eq)

/-- Behind a parenthesis, and at the start of a text, everything may follow. -/
theorem RendersBefore.of_paren {rest front : List Char} {ts : List Token} (h : RendersBefore rest front ts)
    (hp : ∀ c ∈ front.getLast?, c = '(' ∨ c = ')') (rest' : List Char) : RendersBefore rest' front ts := by
  induction h with
  | nil => exact .nil
  | @blank c cs _ hc _ ih =>
    cases cs with
    | nil =>
      rcases hp c rfl with rfl | rfl <;> exact absurd hc (by decide)
    | cons => exact .blank hc (ih (by simpa using hp))
  | @token text cs token ts ht he _ ih =>
    cases cs with
    | nil =>
      obtain ⟨init, c, rfl, -, hends⟩ := ht.last
      exact .token ht (hends (hp c (by simp)) _) (ih (by simp))
    | cons => exact .token ht (he.of_head? rfl) (ih (by simpa using hp))

/-- The first token of a text is the one that it starts with. -/
theorem Renders.of_spells {text rest : List Char} {token : Token} {us : List Token} (ht : Spells text token)
    (he : Ends token rest) (h : Renders (text ++ rest) us) : ∃ ts, us = token :: ts ∧ Renders rest ts := by
  obtain ⟨ls, hls, rfl⟩ := lexFrom_of_renders h 0
  rw [lexFrom_of_spells ht he] at hls
  obtain ⟨ls', hls', rfl⟩ := map_eq_ok hls
  exact ⟨ls'.map Lexeme.token, rfl, renders_of_lexFrom hls'⟩

theorem Renders.append_blank {ws back : List Char} {us : List Token} (hws : ∀ c ∈ ws, isBlank c = true)
    (h : Renders back us) : Renders (ws ++ back) us := by
  induction ws with
  | nil => exact h
  | cons c ws ih =>
    obtain ⟨hc, hws⟩ := List.forall_mem_cons.1 hws
    exact .blank hc (ih hws)

theorem Renders.of_blank {c : Char} {cs : List Char} {us : List Token} (hc : isBlank c = true)
    (h : Renders (c :: cs) us) : Renders cs us := by
  obtain ⟨ls, hls, rfl⟩ := lexFrom_of_renders h 0
  rw [lexFrom_of_isBlank hc] at hls
  exact renders_of_lexFrom hls

/-- White space in front of tokens may be left out. -/
theorem Renders.of_append_blank {ws back : List Char} {us : List Token} (hws : ∀ c ∈ ws, isBlank c = true)
    (h : Renders (ws ++ back) us) : Renders back us := by
  induction ws with
  | nil => exact h
  | cons c ws ih =>
    obtain ⟨hc, hws⟩ := List.forall_mem_cons.1 hws
    exact ih hws (h.of_blank hc)

/-- White space behind tokens may be left out. -/
theorem Renders.of_append_end {front after : List Char} {ts : List Token} (ha : ∀ c ∈ after, isBlank c = true)
    (h : Renders (front ++ after) ts) : Renders front ts := by
  generalize hcs : front ++ after = text at h
  induction h generalizing front with
  | nil =>
    obtain ⟨rfl, -⟩ := List.append_eq_nil_iff.1 hcs
    exact .nil
  | @blank c cs ts hc h ih =>
    cases front with
    | nil =>
      obtain rfl : after = c :: cs := hcs
      have hafter : Renders (c :: cs ++ []) ts := by simpa using Renders.blank hc h
      exact hafter.of_append_blank ha
    | cons d front =>
      rw [List.cons_append, List.cons.injEq] at hcs
      obtain ⟨rfl, hcs⟩ := hcs
      exact .blank hc (ih hcs)
  | @token text rest token ts ht he _ ih =>
    have hfront : ∃ cs, front = text ++ cs ∧ cs ++ after = rest := by
      rcases List.append_eq_append_iff.1 hcs with ⟨part, htext, hafter⟩ | ⟨cs, hfront, hrest⟩
      · -- the last character of the token is not white space, so it is not cut off
        rcases List.eq_nil_or_concat part with rfl | ⟨part, c, rfl⟩
        · exact ⟨[], by simpa using htext.symm, by simpa using hafter⟩
        · obtain ⟨init, d, htext', hd, -⟩ := ht.last
          have hcd : c = d := by simpa using congrArg List.getLast? (htext.symm.trans htext')
          have hc := ha c (by simp [hafter])
          rw [hcd, hd] at hc
          cases hc
      · exact ⟨cs, hfront, hrest.symm⟩
    obtain ⟨cs, rfl, rfl⟩ := hfront
    refine .token ht ?_ (ih rfl)
    rw [← List.append_nil cs]
    exact he.append_congr fun _ => ends_nil token

/-- White space around a text makes no difference to its tokens. -/
theorem Renders.trim {cs : List Char} {ts : List Token} (h : Renders cs ts) : Renders (Text.trim cs) ts := by
  obtain ⟨before, after, hb, ha, hcs⟩ := exists_trim cs
  rw [hcs, List.append_assoc] at h
  exact (h.of_append_blank hb).of_append_end ha

/-! ### Letter case -/

def Token.toLower : Token → Token
  | .ident word => .ident word.toLower
  | token => token

theorem toLower_eq_ident {token : Token} {word : String} (h : token.toLower = .ident word) :
    ∃ word', token = .ident word' ∧ word'.toLower = word := by
  cases token with
  | ident word' => exact ⟨word', rfl, Token.ident.inj h⟩
  | leftParen | rightParen | str | raw | int => cases h

theorem eq_of_toLower {token token' : Token} (h : token'.toLower = token.toLower) (hw : ∀ word, token ≠ .ident word) :
    token' = token := by
  have htoken : token.toLower = token := by
    cases token with
    | ident word => exact absurd rfl (hw word)
    | leftParen | rightParen | str | raw | int => rfl
  rw [htoken] at h
  cases token' with
  | ident word => exact absurd h.symm (hw _)
  | leftParen | rightParen | str | raw | int => exact h

theorem Denotes.recase {token token' : Token} {l : Literal} (h : Denotes token l)
    (ht : token'.toLower = token.toLower) : Denotes token' l := by
  cases h with
  | true h =>
    obtain ⟨word, rfl, hw⟩ := toLower_eq_ident ht
    exact .true (hw.trans h)
  | false h =>
    obtain ⟨word, rfl, hw⟩ := toLower_eq_ident ht
    exact .false (hw.trans h)
  | str s =>
    obtain rfl := eq_of_toLower ht (by simp)
    exact .str s
  | raw hp =>
    obtain rfl := eq_of_toLower ht (by simp)
    exact .raw hp
  | int n =>
    obtain rfl := eq_of_toLower ht (by simp)
    exact .int n

theorem formTokens_recase {word : String} {ts us : List Token}
    (h : us.map Token.toLower = (formTokens word ts).map Token.toLower) :
    ∃ word' us', us = formTokens word' us' ∧ word'.toLower = word.toLower ∧
      us'.map Token.toLower = ts.map Token.toLower := by
  rw [formTokens, List.map_cons, List.map_cons, List.map_append] at h
  obtain ⟨_, us₁, rfl, hopen, h₁⟩ := List.map_eq_cons_iff.1 h
  obtain ⟨_, us₂, rfl, hword, h₂⟩ := List.map_eq_cons_iff.1 h₁
  obtain ⟨us₃, last, rfl, h₃, hlast⟩ := List.map_eq_append_iff.1 h₂
  obtain ⟨_, rfl, hclose⟩ := List.map_eq_singleton_iff.1 hlast
  obtain ⟨word', rfl, hword'⟩ := toLower_eq_ident hword
  obtain rfl := eq_of_toLower hopen (by simp)
  obtain rfl := eq_of_toLower hclose (by simp)
  exact ⟨word', us₃, rfl, hword', h₃⟩

theorem forall₂_denotes_recase {ts us : List Token} {ls : List Literal} (h : List.Forall₂ Denotes ts ls)
    (hu : us.map Token.toLower = ts.map Token.toLower) : List.Forall₂ Denotes us ls := by
  induction h generalizing us with
  | nil =>
    obtain rfl := List.map_eq_nil_iff.1 hu
    exact .nil
  | cons ht _ ih =>
    obtain ⟨token, us, rfl, htoken, hu⟩ := List.map_eq_cons_iff.1 hu
    exact .cons (ht.recase htoken) (ih hu)

mutual

/-- Tokens that agree up to the letter case of words derive the same expressions. -/
theorem Derives.recase : ∀ {d : Nat} {ts us : List Token} {e : Expr}, Derives d ts e →
    us.map Token.toLower = ts.map Token.toLower → Derives d us e
  | _, _, us, _, .true h, hu => by
    obtain ⟨token, rfl, ht⟩ := List.map_eq_singleton_iff.1 hu
    obtain ⟨word, rfl, hw⟩ := toLower_eq_ident ht
    exact .true (hw.trans h)
  | _, _, us, _, .false h, hu => by
    obtain ⟨token, rfl, ht⟩ := List.map_eq_singleton_iff.1 hu
    obtain ⟨word, rfl, hw⟩ := toLower_eq_ident ht
    exact .false (hw.trans h)
  | _, _, us, _, .and hd h hs, hu => by
    obtain ⟨word, us, rfl, hw, hus⟩ := formTokens_recase hu
    exact .and hd (hw.trans h) (hs.recase hus)
  | _, _, us, _, .or hd h hs, hu => by
    obtain ⟨word, us, rfl, hw, hus⟩ := formTokens_recase hu
    exact .or hd (hw.trans h) (hs.recase hus)
  | _, _, us, _, .not hd h hs, hu => by
    obtain ⟨word, us, rfl, hw, hus⟩ := formTokens_recase hu
    exact .not hd (hw.trans h) (hs.recase hus)
  | _, _, us, _, .predicate hd h hs, hu => by
    obtain ⟨word, us, rfl, hw, hus⟩ := formTokens_recase hu
    rw [← hw]
    exact .predicate hd (hw ▸ h) (forall₂_denotes_recase hs hus)

theorem DerivesAll.recase : ∀ {d : Nat} {ts us : List Token} {es : List Expr}, DerivesAll d ts es →
    us.map Token.toLower = ts.map Token.toLower → DerivesAll d us es
  | _, _, us, _, .nil, hu => by
    obtain rfl := List.map_eq_nil_iff.1 hu
    exact .nil
  | _, _, us, _, .cons he hs, hu => by
    rw [List.map_append] at hu
    obtain ⟨us₁, us₂, rfl, h₁, h₂⟩ := List.map_eq_append_iff.1 hu
    exact .cons (he.recase h₁) (hs.recase h₂)

end

theorem Spells.eq_word {w word : List Char} (h : Spells w (.ident (String.ofList word))) : w = word := by
  generalize htoken : Token.ident (String.ofList word) = token at h
  cases h with
  | ident => exact (String.ofList_injective (Token.ident.inj htoken)).symm
  | leftParen | rightParen | str | raw | int => cases htoken

/-- Letter case does not matter to what is a word. -/
theorem Spells.recase {word word' : List Char} (h : Spells word (.ident (String.ofList word)))
    (hw : word'.map Char.toLower = word.map Char.toLower) : Spells word' (.ident (String.ofList word')) := by
  cases h with
  | @ident c cs hc hcs =>
    obtain ⟨c', cs', rfl, hc', hcs'⟩ := List.map_eq_cons_iff.1 hw
    refine .ident ?_ fun d' hd' => ?_
    · rw [← startsWord_toLower, hc', startsWord_toLower]
      exact hc
    · obtain ⟨d, hd, heq⟩ := List.mem_map.1 (hcs' ▸ List.mem_map_of_mem hd')
      rw [← eq_of_toLower_eq isWordTail_toLower heq]
      exact hcs d hd

/-- A token is over in front of a word in any letter case, or in none. -/
theorem Ends.recase {token : Token} {word word' back : List Char} (hs : Spells word' (.ident (String.ofList word')))
    (hw : word'.map Char.toLower = word.map Char.toLower) (h : Ends token (word ++ back)) :
    Ends token (word' ++ back) := by
  cases hs with
  | @ident c' cs' hc' =>
    obtain ⟨c, cs, rfl, hc, -⟩ := List.map_eq_cons_iff.1 hw.symm
    cases token with
    | int =>
      rintro _ ⟨⟩
      rw [eq_of_toLower_eq isAlphanum_toLower hc.symm]
      exact h c rfl
    | ident =>
      rintro _ ⟨⟩
      rw [eq_of_toLower_eq isWordTail_toLower hc.symm]
      exact ⟨(h c rfl).1, fun _ => (ne_of_isAlphabetic hc').2.2.1⟩
    | leftParen | rightParen | str | raw => trivial

/-! ### Edits -/

/-- The changes of a text that concern its layout, or the letter case of a word. White space is changed only where
lexing comes to, hence inside no token. -/
inductive Edit (text text' : String) : Prop
  /-- Puts white space at a place between tokens, instead of the white space there if there is some. -/
  | respace {pos : Nat} {front ws ws' back : List Char} (hv : Visits text pos (ws ++ back))
    (htext : text.toList = front ++ (ws ++ back)) (htext' : text'.toList = front ++ (ws' ++ back))
    (hws : ∀ c ∈ ws, isBlank c = true) (hws' : ∀ c ∈ ws', isBlank c = true) (hne : ws' ≠ [])
  /-- Takes white space away at an end of the text, or next to a parenthesis. -/
  | close {pos : Nat} {front ws back : List Char} (hv : Visits text pos (ws ++ back))
    (htext : text.toList = front ++ (ws ++ back)) (htext' : text'.toList = front ++ back)
    (hws : ∀ c ∈ ws, isBlank c = true)
    (hp : front = [] ∨ back = [] ∨ (∃ c ∈ front.getLast?, c = '(' ∨ c = ')') ∨ ∃ c ∈ back.head?, c = '(' ∨ c = ')')
  /-- Writes a word in another letter case, unless a quote follows. -/
  | recase {ls : List Lexeme} {front word word' back : List Char} (hl : lex text = .ok ls)
    (hmem : ⟨.ident (String.ofList word), byteSize front⟩ ∈ ls) (htext : text.toList = front ++ (word ++ back))
    (htext' : text'.toList = front ++ (word' ++ back)) (hq : back.head? ≠ some '"')
    (hw : word'.map Char.toLower = word.map Char.toLower)

/-- An edited text has the same tokens, up to the letter case of words. -/
theorem Edit.renders {text text' : String} {ls : List Lexeme} (he : Edit text text') (hls : lex text = .ok ls) :
    ∃ ts, Renders text'.toList ts ∧ ts.map Token.toLower = (ls.map Lexeme.token).map Token.toLower := by
  cases he with
  | @respace pos front ws ws' back hv htext htext' hws hws' hne =>
    obtain ⟨ts, us, hfront, hback, hts⟩ := hv.renders htext hls
    refine ⟨ts ++ us, ?_, by rw [hts]⟩
    rw [htext']
    exact (hfront.congr fun token _ => ends_of_blank hws' hne back token).append
      ((hback.of_append_blank hws).append_blank hws')
  | @close pos front ws back hv htext htext' hws hp =>
    obtain ⟨ts, us, hfront, hback, hts⟩ := hv.renders htext hls
    refine ⟨ts ++ us, ?_, by rw [hts]⟩
    rw [htext']
    refine RendersBefore.append ?_ (hback.of_append_blank hws)
    rcases hp with rfl | rfl | ⟨c, hc, hp⟩ | ⟨c, hc, hp⟩
    · exact hfront.of_paren nofun _
    · exact hfront.congr fun token _ => ends_nil token
    · exact hfront.of_paren (fun d hd => Option.mem_unique hc hd ▸ hp) _
    · exact hfront.congr fun token _ => ends_of_paren (fun d hd => Option.mem_unique hc hd ▸ hp) token
  | @recase ls' front word word' back hl hmem htext htext' hq hw =>
    obtain rfl := Except.ok.inj (hl.symm.trans hls)
    obtain ⟨w, rest, hv, hspells, hends⟩ := Visits.start.token_of_lexFrom hls _ hmem
    have hrest : w ++ rest = word ++ back := hv.at.unique ⟨front, htext, rfl⟩
    obtain rfl := hspells.eq_word
    obtain rfl := List.append_cancel_left hrest
    have hspells' := hspells.recase hw
    have hends' : Ends (.ident (String.ofList word')) rest :=
      fun c hc => ⟨(hends c hc).1, fun _ hquote => hq (hquote ▸ hc)⟩
    have hlower : (String.ofList word').toLower = (String.ofList w).toLower := by
      rwa [toLower_eq_iff, String.toList_ofList, String.toList_ofList]
    obtain ⟨ts, us, hfront, hword, hts⟩ := hv.renders htext hls
    obtain ⟨us, rfl, hback⟩ := hword.of_spells hspells hends
    refine ⟨ts ++ .ident (String.ofList word') :: us, ?_, ?_⟩
    · rw [htext']
      exact (hfront.congr fun _ => Ends.recase hspells' hw).append (.token hspells' hends' hback)
    · simp only [hts, List.map_append, List.map_cons, Token.toLower, hlower]

theorem parse_edit {text text' : String} {e : Expr} (h : Expr.parse text = .ok e) (he : Edit text text') :
    Expr.parse text' = .ok e := by
  obtain ⟨ls, hls, hparse⟩ := parse_eq_ok.1 h
  obtain ⟨ts, hrenders, hts⟩ := he.renders hls
  exact parse_of_renders hrenders ((derives_of_ofLexemes hparse).recase hts)

/-! ### Display -/

theorem parse_trim {text : String} {e : Expr} (h : Expr.parse text = .ok e) :
    Expr.parse (String.ofList (trim text.toList)) = .ok e := by
  obtain ⟨ls, hls, hparse⟩ := parse_eq_ok.1 h
  refine parse_of_renders ?_ (derives_of_ofLexemes hparse)
  rw [String.toList_ofList]
  exact (renders_of_lexFrom hls).trim

theorem filter_parse_eq_ok_iff {text : String} {f : Filter} :
    Filter.parse text = .ok f ↔ f.source = some text ∧ Expr.parse text = .ok f.expr := by
  unfold Filter.parse
  split
  · next e he =>
    obtain ⟨source, expr, reads⟩ := f
    simp only [Except.ok.injEq, Filter.mk.injEq, he, eq_comm]
  · next err he => simp [he]

/-- **Layout and letter case do not matter.** However often a text is edited, it denotes the same expression. So does
the text by which its filter is shown. -/
theorem parse_edited {text : String} {e : Expr} (h : Expr.parse text = .ok e) :
    (∀ text', Relation.ReflTransGen Edit text text' → Expr.parse text' = .ok e) ∧
      ∃ f, Filter.parse text = .ok f ∧ f.print = String.ofList (trim text.toList) ∧ f.expr = e ∧
        Expr.parse f.print = .ok e := by
  constructor
  · intro text' hsteps
    induction hsteps with
    | refl => exact h
    | tail _ he ih => exact parse_edit ih he
  · let f : Filter := ⟨some text, e, fun _ ht => Option.mem_some.1 ht ▸ h⟩
    exact ⟨f, filter_parse_eq_ok_iff.2 ⟨rfl, h⟩, rfl, rfl, parse_trim h⟩

/-- White space comes in before a quote, the word is then written in capitals, and white space behind a parenthesis
goes. -/
theorem parse_edited_call :
    Expr.parse "( tag\"r (\")" = .ok (.predicate "tag" [.str "r ("]) ∧
      Expr.parse "(TAG \"r (\")" = .ok (.predicate "tag" [.str "r ("]) := by
  have h : Expr.parse "( tag\"r (\")" = .ok (.predicate "tag" [.str "r ("]) := by
    have hl : lex "( tag\"r (\")" =
        .ok [⟨.leftParen, 0⟩, ⟨.ident "tag", 2⟩, ⟨.str "r (", 5⟩, ⟨.rightParen, 10⟩] := by decide +kernel
    have hname : "tag".toLower = "tag" := toLower_of_all rfl
    have he : Derives 0 (formTokens "tag" [.str "r ("]) (.predicate "tag".toLower [.str "r ("]) :=
      .predicate (by decide) (by rw [hname]; decide) (.cons (.str _) .nil)
    rw [hname] at he
    exact parse_eq_ok.2 ⟨_, hl, ofLexemes_of_derives he⟩
  have hspace : Edit "( tag\"r (\")" "( tag \"r (\")" := by
    have h₁ : Visits "( tag\"r (\")" 1 (' ' :: "tag\"r (\")".toList) := Visits.start.token (c := '(') (by decide) rfl
    have h₂ : Visits "( tag\"r (\")" 2 ('t' :: "ag\"r (\")".toList) := h₁.blank (by decide)
    have hscan : scan 2 't' "ag\"r (\")".toList = .ok (.ident "tag", 5, [] ++ "\"r (\")".toList) := by decide +kernel
    have h₅ : Visits "( tag\"r (\")" 5 ([] ++ "\"r (\")".toList) := h₂.token (by decide) hscan
    have hto : "( tag \"r (\")".toList = "( tag".toList ++ ([' '] ++ "\"r (\")".toList) := rfl
    exact .respace h₅ rfl hto (List.forall_mem_nil _) (List.forall_mem_singleton.2 (by decide)) (by decide)
  have hcase : Edit "( tag \"r (\")" "( TAG \"r (\")" := by
    have hl : lex "( tag \"r (\")" =
        .ok [⟨.leftParen, 0⟩, ⟨.ident "tag", 2⟩, ⟨.str "r (", 6⟩, ⟨.rightParen, 11⟩] := by decide +kernel
    have hfrom : "( tag \"r (\")".toList = "( ".toList ++ ("tag".toList ++ " \"r (\")".toList) := rfl
    have hto : "( TAG \"r (\")".toList = "( ".toList ++ ("TAG".toList ++ " \"r (\")".toList) := rfl
    exact .recase hl (by decide) hfrom hto (by decide) (by decide)
  have hclose : Edit "( TAG \"r (\")" "(TAG \"r (\")" := by
    have h₁ : Visits "( TAG \"r (\")" 1 ([' '] ++ "TAG \"r (\")".toList) :=
      Visits.start.token (c := '(') (by decide) rfl
    have hto : "(TAG \"r (\")".toList = ['('] ++ "TAG \"r (\")".toList := rfl
    exact .close h₁ rfl hto (List.forall_mem_singleton.2 (by decide)) (.inr (.inr (.inl ⟨'(', rfl, .inl rfl⟩)))
  exact ⟨h, (parse_edited h).1 _ (((Relation.ReflTransGen.single hspace).tail hcase).tail hclose)⟩

end InterceptAddons.Filter
