import InterceptAddons.Filter.Printer
import InterceptAddons.Proofs.Filter.Grammar
import InterceptAddons.Proofs.Filter.Numbers
import InterceptAddons.Proofs.Lists
import Mathlib.Tactic.TFAE

/-!
# Printing and reading filters

`Expr.Printable e`: the names of `e` are words in lower case, no pattern holds a quote, and the forms are not
nested too deeply. Main statement: `parse_print_tfae`, the printable expressions are those that some text
denotes, and those that their own printed text denotes.

A printed text is followed in two steps. `Prints cs ts` says that the characters `cs` are read as the tokens
`ts` wherever a space, a parenthesis or the end follows (`prints_chars`); and the tokens of a printable
expression derive it (`derives_tokens`).
-/

namespace InterceptAddons.Filter

open InterceptAddons.Text

/-! ### Printable expressions -/

/-- The texts that are read as one word. -/
def IsWord (word : String) : Prop :=
  ∃ c cs, word.toList = c :: cs ∧ (isAlphabetic c ∨ c = '_') ∧ ∀ d ∈ cs, isWordTail d

/-- The names of predicates that can be read. -/
structure IsName (name : String) : Prop where
  word : IsWord name
  lower : ∀ c ∈ name.toList, c.isUpper = false
  free : name ∉ ["and", "or", "not"]

/-- The predicates, with their arguments, that can be read. -/
structure Readable (call : String × List Literal) : Prop where
  name : IsName call.1
  patterns : ∀ p, Literal.regex p ∈ call.2 → '"' ∉ p.source.toList

mutual

/-- The predicates of an expression, with their arguments. -/
def Expr.calls : Expr → List (String × List Literal)
  | .all es | .any es => Expr.callsList es
  | .not e => e.calls
  | .predicate name args => [(name, args)]

def Expr.callsList : List Expr → List (String × List Literal)
  | [] => []
  | e :: es => e.calls ++ Expr.callsList es

end

mutual

/-- How many forms of the printed text lie within each other. -/
def Expr.nesting : Expr → Nat
  | .all [] | .any [] => 0
  | .all (e :: es) | .any (e :: es) => max e.nesting (Expr.nestingList es) + 1
  | .not e => e.nesting + 1
  | .predicate _ _ => 1

def Expr.nestingList : List Expr → Nat
  | [] => 0
  | e :: es => max e.nesting (Expr.nestingList es)

end

theorem nesting_all_le (es : List Expr) : (Expr.all es).nesting ≤ Expr.nestingList es + 1 := by
  cases es with
  | nil => exact Nat.zero_le _
  | cons e es => rw [Expr.nesting, Expr.nestingList]

theorem nesting_any_le (es : List Expr) : (Expr.any es).nesting ≤ Expr.nestingList es + 1 := by
  cases es with
  | nil => exact Nat.zero_le _
  | cons e es => rw [Expr.nesting, Expr.nestingList]

/-- The expressions that have a text. -/
structure Expr.Printable (e : Expr) : Prop where
  calls : ∀ call ∈ e.calls, Readable call
  shallow : e.nesting ≤ maxDepth

/-! ### The tokens of an expression -/

def Literal.token : Literal → Token
  | .str s => .str s
  | .regex p => .raw p.source
  | .bool b => .ident (String.ofList (boolChars b))
  | .int n => .int n

mutual

def Expr.tokens : Expr → List Token
  | .all [] => [.ident (String.ofList (boolChars true))]
  | .any [] => [.ident (String.ofList (boolChars false))]
  | .all (e :: es) => formTokens "and" (e.tokens ++ (Expr.tokensList es).flatten)
  | .any (e :: es) => formTokens "or" (e.tokens ++ (Expr.tokensList es).flatten)
  | .not e => formTokens "not" e.tokens
  | .predicate name args => formTokens name (args.map Literal.token)

def Expr.tokensList : List Expr → List (List Token)
  | [] => []
  | e :: es => e.tokens :: Expr.tokensList es

end

/-! ### Literals -/

theorem hexPair?_digitChar {c : Char} (h : c.toNat < 128) :
    hexPair? (Nat.digitChar (c.toNat / 16)) (Nat.digitChar (c.toNat % 16)) = some c :=
  of_ascii (P := fun c => hexPair? (Nat.digitChar (c.toNat / 16)) (Nat.digitChar (c.toNat % 16)) = some c)
    (by decide) h

theorem quotes_escapeChar (c : Char) {body s : List Char} (h : Quotes body s) :
    Quotes (escapeChar c ++ body) (c :: s) := by
  unfold escapeChar
  split
  · next hc =>
    subst hc
    exact .short (by decide) h
  split
  · next hc =>
    subst hc
    exact .short (by decide) h
  split
  · next hc =>
    subst hc
    exact .short (by decide) h
  split
  · next hc =>
    subst hc
    exact .short (by decide) h
  split
  · next hc =>
    subst hc
    exact .short (by decide) h
  split
  · next hc =>
    have hc' : c.toNat < 128 := by
      rcases hc with hc | rfl
      · omega
      · decide
    exact .hex (hexPair?_digitChar hc') h
  · next hq hb _ _ _ _ => exact .plain (by simp [hq, hb]) h

theorem quotes_escaped (s : List Char) : Quotes (s.flatMap escapeChar) s := by
  induction s with
  | nil => exact .nil
  | cons c s ih => exact quotes_escapeChar c ih

/-- The decimal form of an integer. -/
theorem toList_toString_int (i : Int) :
    ∃ m : Nat, i = m ∧ (toString i).toList = Nat.toDigits 10 m ∨
      i = -m ∧ (toString i).toList = '-' :: Nat.toDigits 10 m := by
  cases i with
  | ofNat m => exact ⟨m, .inl ⟨rfl, Nat.toList_repr⟩⟩
  | negSucc m =>
    refine ⟨m + 1, .inr ⟨rfl, ?_⟩⟩
    show ("-" ++ Nat.repr (m + 1)).toList = _
    rw [String.toList_append, Nat.toList_repr]
    rfl

theorem integer?_toString (n : Int64) : integer? (toString n.toInt).toList = some n := by
  rw [integer?_eq_some_iff]
  obtain ⟨m, ⟨hm, hs⟩ | ⟨hm, hs⟩⟩ := toList_toString_int n.toInt
  · rw [hs, hm]
    exact .of_decimal (isNumeral_toDigits m)
  · have hb : (10, []) ∈ bases := List.mem_cons_self
    rw [hs, hm]
    exact .minus hb (isNumeral_toDigits m)

theorem spells_int (n : Int64) : Spells (toString n.toInt).toList (.int n) := by
  have hv := integer?_toString n
  have alphanum : ∀ m, ∀ d ∈ Nat.toDigits 10 m, d.isAlphanum = true := by
    intro m d hd
    simp [Char.isAlphanum, isDigit_of_mem_toDigits hd]
  obtain ⟨m, ⟨-, hs⟩ | ⟨-, hs⟩⟩ := toList_toString_int n.toInt
  · rw [hs] at hv ⊢
    cases hd : Nat.toDigits 10 m with
    | nil => exact absurd hd Nat.toDigits_ne_nil
    | cons c cs =>
      have hc : c.isDigit = true := isDigit_of_mem_toDigits (n := m) (by simp [hd])
      exact .int (.inl hc) (fun d h => alphanum m d (by simp [hd, h])) (hd ▸ hv)
  · rw [hs] at hv ⊢
    exact .int (.inr rfl) (alphanum m) hv

theorem spells_word {word : String} (h : IsWord word) : Spells word.toList (.ident word) := by
  obtain ⟨c, cs, hw, hc, hcs⟩ := h
  have hs := Spells.ident hc hcs
  rwa [← hw, String.ofList_toList] at hs

theorem isWord_of_all {word : String} {c : Char} {cs : List Char} (hw : word.toList = c :: cs)
    (hc : isAlphabetic c = true) (hcs : cs.all isWordTail = true) : IsWord word :=
  ⟨c, cs, hw, .inl hc, List.all_eq_true.1 hcs⟩

theorem isWord_boolChars (b : Bool) : IsWord (String.ofList (boolChars b)) := by
  cases b with
  | true => exact isWord_of_all (c := 't') (String.toList_ofList) rfl rfl
  | false => exact isWord_of_all (c := 'f') (String.toList_ofList) rfl rfl

theorem spells_boolChars (b : Bool) : Spells (boolChars b) (.ident (String.ofList (boolChars b))) := by
  simpa using spells_word (isWord_boolChars b)

theorem spells_literal {l : Literal} (h : ∀ p, l = .regex p → '"' ∉ p.source.toList) :
    Spells l.chars l.token := by
  cases l with
  | str s => simpa [Literal.chars, Literal.token] using Spells.str (quotes_escaped s.toList)
  | regex p => simpa [Literal.chars, Literal.token] using Spells.raw (h p rfl)
  | bool b => exact spells_boolChars b
  | int n => exact spells_int n

/-! ### Printed texts -/

/-- What may follow a printed part: the end of the text, or a character that ends every token. -/
def Stops (rest : List Char) : Prop := ∀ c ∈ rest.head?, c = ' ' ∨ c = ')'

theorem Stops.ends {rest : List Char} (h : Stops rest) (token : Token) : Ends token rest := by
  cases token with
  | int n =>
    intro c hc
    rcases h c hc with rfl | rfl <;> decide
  | ident word =>
    intro c hc
    rcases h c hc with rfl | rfl <;> exact ⟨by decide, fun _ => by decide⟩
  | leftParen | rightParen | str | raw => trivial

/-- The characters are read as the tokens, whatever ends them. -/
def Prints (cs : List Char) (ts : List Token) : Prop :=
  ∀ (rest : List Char) (us : List Token), Stops rest → Renders rest us → Renders (cs ++ rest) (ts ++ us)

theorem Spells.prints {cs : List Char} {token : Token} (h : Spells cs token) : Prints cs [token] :=
  fun _ _ hr hs => .token h (hr.ends token) hs

theorem renders_spaced {items : List (List Char)} {tss : List (List Token)}
    (h : List.Forall₂ Prints items tss) {rest : List Char} {us : List Token} (hr : Stops rest)
    (hs : Renders rest us) :
    Stops (spaced items ++ rest) ∧ Renders (spaced items ++ rest) (tss.flatten ++ us) := by
  induction h with
  | nil => exact ⟨hr, hs⟩
  | @cons cs ts items tss hp h ih =>
    refine ⟨by simp [Stops, spaced], ?_⟩
    rw [spaced, List.flatten_cons, List.append_assoc, List.cons_append, List.append_assoc]
    exact .blank (by decide) (hp _ _ ih.1 ih.2)

theorem prints_form {head : String} (hw : IsWord head) {items : List (List Char)}
    {tss : List (List Token)} (h : List.Forall₂ Prints items tss) :
    Prints (formChars head.toList items) (formTokens head tss.flatten) := by
  intro rest us hr hs
  have hclose : Renders (')' :: rest) (.rightParen :: us) := .token .rightParen trivial hs
  obtain ⟨hstop, hitems⟩ := renders_spaced h (by simp [Stops]) hclose
  have hhead := (spells_word hw).prints _ _ hstop hitems
  simpa [formChars, formTokens] using Renders.token .leftParen trivial hhead

mutual

/-- **A printed expression is read as its tokens.** -/
theorem prints_chars : ∀ (e : Expr), (∀ call ∈ e.calls, Readable call) → Prints e.chars e.tokens
  | .all [], _ => (spells_boolChars true).prints
  | .any [], _ => (spells_boolChars false).prints
  | .all (e :: es), h =>
    prints_form (isWord_of_all (c := 'a') rfl rfl rfl) (prints_charsList (e :: es) h)
  | .any (e :: es), h =>
    prints_form (isWord_of_all (c := 'o') rfl rfl rfl) (prints_charsList (e :: es) h)
  | .not e, h => by
    have hw : IsWord "not" := isWord_of_all (c := 'n') rfl rfl rfl
    have hp := prints_form hw (.cons (prints_chars e h) .nil)
    rwa [List.flatten_singleton] at hp
  | .predicate name args, h => by
    have hr : Readable (name, args) := h _ List.mem_cons_self
    have hargs : List.Forall₂ Prints (args.map Literal.chars) (args.map fun l => [l.token]) := by
      rw [List.forall₂_map_left_iff, List.forall₂_map_right_iff, List.forall₂_same]
      intro l hl
      exact (spells_literal fun p hlp => hr.patterns p (hlp ▸ hl)).prints
    have hp := prints_form hr.name.word hargs
    rwa [← List.flatMap_def, ← List.map_eq_flatMap] at hp

theorem prints_charsList : ∀ (es : List Expr), (∀ call ∈ Expr.callsList es, Readable call) →
    List.Forall₂ Prints (Expr.charsList es) (Expr.tokensList es)
  | [], _ => .nil
  | e :: es, h => by
    rw [Expr.callsList, List.forall_mem_append] at h
    exact .cons (prints_chars e h.1) (prints_charsList es h.2)

end

/-! ### The tokens of an expression derive it -/

theorem toLower_boolChars (b : Bool) :
    (String.ofList (boolChars b)).toLower = if b then "true" else "false" := by
  cases b with
  | true => exact toLower_of_all rfl
  | false => exact toLower_of_all rfl

theorem denotes_token (l : Literal) : Denotes l.token l := by
  cases l with
  | str s => exact .str s
  | regex p => exact .raw p.compile?_source
  | bool b =>
    cases b with
    | true => exact .true (toLower_boolChars true)
    | false => exact .false (toLower_boolChars false)
  | int n => exact .int n

mutual

theorem derives_tokens : ∀ (e : Expr) {d : Nat}, (∀ call ∈ e.calls, Readable call) →
    e.nesting + d ≤ maxDepth → Derives d e.tokens e
  | .all [], _, _, _ => .true (toLower_boolChars true)
  | .any [], _, _, _ => .false (toLower_boolChars false)
  | .all (e :: es), d, h, hd => by
    rw [Expr.nesting] at hd
    exact .and (by omega) (toLower_of_all rfl)
      (derivesAll_tokens (e :: es) h (by rw [Expr.nestingList]; omega))
  | .any (e :: es), d, h, hd => by
    rw [Expr.nesting] at hd
    exact .or (by omega) (toLower_of_all rfl)
      (derivesAll_tokens (e :: es) h (by rw [Expr.nestingList]; omega))
  | .not e, d, h, hd => by
    rw [Expr.nesting] at hd
    exact .not (by omega) (toLower_of_all rfl) (derives_tokens e h (by omega))
  | .predicate name args, d, h, hd => by
    rw [Expr.nesting] at hd
    have hname : IsName name := (h _ List.mem_cons_self).name
    have hlow : name.toLower = name := toLower_of_forall_not_isUpper hname.lower
    have hargs : List.Forall₂ Denotes (args.map Literal.token) args := by
      rw [List.forall₂_map_left_iff, List.forall₂_same]
      exact fun l _ => denotes_token l
    have he := Derives.predicate (d := d) (by omega) (hlow.symm ▸ hname.free) hargs
    rwa [hlow] at he

theorem derivesAll_tokens : ∀ (es : List Expr) {d : Nat}, (∀ call ∈ Expr.callsList es, Readable call) →
    Expr.nestingList es + d ≤ maxDepth → DerivesAll d (Expr.tokensList es).flatten es
  | [], _, _, _ => .nil
  | e :: es, d, h, hd => by
    rw [Expr.nestingList] at hd
    rw [Expr.callsList, List.forall_mem_append] at h
    exact .cons (derives_tokens e h.1 (by omega)) (derivesAll_tokens es h.2 (by omega))

end

/-! ### What tokens derive is printable -/

theorem isName_toLower {word : String} (h : ∃ text, Spells text (.ident word))
    (hw : word.toLower ∉ ["and", "or", "not"]) : IsName word.toLower := by
  obtain ⟨text, ht⟩ := h
  cases ht with
  | @ident c cs hc hcs =>
    have hl : (String.ofList (c :: cs)).toLower.toList = c.toLower :: cs.map Char.toLower := by
      rw [toList_toLower, String.toList_ofList, List.map_cons]
    refine ⟨⟨c.toLower, cs.map Char.toLower, hl, ?_, ?_⟩, ?_, hw⟩
    · exact startsWord_toLower.2 hc
    · intro d hd
      obtain ⟨b, hb, rfl⟩ := List.mem_map.1 hd
      rw [isWordTail_toLower]
      exact hcs b hb
    · intro d hd
      rw [hl, ← List.map_cons] at hd
      obtain ⟨b, -, rfl⟩ := List.mem_map.1 hd
      exact isUpper_toLower b

theorem not_mem_of_denotes {token : Token} {p : Pattern} (ht : ∃ text, Spells text token)
    (h : Denotes token (.regex p)) : '"' ∉ p.source.toList := by
  obtain ⟨text, ht⟩ := ht
  cases h with
  | raw hp =>
    cases ht with
    | raw hq => simpa [Pattern.source_of_compile? hp] using hq

def Spelled (ts : List Token) : Prop := ∀ t ∈ ts, ∃ text, Spells text t

theorem spelled_formTokens {word : String} {ts : List Token} (h : Spelled (formTokens word ts)) :
    (∃ text, Spells text (.ident word)) ∧ Spelled ts := by
  simp only [Spelled, formTokens, List.forall_mem_cons, List.forall_mem_append] at h
  exact ⟨h.2.1, h.2.2.1⟩

theorem Renders.spelled {cs : List Char} {ts : List Token} (h : Renders cs ts) : Spelled ts := by
  induction h with
  | nil => exact List.forall_mem_nil _
  | blank hc h ih => exact ih
  | @token text _ _ _ ht _ _ ih => exact List.forall_mem_cons.2 ⟨⟨text, ht⟩, ih⟩

mutual

theorem readable_of_derives : ∀ {d : Nat} {ts : List Token} {e : Expr}, Derives d ts e → Spelled ts →
    d ≤ maxDepth → (∀ call ∈ e.calls, Readable call) ∧ e.nesting + d ≤ maxDepth
  | _, _, _, .true _, _, hd => ⟨List.forall_mem_nil _, by simpa [Expr.nesting] using hd⟩
  | _, _, _, .false _, _, hd => ⟨List.forall_mem_nil _, by simpa [Expr.nesting] using hd⟩
  | d, _, .all es, .and hlt h he, hs, hd => by
    obtain ⟨hr, hn⟩ := readable_of_derivesAll he (spelled_formTokens hs).2 hlt
    have hes := nesting_all_le es
    exact ⟨hr, by omega⟩
  | d, _, .any es, .or hlt h he, hs, hd => by
    obtain ⟨hr, hn⟩ := readable_of_derivesAll he (spelled_formTokens hs).2 hlt
    have hes := nesting_any_le es
    exact ⟨hr, by omega⟩
  | d, _, .not e, .not hlt h he, hs, hd => by
    obtain ⟨hr, hn⟩ := readable_of_derives he (spelled_formTokens hs).2 hlt
    refine ⟨hr, ?_⟩
    rw [Expr.nesting]
    omega
  | d, _, _, .predicate hlt h he, hs, hd => by
    obtain ⟨hw, hts⟩ := spelled_formTokens hs
    refine ⟨List.forall_mem_singleton.2 ⟨isName_toLower hw h, ?_⟩, ?_⟩
    · intro p hp
      obtain ⟨token, ht, hden⟩ := exists_of_forall₂ he _ hp
      exact not_mem_of_denotes (hts token ht) hden
    · rw [Expr.nesting]
      omega

theorem readable_of_derivesAll : ∀ {d : Nat} {ts : List Token} {es : List Expr}, DerivesAll d ts es →
    Spelled ts → d ≤ maxDepth →
      (∀ call ∈ Expr.callsList es, Readable call) ∧ Expr.nestingList es + d ≤ maxDepth
  | _, _, _, .nil, _, hd => ⟨List.forall_mem_nil _, by simpa [Expr.nestingList] using hd⟩
  | d, _, e :: es, .cons he hes, hs, hd => by
    rw [Spelled, List.forall_mem_append] at hs
    obtain ⟨hr, hn⟩ := readable_of_derives he hs.1 hd
    obtain ⟨hrs, hns⟩ := readable_of_derivesAll hes hs.2 hd
    refine ⟨List.forall_mem_append.2 ⟨hr, hrs⟩, ?_⟩
    rw [Expr.nestingList]
    omega

end

/-! ### The round trip -/

theorem printable_of_parse {text : String} {e : Expr} (h : Expr.parse text = .ok e) : e.Printable := by
  obtain ⟨ls, hls, hp⟩ := parse_eq_ok.1 h
  have hs : Spelled (ls.map Lexeme.token) := (renders_of_lexFrom hls).spelled
  obtain ⟨hr, hn⟩ := readable_of_derives (derives_of_ofLexemes hp) hs (Nat.zero_le _)
  exact ⟨hr, hn⟩

theorem parse_print {e : Expr} (h : e.Printable) : Expr.parse e.print = .ok e := by
  have hr : Renders e.print.toList e.tokens := by
    have hp := prints_chars e h.calls [] [] (by simp [Stops]) .nil
    simpa [Expr.print] using hp
  exact parse_of_renders hr (derives_tokens e h.calls h.shallow)

/-- **Printing and reading.** An expression is denoted by some text exactly if its printed text denotes it,
and exactly if it is printable. -/
theorem parse_print_tfae (e : Expr) :
    [∃ text, Expr.parse text = .ok e, Expr.parse e.print = .ok e, e.Printable].TFAE := by
  tfae_have 1 → 3 := fun ⟨_, h⟩ => printable_of_parse h
  tfae_have 3 → 2 := parse_print
  tfae_have 2 → 1 := fun h => ⟨e.print, h⟩
  tfae_finish

end InterceptAddons.Filter
