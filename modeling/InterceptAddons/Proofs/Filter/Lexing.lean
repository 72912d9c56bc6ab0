import InterceptAddons.Filter.Token
import InterceptAddons.Proofs.Text.Characters
import InterceptAddons.Proofs.Text.Numeral
import Mathlib.Data.List.TakeWhile

/-!
# The spelling of tokens

`Spells text token`: the characters `text` are one way to write `token`. `Ends token rest`: in front of `rest`
the token does not go on. The scanner reads exactly such texts (`scan_of_spells`, `spells_of_scan`). Main
statement: `lex_iff_renders`, a text is cut into tokens exactly if it consists of their texts, with white space
between them where they would run together.
-/

namespace InterceptAddons.Filter

open InterceptAddons.Text

/-! ### Strings -/

/-- The characters that stand for another one after a backslash. -/
def shortEscapes : List (Char × Char) := [('n', '\n'), ('t', '\t'), ('r', '\r'), ('\\', '\\'), ('"', '"')]

/-- The characters that stand between the quotes of a string, and those they denote. -/
inductive Quotes : List Char → List Char → Prop
  | nil : Quotes [] []
  | plain {c : Char} {body s : List Char} (hc : c ∉ ['"', '\\']) (h : Quotes body s) :
    Quotes (c :: body) (c :: s)
  | short {e c : Char} {body s : List Char} (he : (e, c) ∈ shortEscapes) (h : Quotes body s) :
    Quotes ('\\' :: e :: body) (c :: s)
  | hex {high low c : Char} {body s : List Char} (hc : hexPair? high low = some c) (h : Quotes body s) :
    Quotes ('\\' :: 'x' :: high :: low :: body) (c :: s)

theorem utf8Size_of_hexValue? {c : Char} {n : Nat} (h : hexValue? c = some n) : c.utf8Size = 1 :=
  of_ascii (P := fun c => c.utf8Size = 1) (by decide) (lt_of_hexValue? h)

theorem utf8Size_of_hexPair? {high low c : Char} (h : hexPair? high low = some c) :
    high.utf8Size = 1 ∧ low.utf8Size = 1 := by
  unfold hexPair? at h
  split at h
  · next hh hl => exact ⟨utf8Size_of_hexValue? hh, utf8Size_of_hexValue? hl⟩
  · cases h

theorem readQuoted_plain {c : Char} (h : c ∉ ['"', '\\']) (start pos : Nat) (cs : List Char) :
    readQuoted start pos (c :: cs) = (readQuoted start (pos + c.utf8Size) cs).map (Cut.cons c) := by
  rw [readQuoted.eq_12] <;> simp_all

theorem readQuoted_short {e c : Char} (h : (e, c) ∈ shortEscapes) (start pos : Nat) (cs : List Char) :
    readQuoted start pos ('\\' :: e :: cs) = (readQuoted start (pos + 2) cs).map (Cut.cons c) := by
  simp only [shortEscapes, List.mem_cons, Prod.mk.injEq, List.not_mem_nil, or_false] at h
  obtain ⟨rfl, rfl⟩ | ⟨rfl, rfl⟩ | ⟨rfl, rfl⟩ | ⟨rfl, rfl⟩ | ⟨rfl, rfl⟩ := h <;> rw [readQuoted]

theorem readQuoted_hex {high low c : Char} (h : hexPair? high low = some c) (start pos : Nat)
    (cs : List Char) :
    readQuoted start pos ('\\' :: 'x' :: high :: low :: cs) =
      (readQuoted start (pos + 4) cs).map (Cut.cons c) := by
  rw [readQuoted, h]

/-- A quoted string is read up to its closing quote. -/
theorem readQuoted_of_quotes {body s : List Char} (h : Quotes body s) (start pos : Nat)
    (rest : List Char) :
    readQuoted start pos (body ++ '"' :: rest) = .ok (s, pos + byteSize body + 1, rest) := by
  induction h generalizing pos with
  | nil => simp [readQuoted, byteSize]
  | @plain c body s hc h ih =>
    rw [List.cons_append, readQuoted_plain hc, ih, byteSize]
    simp [Except.map, Cut.cons, Nat.add_assoc]
  | @short e c body s he h ih =>
    rw [List.cons_append, List.cons_append, readQuoted_short he, ih]
    have he' : e.utf8Size = 1 := by
      simp only [shortEscapes, List.mem_cons, Prod.mk.injEq, List.not_mem_nil, or_false] at he
      obtain ⟨rfl, -⟩ | ⟨rfl, -⟩ | ⟨rfl, -⟩ | ⟨rfl, -⟩ | ⟨rfl, -⟩ := he <;> rfl
    simp only [Except.map, Cut.cons, byteSize, he', Except.ok.injEq, Prod.mk.injEq, true_and, and_true]
    have : Char.utf8Size '\\' = 1 := rfl
    omega
  | @hex high low c body s hc h ih =>
    obtain ⟨hh, hl⟩ := utf8Size_of_hexPair? hc
    simp only [List.cons_append]
    rw [readQuoted_hex hc, ih]
    simp only [Except.map, Cut.cons, byteSize, hh, hl, Except.ok.injEq, Prod.mk.injEq, true_and, and_true]
    have : Char.utf8Size '\\' = 1 := rfl
    have : Char.utf8Size 'x' = 1 := rfl
    omega

theorem map_cons_eq_ok {c : Char} {r : Except SyntaxError Cut} {cut : Cut}
    (h : r.map (Cut.cons c) = .ok cut) : ∃ cut', r = .ok cut' ∧ cut = cut'.cons c := by
  cases r with
  | error e => cases h
  | ok cut' => exact ⟨cut', rfl, (Except.ok.inj h).symm⟩

/-- What is read up to a closing quote is a quoted string. -/
theorem quotes_of_readQuoted {start pos : Nat} {cs : List Char} {cut : Cut}
    (h : readQuoted start pos cs = .ok cut) :
    ∃ body, cs = body ++ '"' :: cut.2.2 ∧ Quotes body cut.1 := by
  fun_induction readQuoted start pos cs generalizing cut with
  | case1 | case3 | case10 | case11 | case12 => cases h
  | case2 pos cs =>
    obtain rfl := Except.ok.inj h
    exact ⟨[], rfl, .nil⟩
  | case4 pos cs ih | case5 pos cs ih | case6 pos cs ih | case7 pos cs ih | case8 pos cs ih =>
    obtain ⟨cut', h', rfl⟩ := map_cons_eq_ok h
    obtain ⟨body, rfl, hb⟩ := ih h'
    exact ⟨'\\' :: _ :: body, rfl, .short (by decide) hb⟩
  | case9 pos high low cs c hc ih =>
    obtain ⟨cut', h', rfl⟩ := map_cons_eq_ok h
    obtain ⟨body, rfl, hb⟩ := ih h'
    exact ⟨'\\' :: 'x' :: high :: low :: body, rfl, .hex hc hb⟩
  | case13 pos c cs hq hend _ _ _ _ _ _ _ hesc ih =>
    obtain ⟨cut', h', rfl⟩ := map_cons_eq_ok h
    obtain ⟨body, rfl, hb⟩ := ih h'
    have hc : c ∉ ['"', '\\'] := by
      intro hc
      rw [List.mem_cons, List.mem_singleton] at hc
      -- behind a backslash there is always a further character, namely the closing quote at least
      rcases hc with rfl | rfl
      · exact hq rfl
      · cases body with
        | nil => exact hesc _ _ rfl rfl
        | cons e body => exact hesc _ _ rfl rfl
    exact ⟨c :: body, rfl, .plain hc hb⟩

theorem readRaw_append {body : List Char} (h : '"' ∉ body) (start pos : Nat) (rest : List Char) :
    readRaw start pos (body ++ '"' :: rest) = .ok (body, pos + byteSize body + 1, rest) := by
  induction body generalizing pos with
  | nil => simp [readRaw, byteSize]
  | cons c body ih =>
    rw [List.mem_cons, not_or] at h
    rw [List.cons_append, readRaw, if_neg (Ne.symm h.1), ih h.2, byteSize]
    simp [Except.map, Cut.cons, Nat.add_assoc]

theorem eq_append_of_readRaw {start pos : Nat} {cs : List Char} {cut : Cut}
    (h : readRaw start pos cs = .ok cut) : cs = cut.1 ++ '"' :: cut.2.2 ∧ '"' ∉ cut.1 := by
  induction cs generalizing pos cut with
  | nil => cases h
  | cons c cs ih =>
    rw [readRaw] at h
    split at h
    · next hc =>
      obtain rfl := Except.ok.inj h
      exact ⟨by rw [hc]; rfl, List.not_mem_nil⟩
    · next hc =>
      obtain ⟨cut', h', rfl⟩ := map_cons_eq_ok h
      obtain ⟨hcs, hq⟩ := ih h'
      exact ⟨congrArg (c :: ·) hcs, List.not_mem_cons_of_ne_of_not_mem (Ne.symm hc) hq⟩

/-! ### Tokens -/

/-- The texts of a token. -/
inductive Spells : List Char → Token → Prop
  | leftParen : Spells ['('] .leftParen
  | rightParen : Spells [')'] .rightParen
  | str {body s : List Char} (h : Quotes body s) :
    Spells ('"' :: (body ++ ['"'])) (.str (String.ofList s))
  | raw {body : List Char} (h : '"' ∉ body) :
    Spells ('r' :: '"' :: (body ++ ['"'])) (.raw (String.ofList body))
  | int {c : Char} {cs : List Char} {n : Int64} (hc : c.isDigit ∨ c = '-')
    (hcs : ∀ d ∈ cs, d.isAlphanum) (hn : integer? (c :: cs) = some n) : Spells (c :: cs) (.int n)
  | ident {c : Char} {cs : List Char} (hc : isAlphabetic c ∨ c = '_') (hcs : ∀ d ∈ cs, isWordTail d) :
    Spells (c :: cs) (.ident (String.ofList (c :: cs)))

/-- Where a token is over: a number does not go on, nor does a word, which is not the `r` of a raw string
either. -/
def Ends : Token → List Char → Prop
  | .int _, rest => ∀ c ∈ rest.head?, c.isAlphanum = false
  | .ident word, rest => ∀ c ∈ rest.head?, isWordTail c = false ∧ (word = "r" → c ≠ '"')
  | _, _ => True

theorem byteSize_append (cs ds : List Char) : byteSize (cs ++ ds) = byteSize cs + byteSize ds := by
  induction cs with
  | nil => simp [byteSize]
  | cons c cs ih => rw [List.cons_append, byteSize, byteSize, ih, Nat.add_assoc]

theorem takeWhile_append_of_head? {p : Char → Bool} {cs rest : List Char} (hcs : ∀ c ∈ cs, p c = true)
    (hr : ∀ c ∈ rest.head?, p c = false) : (cs ++ rest).takeWhile p = cs := by
  rw [List.takeWhile_append_of_pos hcs]
  cases rest with
  | nil => simp
  | cons c rest => simp [hr c rfl]

theorem dropWhile_append_of_head? {p : Char → Bool} {cs rest : List Char} (hcs : ∀ c ∈ cs, p c = true)
    (hr : ∀ c ∈ rest.head?, p c = false) : (cs ++ rest).dropWhile p = rest := by
  rw [List.dropWhile_append_of_pos hcs]
  cases rest with
  | nil => simp
  | cons c rest => simp [hr c rfl]

theorem head?_dropWhile {p : Char → Bool} {cs : List Char} : ∀ c ∈ (cs.dropWhile p).head?, p c = false := by
  intro c hc
  have h := List.head?_dropWhile_not p cs
  rw [Option.mem_def.1 hc] at h
  exact h

/-- A number or a word starts with none of the characters that open other tokens. -/
theorem ne_of_isDigit {c : Char} (h : c.isDigit ∨ c = '-') :
    c ≠ '(' ∧ c ≠ ')' ∧ c ≠ '"' ∧ c ≠ 'r' := by
  refine ⟨?_, ?_, ?_, ?_⟩ <;> rintro rfl <;> revert h <;> decide

theorem ne_of_isAlphabetic {c : Char} (h : isAlphabetic c ∨ c = '_') :
    c ≠ '(' ∧ c ≠ ')' ∧ c ≠ '"' ∧ c ≠ '-' := by
  refine ⟨?_, ?_, ?_, ?_⟩ <;> rintro rfl <;> revert h <;> decide

theorem not_isDigit_of_isAlphabetic {c : Char} (h : isAlphabetic c ∨ c = '_') : c.isDigit = false := by
  by_contra hd
  rw [Bool.not_eq_false] at hd
  exact of_ascii (P := fun c => isAlphabetic c ∨ c = '_' → ¬c.isDigit) (by decide) (lt_of_isDigit hd) h hd

theorem not_isBlank_of_isDigit {c : Char} (h : c.isDigit ∨ c = '-') : isBlank c = false := by
  rcases h with h | rfl
  · by_contra hb
    rw [Bool.not_eq_false] at hb
    simp [isDigit_of_isBlank hb] at h
  · decide

theorem not_isBlank_of_isAlphabetic {c : Char} (h : isAlphabetic c ∨ c = '_') : isBlank c = false := by
  rcases h with h | rfl
  · by_contra hb
    rw [Bool.not_eq_false] at hb
    simp [isAlphabetic_of_isBlank hb] at h
  · decide

theorem isWordTail_toLower (c : Char) : isWordTail c.toLower = isWordTail c := apply_toLower (by decide) c

theorem startsWord_toLower {c : Char} :
    isAlphabetic c.toLower ∨ c.toLower = '_' ↔ isAlphabetic c ∨ c = '_' :=
  iff_of_eq (apply_toLower (f := fun c => isAlphabetic c ∨ c = '_')
    (fun n hn => propext (by revert n; decide)) c)

/-- **A spelled token is read**, where the text after it does not prolong it. -/
theorem scan_of_spells {text rest : List Char} {token : Token} (h : Spells text token)
    (he : Ends token rest) (pos : Nat) :
    ∃ c cs, text ++ rest = c :: cs ∧ isBlank c = false ∧
      scan pos c cs = .ok (token, pos + byteSize text, rest) := by
  cases h with
  | leftParen => exact ⟨'(', rest, rfl, by decide, rfl⟩
  | rightParen => exact ⟨')', rest, rfl, by decide, rfl⟩
  | @str body s h =>
    refine ⟨'"', body ++ '"' :: rest, by simp, by decide, ?_⟩
    rw [scan, if_neg (by decide), if_neg (by decide), if_pos rfl, readQuoted_of_quotes h]
    have hs : byteSize ('"' :: (body ++ ['"'])) = 1 + (byteSize body + 1) := by
      rw [byteSize, byteSize_append]
      rfl
    rw [hs]
    simp [Except.map, Nat.add_assoc]
  | @raw body h =>
    refine ⟨'r', '"' :: (body ++ '"' :: rest), by simp, by decide, ?_⟩
    rw [scan, if_neg (by decide), if_neg (by decide), if_neg (by decide), if_pos ⟨rfl, rfl⟩, List.tail_cons,
      readRaw_append h]
    have hs : byteSize ('r' :: '"' :: (body ++ ['"'])) = 1 + (1 + (byteSize body + 1)) := by
      rw [byteSize, byteSize, byteSize_append]
      rfl
    rw [hs]
    simp only [Except.map, Except.ok.injEq, Prod.mk.injEq, true_and, and_true]
    omega
  | @int c cs n hc hcs hn =>
    refine ⟨c, cs ++ rest, rfl, not_isBlank_of_isDigit hc, ?_⟩
    obtain ⟨h₁, h₂, h₃, h₄⟩ := ne_of_isDigit hc
    rw [scan, if_neg h₁, if_neg h₂, if_neg h₃, if_neg (fun h => h₄ h.1), if_pos hc,
      takeWhile_append_of_head? hcs he, dropWhile_append_of_head? hcs he]
    simp only [hn]
  | @ident c cs hc hcs =>
    refine ⟨c, cs ++ rest, rfl, not_isBlank_of_isAlphabetic hc, ?_⟩
    obtain ⟨h₁, h₂, h₃, h₄⟩ := ne_of_isAlphabetic hc
    have hr : ¬(c = 'r' ∧ (cs ++ rest).head? = some '"') := by
      -- a word that starts with `r` goes on with a character of words, or ends where no quote follows
      rintro ⟨rfl, hq⟩
      cases cs with
      | nil => exact (he _ hq).2 rfl rfl
      | cons d cs =>
        obtain rfl : d = '"' := Option.some.inj hq
        exact absurd (hcs '"' List.mem_cons_self) (by decide)
    have hd : ¬(c.isDigit ∨ c = '-') := by
      simp [not_isDigit_of_isAlphabetic hc, h₄]
    have he' : ∀ c ∈ rest.head?, isWordTail c = false := fun c hc => (he c hc).1
    rw [scan, if_neg h₁, if_neg h₂, if_neg h₃, if_neg hr, if_neg hd, if_pos hc,
      takeWhile_append_of_head? hcs he', dropWhile_append_of_head? hcs he']

/-- **What is read is spelled**, and the text after it does not prolong it. -/
theorem spells_of_scan {pos pos' : Nat} {c : Char} {cs rest : List Char} {token : Token}
    (h : scan pos c cs = .ok (token, pos', rest)) :
    ∃ text, c :: cs = text ++ rest ∧ Spells text token ∧ Ends token rest := by
  unfold scan at h
  split at h
  · next hc =>
    cases h
    exact ⟨['('], by rw [hc]; rfl, .leftParen, trivial⟩
  split at h
  · next hc =>
    cases h
    exact ⟨[')'], by rw [hc]; rfl, .rightParen, trivial⟩
  split at h
  · next hc =>
    cases hr : readQuoted pos (pos + 1) cs with
    | error e => simp [hr, Except.map] at h
    | ok cut =>
      simp only [hr, Except.map, Except.ok.injEq, Prod.mk.injEq] at h
      obtain ⟨rfl, hcut⟩ := h
      obtain ⟨body, rfl, hb⟩ := quotes_of_readQuoted hr
      refine ⟨'"' :: (body ++ ['"']), ?_, .str hb, trivial⟩
      simp [hc, hcut]
  split at h
  · next hc =>
    cases hr : readRaw pos (pos + 2) cs.tail with
    | error e => simp [hr, Except.map] at h
    | ok cut =>
      simp only [hr, Except.map, Except.ok.injEq, Prod.mk.injEq] at h
      obtain ⟨rfl, hcut⟩ := h
      obtain ⟨hcs, hq⟩ := eq_append_of_readRaw hr
      obtain ⟨cs', rfl⟩ := List.head?_eq_some_iff.1 hc.2
      refine ⟨'r' :: '"' :: (cut.1 ++ ['"']), ?_, .raw hq, trivial⟩
      rw [List.tail_cons] at hcs
      simp [hc.1, hcs, hcut]
  split at h
  · next hc =>
    dsimp only at h
    split at h
    · next n hn =>
      cases h
      refine ⟨c :: cs.takeWhile Char.isAlphanum, by simp, .int hc (fun d hd => List.mem_takeWhile_imp hd) hn,
        head?_dropWhile⟩
    · cases h
  split at h
  · next hr _ hc =>
    cases h
    refine ⟨c :: cs.takeWhile isWordTail, by simp, .ident hc (fun d hd => List.mem_takeWhile_imp hd), ?_⟩
    intro d hd
    refine ⟨head?_dropWhile d hd, ?_⟩
    rintro hw rfl
    have hs : c :: cs.takeWhile isWordTail = ['r'] := by simpa using congrArg String.toList hw
    rw [List.cons.injEq] at hs
    refine hr ⟨hs.1, ?_⟩
    rw [← List.takeWhile_append_dropWhile (p := isWordTail) (l := cs), hs.2]
    exact hd
  · cases h

/-! ### Texts -/

/-- The texts of a list of tokens: white space may stand anywhere between them, and no token is prolonged by
what follows it. -/
inductive Renders : List Char → List Token → Prop
  | nil : Renders [] []
  | blank {c : Char} {cs : List Char} {ts : List Token} (hc : isBlank c = true) (h : Renders cs ts) :
    Renders (c :: cs) ts
  | token {text rest : List Char} {token : Token} {ts : List Token} (ht : Spells text token)
    (he : Ends token rest) (h : Renders rest ts) : Renders (text ++ rest) (token :: ts)

theorem lexFrom_of_isBlank {c : Char} (h : isBlank c = true) (pos : Nat) (cs : List Char) :
    lexFrom pos (c :: cs) = lexFrom (pos + c.utf8Size) cs := by
  rw [lexFrom, if_pos h]

theorem lexFrom_of_scan {c : Char} {cs rest : List Char} {token : Token} {pos pos' : Nat} (hb : isBlank c = false)
    (hs : scan pos c cs = .ok (token, pos', rest)) :
    lexFrom pos (c :: cs) = (lexFrom pos' rest).map (⟨token, pos⟩ :: ·) := by
  rw [lexFrom, if_neg (by simp [hb])]
  split
  · next e he => simp [hs] at he
  · next he =>
    rw [hs] at he
    cases he
    rfl

theorem lexFrom_of_scan_error {c : Char} {cs : List Char} {pos : Nat} {err : SyntaxError} (hb : isBlank c = false)
    (hs : scan pos c cs = .error err) : lexFrom pos (c :: cs) = .error err := by
  rw [lexFrom, if_neg (by simp [hb])]
  split
  · next e he =>
    rw [hs] at he
    cases he
    rfl
  · next he => simp [hs] at he

theorem lexFrom_of_spells {text rest : List Char} {token : Token} (h : Spells text token)
    (he : Ends token rest) (pos : Nat) :
    lexFrom pos (text ++ rest) =
      (lexFrom (pos + byteSize text) rest).map (⟨token, pos⟩ :: ·) := by
  obtain ⟨c, cs, htext, hb, hs⟩ := scan_of_spells h he pos
  rw [htext]
  exact lexFrom_of_scan hb hs

theorem lexFrom_of_renders {cs : List Char} {ts : List Token} (h : Renders cs ts) (pos : Nat) :
    ∃ ls, lexFrom pos cs = .ok ls ∧ ls.map Lexeme.token = ts := by
  induction h generalizing pos with
  | nil => exact ⟨[], by rw [lexFrom], rfl⟩
  | blank hc h ih =>
    rw [lexFrom_of_isBlank hc]
    exact ih _
  | token ht he h ih =>
    obtain ⟨ls, hls, rfl⟩ := ih _
    rw [lexFrom_of_spells ht he, hls]
    exact ⟨_, rfl, rfl⟩

theorem renders_of_lexFrom {pos : Nat} {cs : List Char} {ls : List Lexeme} (h : lexFrom pos cs = .ok ls) :
    Renders cs (ls.map Lexeme.token) := by
  fun_induction lexFrom pos cs generalizing ls with
  | case1 =>
    obtain rfl := Except.ok.inj h
    exact .nil
  | case2 pos c cs hc ih => exact .blank hc (ih h)
  | case3 => cases h
  | case4 pos c cs hc token pos' rest hs ih =>
    cases hr : lexFrom pos' rest with
    | error e => simp [hr, Except.map] at h
    | ok ls' =>
      rw [hr] at h
      obtain rfl := Except.ok.inj h
      obtain ⟨text, htext, ht, he⟩ := spells_of_scan hs
      rw [htext]
      exact .token ht he (ih hr)

/-- **The texts of tokens.** A text is cut into tokens exactly if it renders them. -/
theorem lex_iff_renders {text : String} {ts : List Token} :
    (∃ ls, lex text = .ok ls ∧ ls.map Lexeme.token = ts) ↔ Renders text.toList ts := by
  constructor
  · rintro ⟨ls, hls, rfl⟩
    exact renders_of_lexFrom hls
  · exact fun h => lexFrom_of_renders h 0

end InterceptAddons.Filter
