import InterceptAddons.Json.Value
import Mathlib.Data.List.Forall2

/-!
# How values are spelled

A value is a row of symbols (`Value.symbols`), a symbol has spellings (`Symbol.Spells`), and white space may stand
anywhere between symbols (`Renders`). Characters of a string stand as they are or behind a backslash, by a letter or
by the number of a unit. Main statement: `lex_of_renders`, every text that renders symbols is cut into tokens with
that meaning.
-/

namespace InterceptAddons.Json

open InterceptAddons.Text

/-! ### Strings -/

/-- The letters that stand for a character behind a backslash. -/
def shortEscapes : List (Char × Char) :=
  [('"', '"'), ('\\', '\\'), ('/', '/'), ('b', '\x08'), ('f', '\x0c'), ('n', '\n'), ('r', '\r'), ('t', '\t')]

/-- Four hexadecimal digits of a unit of 16 bits. -/
structure UnitDigits (n : Nat) where
  first : Char
  second : Char
  third : Char
  fourth : Char
  value : digitsValue? 16 0 [first, second, third, fourth] = some n

def UnitDigits.chars {n : Nat} (u : UnitDigits n) : List Char := [u.first, u.second, u.third, u.fourth]

/-- What may stand between the quotes of a string for its characters. A character beyond the first plane is
numbered by two units. -/
inductive Quotes : List Char → List Char → Prop
  | nil : Quotes [] []
  | plain {c : Char} {cs s : List Char} (hquote : c ≠ '"') (hslash : c ≠ '\\') (hcontrol : 0x20 ≤ c.toNat)
    (h : Quotes cs s) : Quotes (c :: cs) (c :: s)
  | short {e c : Char} {cs s : List Char} (he : (e, c) ∈ shortEscapes) (h : Quotes cs s) :
    Quotes ('\\' :: e :: cs) (c :: s)
  | unit {c : Char} {cs s : List Char} (u : UnitDigits c.toNat) (h : Quotes cs s) :
    Quotes ('\\' :: 'u' :: (u.chars ++ cs)) (c :: s)
  | pair {c : Char} {high low : Nat} {cs s : List Char} (hhigh : 0xD800 ≤ high ∧ high < 0xDC00)
    (hlow : 0xDC00 ≤ low ∧ low < 0xE000) (hc : c.toNat = 0x10000 + 0x400 * (high - 0xD800) + (low - 0xDC00))
    (u : UnitDigits high) (v : UnitDigits low) (h : Quotes cs s) :
    Quotes ('\\' :: 'u' :: (u.chars ++ '\\' :: 'u' :: (v.chars ++ cs))) (c :: s)

/-! ### Symbols -/

/-- A symbol of a text: a token by what it means. -/
inductive Symbol
  | beginArray
  | endArray
  | beginObject
  | endObject
  | comma
  | colon
  | null
  | bool (b : Bool)
  | number (n : Number)
  | string (s : String)

def joined : List (List Symbol) → List Symbol
  | [] => []
  | xs :: xss => xs ++ xss.flatMap (.comma :: ·)

@[simp] theorem joined_cons (xs : List Symbol) (xss : List (List Symbol)) :
    joined (xs :: xss) = xs ++ xss.flatMap (.comma :: ·) := rfl

mutual

def Value.symbols : Value → List Symbol
  | .null => [.null]
  | .bool b => [.bool b]
  | .number n => [.number n]
  | .string s => [.string s]
  | .array items => .beginArray :: (joined (symbolsOfItems items) ++ [.endArray])
  | .object members => .beginObject :: (joined (symbolsOfMembers members) ++ [.endObject])

def symbolsOfItems : List Value → List (List Symbol)
  | [] => []
  | v :: vs => v.symbols :: symbolsOfItems vs

def symbolsOfMembers : List (String × Value) → List (List Symbol)
  | [] => []
  | (k, v) :: ms => (.string k :: .colon :: v.symbols) :: symbolsOfMembers ms

end

/-- The spellings of a symbol. Numbers have none here: what is spelled holds no numbers. -/
inductive Symbol.Spells : Symbol → List Char → Prop
  | beginArray : Spells .beginArray ['[']
  | endArray : Spells .endArray [']']
  | beginObject : Spells .beginObject ['\x7b']
  | endObject : Spells .endObject ['\x7d']
  | comma : Spells .comma [',']
  | colon : Spells .colon [':']
  | null : Spells .null ['n', 'u', 'l', 'l']
  | true : Spells (.bool .true) ['t', 'r', 'u', 'e']
  | false : Spells (.bool .false) ['f', 'a', 'l', 's', 'e']
  | string {s : String} {cs : List Char} (h : Quotes cs s.toList) : Spells (.string s) ('"' :: (cs ++ ['"']))

def spaces : List Char := [' ', '\n', '\t', '\r']

/-- A text spells symbols in order, with any white space before, between and behind them. -/
inductive Renders : List Symbol → List Char → Prop
  | nil : Renders [] []
  | space {c : Char} {xs : List Symbol} {cs : List Char} (hc : c ∈ spaces) (h : Renders xs cs) :
    Renders xs (c :: cs)
  | symbol {x : Symbol} {t : List Char} {xs : List Symbol} {cs : List Char} (hx : x.Spells t)
    (h : Renders xs cs) : Renders (x :: xs) (t ++ cs)

/-! ### Reading strings -/

theorem shortEscape?_of_mem {e c : Char} (h : (e, c) ∈ shortEscapes) : shortEscape? e = some c ∧ e ≠ 'u' := by
  simp only [shortEscapes, List.mem_cons, Prod.mk.injEq, List.not_mem_nil, or_false] at h
  rcases h with ⟨rfl, rfl⟩ | ⟨rfl, rfl⟩ | ⟨rfl, rfl⟩ | ⟨rfl, rfl⟩ | ⟨rfl, rfl⟩ | ⟨rfl, rfl⟩ | ⟨rfl, rfl⟩ | ⟨rfl, rfl⟩ <;>
    exact ⟨rfl, by decide⟩

theorem scanString_plain {c : Char} (hquote : c ≠ '"') (hslash : c ≠ '\\') (hcontrol : 0x20 ≤ c.toNat)
    (cs : Source) : scanString (some c :: cs) = (scanString cs).cons (.char (some c)) := by
  have hc : isControl (some c) = false := by
    simp only [isControl, Option.any_some, decide_eq_false_iff_not]
    omega
  rw [scanString, hc]
  · rfl
  all_goals simp [hquote, hslash]

theorem scanString_short {e c : Char} (he : (e, c) ∈ shortEscapes) (cs : Source) :
    scanString (some '\\' :: some e :: cs) = (scanString cs).cons (.char (some c)) := by
  obtain ⟨hc, hu⟩ := shortEscape?_of_mem he
  rw [scanString, hc]
  all_goals simp [hu]

theorem scanString_unit {n : Nat} (u : UnitDigits n) (cs : Source) :
    scanString (some '\\' :: some 'u' :: (u.chars.map some ++ cs)) = (scanString cs).cons (.unit n) := by
  have hn : unitValue? [some u.first, some u.second, some u.third, some u.fourth] = some n := u.value
  show scanString (some '\\' :: some 'u' :: some u.first :: some u.second :: some u.third :: some u.fourth :: cs) = _
  rw [scanString, hn]

/-- The number of a character is no unit of a pair. -/
theorem not_isUnit_toNat (c : Char) : isHighUnit c.toNat = false ∧ isLowUnit c.toNat = false := by
  have hvalid : c.toNat < 0xD800 ∨ 0xDFFF < c.toNat ∧ c.toNat < 0x110000 := c.valid
  simp only [isHighUnit, isLowUnit, Bool.and_eq_false_iff, decide_eq_false_iff_not]
  omega

theorem readParts_unit (c : Char) (ps : List Part) :
    readParts none (.unit c.toNat :: ps) = (readParts none ps).map (some c :: ·) := by
  obtain ⟨hhigh, hlow⟩ := not_isUnit_toNat c
  cases ps with
  | nil => simp [readParts, hhigh, hlow, Char.ofNat_toNat]
  | cons p ps => cases p <;> simp [readParts, hhigh, hlow, Char.ofNat_toNat]

theorem readParts_pair {c : Char} {high low : Nat} (hhigh : 0xD800 ≤ high ∧ high < 0xDC00)
    (hlow : 0xDC00 ≤ low ∧ low < 0xE000) (hc : c.toNat = 0x10000 + 0x400 * (high - 0xD800) + (low - 0xDC00))
    (ps : List Part) :
    readParts none (.unit high :: .unit low :: ps) = (readParts none ps).map (some c :: ·) := by
  have hjoin : joinUnits high low = c := by
    rw [joinUnits, ← hc, Char.ofNat_toNat]
  simp [readParts, isHighUnit, isLowUnit, hhigh, hlow, hjoin]

/-- A string is cut at its closing quote, and its parts have the characters that it spells. -/
theorem scanString_of_quotes {cs s : List Char} (h : Quotes cs s) (rest : Source) :
    ∃ parts, scanString (cs.map some ++ some '"' :: rest) = (⟨parts, none⟩, rest) ∧
      readParts none parts = .ok (s.map some) := by
  induction h with
  | nil => exact ⟨[], rfl, rfl⟩
  | @plain c cs s hquote hslash hcontrol _ ih =>
    obtain ⟨parts, hscan, hread⟩ := ih
    refine ⟨.char (some c) :: parts, ?_, ?_⟩
    · rw [List.map_cons, List.cons_append, scanString_plain hquote hslash hcontrol, hscan]
      rfl
    · rw [readParts, hread]
      rfl
  | @short e c cs s he _ ih =>
    obtain ⟨parts, hscan, hread⟩ := ih
    refine ⟨.char (some c) :: parts, ?_, ?_⟩
    · simp only [List.map_cons, List.cons_append]
      rw [scanString_short he, hscan]
      rfl
    · rw [readParts, hread]
      rfl
  | @unit c cs s u _ ih =>
    obtain ⟨parts, hscan, hread⟩ := ih
    refine ⟨.unit c.toNat :: parts, ?_, ?_⟩
    · simp only [List.map_cons, List.map_append, List.cons_append, List.append_assoc]
      rw [scanString_unit u, hscan]
      rfl
    · rw [readParts_unit, hread]
      rfl
  | @pair c high low cs s hhigh hlow hc u v _ ih =>
    obtain ⟨parts, hscan, hread⟩ := ih
    refine ⟨.unit high :: .unit low :: parts, ?_, ?_⟩
    · simp only [List.map_cons, List.map_append, List.cons_append, List.append_assoc]
      rw [scanString_unit u, scanString_unit v, hscan]
      rfl
    · rw [readParts_pair hhigh hlow hc, hread]
      rfl

theorem mapM_id_map_some (cs : List Char) : (cs.map some).mapM id = some cs := by
  induction cs with
  | nil => rfl
  | cons c cs ih => simp [List.mapM_cons, ih]

theorem text_of_readParts {parts : List Part} {s : String} (h : readParts none parts = .ok (s.toList.map some)) :
    Quotation.text ⟨parts, none⟩ = .ok s := by
  have hs : String.ofList s.toList = s := String.ofList_toList
  rw [Quotation.text, h]
  simp only [Except.bind]
  rw [mapM_id_map_some]
  exact congrArg Except.ok hs

/-! ### Reading symbols -/

/-- What a token means. -/
inductive Token.Means : Token → Symbol → Prop
  | beginArray : Means .beginArray .beginArray
  | endArray : Means .endArray .endArray
  | beginObject : Means .beginObject .beginObject
  | endObject : Means .endObject .endObject
  | comma : Means .comma .comma
  | colon : Means .colon .colon
  | null : Means .null .null
  | bool (b : Bool) : Means (.bool b) (.bool b)
  | string {parts : List Part} {s : String} (h : Quotation.text ⟨parts, none⟩ = .ok s) :
    Means (.string ⟨parts, none⟩) (.string s)

/-- A spelling starts with no white space and is scanned up to its end. -/
theorem scan_of_spells {x : Symbol} {t : List Char} (hx : x.Spells t) (rest : Source) :
    ∃ c cs token, t = c :: cs ∧ isSpace (some c) = false ∧ scan (some c) (cs.map some ++ rest) = (token, rest) ∧
      token.Means x := by
  cases hx with
  | beginArray => exact ⟨_, _, _, rfl, rfl, rfl, .beginArray⟩
  | endArray => exact ⟨_, _, _, rfl, rfl, rfl, .endArray⟩
  | beginObject => exact ⟨_, _, _, rfl, rfl, rfl, .beginObject⟩
  | endObject => exact ⟨_, _, _, rfl, rfl, rfl, .endObject⟩
  | comma => exact ⟨_, _, _, rfl, rfl, rfl, .comma⟩
  | colon => exact ⟨_, _, _, rfl, rfl, rfl, .colon⟩
  | null => exact ⟨_, _, _, rfl, rfl, rfl, .null⟩
  | true => exact ⟨_, _, _, rfl, rfl, rfl, .bool .true⟩
  | false => exact ⟨_, _, _, rfl, rfl, rfl, .bool .false⟩
  | @string s cs h =>
    obtain ⟨parts, hscan, hread⟩ := scanString_of_quotes h rest
    refine ⟨'"', cs ++ ['"'], .string ⟨parts, none⟩, rfl, rfl, ?_, .string (text_of_readParts hread)⟩
    rw [List.map_append, List.append_assoc]
    show (Token.string (scanString (cs.map some ++ some '"' :: rest)).1,
      (scanString (cs.map some ++ some '"' :: rest)).2) = _
    rw [hscan]

theorem isSpace_of_mem {c : Char} (hc : c ∈ spaces) : isSpace (some c) = true := by
  simp only [spaces, List.mem_cons, List.not_mem_nil, or_false] at hc
  rcases hc with rfl | rfl | rfl | rfl <;> rfl

/-- **A text that renders symbols** is cut into tokens that mean them. -/
theorem lex_of_renders {xs : List Symbol} {cs : List Char} (h : Renders xs cs) :
    List.Forall₂ Token.Means (lex (cs.map some)) xs := by
  induction h with
  | nil =>
    rw [List.map_nil, lex]
    exact .nil
  | space hc _ ih =>
    rw [List.map_cons, lex, if_pos (isSpace_of_mem hc)]
    exact ih
  | @symbol x t xs cs hx _ ih =>
    obtain ⟨c, t, token, rfl, hspace, hscan, hmeans⟩ := scan_of_spells hx (cs.map some)
    rw [List.map_append, List.map_cons, List.cons_append, lex, if_neg (by simp [hspace]), hscan]
    exact .cons hmeans ih

end InterceptAddons.Json
