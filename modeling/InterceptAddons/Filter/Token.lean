import InterceptAddons.Filter.SyntaxError
import InterceptAddons.Text.Numeral
import InterceptAddons.Text.Unicode.Blank
import InterceptAddons.Text.Unicode.Letters
import InterceptAddons.Text.Utf8

/-!
# Tokens of filters

`lex` cuts a filter text into tokens, each with the octet at which it starts. White space only parts
tokens. An `r` directly before a quote opens a raw string, in which no escape is read.
-/

namespace InterceptAddons.Filter

open InterceptAddons.Text

/-- A token. -/
inductive Token
  | leftParen
  | rightParen
  | ident (word : String)
  | str (s : String)
  | raw (source : String)
  | int (n : Int64)
  deriving Repr, DecidableEq

/-- A token and the octet at which it starts. -/
structure Lexeme where
  token : Token
  start : Nat
  deriving Repr, DecidableEq

/-- A character that may follow the first one of a word. -/
def isWordTail (c : Char) : Bool := isAlphanumeric c || c == '-' || c == '_' || c == '.'

/-! ### Numbers -/

/-- The value of a number without its sign: decimal, or another base after `0x` or `0b`. -/
def magnitude? : List Char → Option Nat
  | '0' :: 'x' :: cs => numeralValue? 16 cs
  | '0' :: 'b' :: cs => numeralValue? 2 cs
  | cs => numeralValue? 10 cs

/-- The integer of 64 bits with a given value, if there is one. -/
def int64? (n : Int) : Option Int64 :=
  if Int64.minValue.toInt ≤ n ∧ n ≤ Int64.maxValue.toInt then some (Int64.ofInt n) else none

/-- The integer that a number token denotes. -/
def integer? : List Char → Option Int64
  | '-' :: cs => (magnitude? cs).bind fun n => int64? (-n)
  | cs => (magnitude? cs).bind fun n => int64? n

/-! ### Strings -/

def hexPair? (high low : Char) : Option Char :=
  match hexValue? high, hexValue? low with
  | some h, some l => some (Char.ofNat (16 * h + l))
  | _, _ => none

/-- What a string's closing quote leaves: the characters before it, and the octet and the text after. -/
abbrev Cut := List Char × Nat × List Char

def Cut.cons (c : Char) (cut : Cut) : Cut := (c :: cut.1, cut.2)

/-- A string after its opening quote at octet `start`, from octet `pos` on. -/
def readQuoted (start pos : Nat) : List Char → Except SyntaxError Cut
  | [] => .error ⟨start, .unterminatedString⟩
  | '"' :: cs => .ok ([], pos + 1, cs)
  | '\\' :: [] => .error ⟨start, .unterminatedString⟩
  | '\\' :: 'n' :: cs => (readQuoted start (pos + 2) cs).map (Cut.cons '\n')
  | '\\' :: 't' :: cs => (readQuoted start (pos + 2) cs).map (Cut.cons '\t')
  | '\\' :: 'r' :: cs => (readQuoted start (pos + 2) cs).map (Cut.cons '\r')
  | '\\' :: '\\' :: cs => (readQuoted start (pos + 2) cs).map (Cut.cons '\\')
  | '\\' :: '"' :: cs => (readQuoted start (pos + 2) cs).map (Cut.cons '"')
  | '\\' :: 'x' :: h :: l :: cs =>
    match hexPair? h l with
    | some c => (readQuoted start (pos + 4) cs).map (Cut.cons c)
    | none => .error ⟨pos, .badHexEscape⟩
  | '\\' :: 'x' :: _ => .error ⟨pos, .badHexEscape⟩
  | '\\' :: c :: _ => .error ⟨pos, .invalidEscape c⟩
  | c :: cs => (readQuoted start (pos + c.utf8Size) cs).map (Cut.cons c)

/-- A raw string after its opening quote: everything up to the next quote. -/
def readRaw (start pos : Nat) : List Char → Except SyntaxError Cut
  | [] => .error ⟨start, .unterminatedRawString⟩
  | c :: cs =>
    if c = '"' then .ok ([], pos + 1, cs)
    else (readRaw start (pos + c.utf8Size) cs).map (Cut.cons c)

/-! ### Tokens -/

/-- The token that starts with `c` at octet `pos`, with the octet and the text after it. -/
def scan (pos : Nat) (c : Char) (cs : List Char) : Except SyntaxError (Token × Nat × List Char) :=
  if c = '(' then .ok (.leftParen, pos + 1, cs)
  else if c = ')' then .ok (.rightParen, pos + 1, cs)
  else if c = '"' then
    (readQuoted pos (pos + 1) cs).map fun cut => (.str (String.ofList cut.1), cut.2)
  else if c = 'r' ∧ cs.head? = some '"' then
    (readRaw pos (pos + 2) cs.tail).map fun cut => (.raw (String.ofList cut.1), cut.2)
  else if c.isDigit ∨ c = '-' then
    let text := c :: cs.takeWhile Char.isAlphanum
    match integer? text with
    | some n => .ok (.int n, pos + byteSize text, cs.dropWhile Char.isAlphanum)
    | none => .error ⟨pos, .invalidNumber (String.ofList text)⟩
  else if isAlphabetic c ∨ c = '_' then
    let text := c :: cs.takeWhile isWordTail
    .ok (.ident (String.ofList text), pos + byteSize text, cs.dropWhile isWordTail)
  else .error ⟨pos, .unexpectedChar c⟩

theorem readQuoted_length {start pos : Nat} {cs : List Char} {cut : Cut}
    (h : readQuoted start pos cs = .ok cut) : cut.2.2.length ≤ cs.length := by
  fun_induction readQuoted start pos cs generalizing cut <;>
    simp_all [Except.map] <;> grind [Cut.cons]

theorem readRaw_length {start pos : Nat} {cs : List Char} {cut : Cut}
    (h : readRaw start pos cs = .ok cut) : cut.2.2.length ≤ cs.length := by
  fun_induction readRaw start pos cs generalizing cut <;>
    simp_all [Except.map] <;> grind [Cut.cons]

theorem length_dropWhile_le {p : Char → Bool} (cs : List Char) :
    (cs.dropWhile p).length ≤ cs.length := (List.dropWhile_sublist p).length_le

theorem scan_length {pos : Nat} {c : Char} {cs : List Char} {r : Token × Nat × List Char}
    (h : scan pos c cs = .ok r) : r.2.2.length ≤ cs.length := by
  unfold scan at h
  split at h
  · cases h; exact Nat.le_refl _
  split at h
  · cases h; exact Nat.le_refl _
  split at h
  · cases hq : readQuoted pos (pos + 1) cs with
    | error e => simp [hq, Except.map] at h
    | ok cut =>
      simp only [hq, Except.map, Except.ok.injEq] at h
      exact h ▸ readQuoted_length hq
  split at h
  · cases hq : readRaw pos (pos + 2) cs.tail with
    | error e => simp [hq, Except.map] at h
    | ok cut =>
      simp only [hq, Except.map, Except.ok.injEq] at h
      exact h ▸ Nat.le_trans (readRaw_length hq) (by simp)
  split at h
  · dsimp only at h
    split at h
    · cases h; exact length_dropWhile_le cs
    · cases h
  split at h
  · cases h; exact length_dropWhile_le cs
  · cases h

/-- The tokens of a text that starts at octet `pos`. -/
def lexFrom (pos : Nat) : List Char → Except SyntaxError (List Lexeme)
  | [] => .ok []
  | c :: cs =>
    if isBlank c then lexFrom (pos + c.utf8Size) cs
    else
      match _h : scan pos c cs with
      | .error e => .error e
      | .ok (token, pos', rest) => (lexFrom pos' rest).map (⟨token, pos⟩ :: ·)
termination_by cs => cs.length
decreasing_by
  · exact Nat.lt_succ_self _
  · exact Nat.lt_succ_of_le (scan_length _h)

def lex (text : String) : Except SyntaxError (List Lexeme) := lexFrom 0 text.toList

end InterceptAddons.Filter
