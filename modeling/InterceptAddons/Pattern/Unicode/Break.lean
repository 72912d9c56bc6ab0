import InterceptAddons.Pattern.Unicode.Lookup

/-!
# Boundaries in texts

How each character takes part in the boundaries between letters as a reader sees them
(`letterBreaks`), between words (`wordBreaks`) and between sentences (`sentenceBreaks`). The classes of
one table are apart; a character in none of them has no part of its own.
-/

namespace InterceptAddons.Pattern.Unicode

open InterceptAddons.Text

/-! ### Common parts -/

def points (ranges : List (Nat × Nat)) : CharSet := ⟨ranges⟩

def chars (ns : List Nat) : CharSet := ⟨ns.map fun n => (n, n)⟩

def carriageReturn : CharSet := chars [0x0D]

def lineFeed : CharSet := chars [0x0A]

def joiner : CharSet := chars [0x200D]

/-- The letters that stand for regions, two by two. -/
def regional : CharSet := points [(0x1F1E6, 0x1F1FF)]

/-- The marks that stand around the digits that follow them. -/
def numberMarks : CharSet := points [(0x600, 0x605), (0x6DD, 0x6DD), (0x890, 0x891), (0x8E2, 0x8E2),
  (0x110BD, 0x110BD), (0x110CD, 0x110CD)]

def numberChars : CharSet := (among ["nd"]).union (numberMarks.union (points [(0x66B, 0x66C)]))

/-! ### Letters as a reader sees them -/

/-- The characters that extend the one before them. -/
def extenders : CharSet := (among ["grext", "emod"]).diff joiner

/-- The characters that belong to the one after them. -/
def prefixed : CharSet := (among ["pcm"]).union <| points [(0xD4E, 0xD4E), (0x111C2, 0x111C3),
  (0x113D1, 0x113D1), (0x1193F, 0x1193F), (0x11941, 0x11941), (0x11A3A, 0x11A3A), (0x11A84, 0x11A89),
  (0x11D46, 0x11D46), (0x11F02, 0x11F02)]

/-- Controls and characters that are not shown, each on its own. -/
def controls : CharSet :=
  (((among ["zl", "zp", "cc", "cf"]).union ((among ["di"]).inter (among ["cn"]))).diff
    (among ["pcm", "grext", "joinc"])).diff (chars [0x0A, 0x0D])

/-- The spacing marks that nevertheless stand apart from the character before them. -/
def loneMarks : CharSet := points [(0x102B, 0x102C), (0x1038, 0x1038), (0x1062, 0x1064),
  (0x1067, 0x106D), (0x1083, 0x1083), (0x1087, 0x108C), (0x108F, 0x108F), (0x109A, 0x109C),
  (0x1A61, 0x1A61), (0x1A63, 0x1A64), (0xAA7B, 0xAA7B), (0xAA7D, 0xAA7D), (0x11720, 0x11721)]

/-- The first letters of syllables that are written in one square. -/
def leadLetters : CharSet := points [(0x1100, 0x115F), (0xA960, 0xA97C)]

/-- The vowels of such syllables. -/
def vowelLetters : CharSet := points [(0x1160, 0x11A7), (0xD7B0, 0xD7C6), (0x16D63, 0x16D63),
  (0x16D67, 0x16D6A)]

/-- The last letters of such syllables. -/
def tailLetters : CharSet := points [(0x11A8, 0x11FF), (0xD7CB, 0xD7FB)]

/-- Squares without a last letter; each comes before the 27 that add one. -/
def openSquares : CharSet := ⟨(List.range 399).map fun k => (0xAC00 + 28 * k, 0xAC00 + 28 * k)⟩

/-- Squares with a last letter. -/
def closedSquares : CharSet := ⟨(List.range 399).map fun k => (0xAC01 + 28 * k, 0xAC1B + 28 * k)⟩

/-- The classes of letter boundaries, in the loose form of their names. -/
def letterBreaks : List (List String × CharSet) := [
  (["cr"], carriageReturn),
  (["lf"], lineFeed),
  (["control", "cn"], controls),
  (["extend", "ex"], extenders),
  (["prepend", "pp"], prefixed),
  (["spacingmark", "sm"],
    (((among ["mc"]).union (chars [0xE33, 0xEB3])).diff loneMarks).diff extenders),
  (["regionalindicator", "ri"], regional),
  (["zwj"], joiner),
  (["l"], leadLetters),
  (["v"], vowelLetters),
  (["t"], tailLetters),
  (["lv"], openSquares),
  (["lvt"], closedSquares)]

/-! ### Words -/

/-- The letters of scripts that put no space between words. -/
def spacelessLetters : CharSet := CharSet.read
  ["E01-E3A E40-E4E E81-E82 E84 E86-E8A E8C-EA3 EA5 EA7-EBD EC0-EC4 EC6 EC8-ECE EDC-EDF 1000-103F",
    "1050-108F 109A-109F 1780-17D3 17D7 17DC-17DD 1950-196D 1970-1974 1980-19AB 19B0-19C9 19DA",
    "19DE-19DF 1A20-1A5E 1A60-1A7C 1AA0-1AAD A9E0-A9EF A9FA-A9FE AA60-AAC2 AADB-AADF 11700-1171A",
    "1171D-1172B 1173A-1173B 1173F-11746"]

/-- The characters that are part of a word without being letters. -/
def letterLike : CharSet := points [(0x2C2, 0x2C5), (0x2D2, 0x2D7), (0x2DE, 0x2DF), (0x2E5, 0x2EB),
  (0x2ED, 0x2ED), (0x2EF, 0x2FF), (0x55A, 0x55C), (0x55E, 0x55E), (0x58A, 0x58A), (0x5F3, 0x5F3),
  (0x70F, 0x70F), (0xA708, 0xA716), (0xA720, 0xA721), (0xA789, 0xA78A), (0xAB5B, 0xAB5B)]

/-- The characters that extend a word in a text or a sentence. -/
def wordExtenders : CharSet := (among ["grext", "mc", "emod"]).diff joiner

def katakanaLetters : CharSet := (among ["katakana"]).union <|
  points [(0x3031, 0x3035), (0x309B, 0x309C), (0x30A0, 0x30A0), (0x30FC, 0x30FC), (0xFF70, 0xFF70)]

/-- The letters that may stand before a quote inside a word. -/
def hebrewLetters : CharSet := (among ["hebrew"]).inter (among ["lo"])

/-- The letters of scripts that put spaces between words. -/
def spacedLetters : CharSet :=
  ((among ["alphabetic"]).union letterLike).diff <|
    (among ["ideographic", "hiragana"]).union <| katakanaLetters.union <| hebrewLetters.union <|
      spacelessLetters.union wordExtenders

/-- The classes of word boundaries, in the loose form of their names. -/
def wordBreaks : List (List String × CharSet) := [
  (["cr"], carriageReturn),
  (["lf"], lineFeed),
  (["newline", "nl"], points [(0x0B, 0x0C), (0x85, 0x85), (0x2028, 0x2029)]),
  (["extend"], wordExtenders),
  (["zwj"], joiner),
  (["regionalindicator", "ri"], regional),
  (["format", "fo"], (among ["cf"]).diff ((among ["pcm", "grext", "joinc"]).union (chars [0x200B]))),
  (["katakana", "ka"], katakanaLetters),
  (["hebrewletter", "hl"], hebrewLetters),
  (["aletter", "le"], spacedLetters),
  (["singlequote", "sq"], chars [0x27]),
  (["doublequote", "dq"], chars [0x22]),
  (["midnumlet", "mb"], points [(0x2E, 0x2E), (0x2018, 0x2019), (0x2024, 0x2024), (0xFE52, 0xFE52),
    (0xFF07, 0xFF07), (0xFF0E, 0xFF0E)]),
  (["midletter", "ml"], chars [0x3A, 0xB7, 0x387, 0x55F, 0x5F4, 0x2027, 0xFE13, 0xFE55, 0xFF1A]),
  (["midnum", "mn"], points [(0x2C, 0x2C), (0x3B, 0x3B), (0x37E, 0x37E), (0x589, 0x589),
    (0x60C, 0x60D), (0x66C, 0x66C), (0x7F8, 0x7F8), (0x2044, 0x2044), (0xFE10, 0xFE10),
    (0xFE14, 0xFE14), (0xFE50, 0xFE50), (0xFE54, 0xFE54), (0xFF0C, 0xFF0C), (0xFF1B, 0xFF1B)]),
  (["numeric", "nu"], numberChars.diff (chars [0x66C])),
  (["extendnumlet", "ex"], (among ["pc"]).union (chars [0x202F])),
  (["wsegspace"], (among ["zs"]).diff (chars [0xA0, 0x2007, 0x202F]))]

/-! ### Sentences -/

/-- The marks that end a sentence unless they stand in a number or a short form. -/
def fullStops : CharSet := chars [0x2E, 0x2024, 0xFE52, 0xFF0E]

def sentenceExtenders : CharSet := among ["grext", "mc", "joinc"]

/-- The small letters, without those of a script that starts sentences with them. -/
def smallLetters : CharSet :=
  ((among ["lower"]).diff (among ["grext"])).diff (points [(0x10D0, 0x10FA), (0x10FD, 0x10FF)])

/-- The capital letters, without those of a script that starts no sentence with them. -/
def capitalLetters : CharSet :=
  (among ["lt", "upper"]).diff (points [(0x1C90, 0x1CBA), (0x1CBD, 0x1CBF)])

/-- The classes of sentence boundaries, in the loose form of their names. -/
def sentenceBreaks : List (List String × CharSet) := [
  (["cr"], carriageReturn),
  (["lf"], lineFeed),
  (["sep", "se"], points [(0x85, 0x85), (0x2028, 0x2029)]),
  (["extend", "ex"], sentenceExtenders),
  (["format", "fo"], (among ["cf"]).diff (sentenceExtenders.union numberMarks)),
  (["sp"], (among ["wspace"]).diff <|
    points [(0x0A, 0x0A), (0x0D, 0x0D), (0x85, 0x85), (0x2028, 0x2029)]),
  (["lower", "lo"], smallLetters),
  (["upper", "up"], capitalLetters),
  (["oletter", "le"], ((among ["alphabetic"]).union (chars [0x5F3])).diff
    (smallLetters.union (capitalLetters.union sentenceExtenders))),
  (["numeric", "nu"], numberChars),
  (["aterm", "at"], fullStops),
  (["scontinue", "sc"], points [(0x2C, 0x2D), (0x3A, 0x3B), (0x37E, 0x37E), (0x55D, 0x55D),
    (0x60C, 0x60D), (0x7F8, 0x7F8), (0x1802, 0x1802), (0x1808, 0x1808), (0x2013, 0x2014),
    (0x3001, 0x3001), (0xFE10, 0xFE11), (0xFE13, 0xFE14), (0xFE31, 0xFE32), (0xFE50, 0xFE51),
    (0xFE54, 0xFE55), (0xFE58, 0xFE58), (0xFE63, 0xFE63), (0xFF0C, 0xFF0D), (0xFF1A, 0xFF1B),
    (0xFF64, 0xFF64)]),
  (["sterm", "st"], (among ["sterm"]).diff fullStops),
  (["close", "cl"], (among ["ps", "pe"]).union <| points [(0x22, 0x22), (0x27, 0x27), (0xAB, 0xAB),
    (0xBB, 0xBB), (0x2018, 0x2019), (0x201B, 0x201D), (0x201F, 0x201F), (0x2039, 0x203A),
    (0x275B, 0x2760), (0x2E00, 0x2E0D), (0x2E1C, 0x2E1D), (0x2E20, 0x2E21), (0x1F676, 0x1F678)])]

end InterceptAddons.Pattern.Unicode
