import InterceptAddons.Text.Unicode.Blank

/-!
# Cutting texts

Splitting at a separator, cutting at its first or last occurrence, trimming white space, and looking
for a part of a text, all over lists of characters.
-/

namespace InterceptAddons.Text

/-! ### Separators -/

/-- The pieces between the separators, also the empty ones; there is always at least one. -/
def splitOn (sep : Char) : List Char → List (List Char)
  | [] => [[]]
  | c :: cs =>
    if c = sep then [] :: splitOn sep cs
    else
      match splitOn sep cs with
      | [] => [[c]]
      | p :: ps => (c :: p) :: ps

/-- The parts before and after the first separator. -/
def cutFirst (sep : Char) : List Char → Option (List Char × List Char)
  | [] => none
  | c :: cs => if c = sep then some ([], cs) else (cutFirst sep cs).map fun p => (c :: p.1, p.2)

/-- The parts before and after the last separator. -/
def cutLast (sep : Char) (cs : List Char) : Option (List Char × List Char) :=
  (cutFirst sep cs.reverse).map fun p => (p.2.reverse, p.1.reverse)

/-- What follows the last separator, or the whole text. -/
def afterLast (sep : Char) (cs : List Char) : List Char :=
  ((cutLast sep cs).map Prod.snd).getD cs

/-! ### White space at the ends -/

def trimStart (cs : List Char) : List Char := cs.dropWhile isBlank

def trimEnd (cs : List Char) : List Char := (cs.reverse.dropWhile isBlank).reverse

def trim (cs : List Char) : List Char := trimEnd (trimStart cs)

/-! ### Parts -/

def startsWith (part cs : List Char) : Bool := part.isPrefixOf cs

def hasPart (part : List Char) : List Char → Bool
  | [] => part.isEmpty
  | c :: cs => startsWith part (c :: cs) || hasPart part cs

/-- What precedes `part` at the end of `cs`. -/
def dropEnd? (part cs : List Char) : Option (List Char) :=
  if part.isSuffixOf cs then some (cs.take (cs.length - part.length)) else none

end InterceptAddons.Text
