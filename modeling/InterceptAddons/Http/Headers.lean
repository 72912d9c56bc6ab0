import InterceptAddons.Text.Split

/-!
# Headers

An ordered list of header lines. Names may repeat and are compared without regard to ASCII case; a line
keeps the spelling in which it came.
-/

namespace InterceptAddons.Http

/-- One header line. -/
structure Header where
  name : String
  value : String
  deriving Repr, DecidableEq

namespace Header

/-- Whether the line has the given name, in any ASCII case. -/
def isNamed (h : Header) (name : String) : Bool := h.name.toLower == name.toLower

def print (h : Header) : String := h.name ++ ": " ++ h.value

end Header

/-- The header lines of a message, in order. -/
structure Headers where
  lines : List Header
  deriving Repr, DecidableEq

namespace Headers

def empty : Headers := ⟨[]⟩

def ofPairs (pairs : List (String × String)) : Headers := ⟨pairs.map fun p => ⟨p.1, p.2⟩⟩

def size (hs : Headers) : Nat := hs.lines.length

/-- The first value of a name. -/
def get? (hs : Headers) (name : String) : Option String :=
  (hs.lines.find? (·.isNamed name)).map Header.value

/-- Every value of a name, in order. -/
def getAll (hs : Headers) (name : String) : List String :=
  (hs.lines.filter (·.isNamed name)).map Header.value

def contains (hs : Headers) (name : String) : Bool := hs.lines.any (·.isNamed name)

def add (hs : Headers) (name value : String) : Headers := ⟨hs.lines ++ [⟨name, value⟩]⟩

/-- Drops every line of a name. -/
def erase (hs : Headers) (name : String) : Headers := ⟨hs.lines.filter (!·.isNamed name)⟩

/-- Gives the first line of a name a new value and drops its later lines; nothing without such a line. -/
def setLines (name value : String) : List Header → Option (List Header)
  | [] => none
  | h :: hs =>
    if h.isNamed name then some ({ h with value } :: hs.filter (!·.isNamed name))
    else (setLines name value hs).map (h :: ·)

/-- Makes the name have exactly one value. Its first line keeps its place and spelling, and a line is
appended if there was none. -/
def set (hs : Headers) (name value : String) : Headers :=
  match setLines name value hs.lines with
  | some lines => ⟨lines⟩
  | none => hs.add name value

end Headers

end InterceptAddons.Http
