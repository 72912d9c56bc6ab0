import InterceptAddons.Scope

/-!
# Services

What the proxy offers to addons: marking messages in its history, and ciphers.
-/

namespace InterceptAddons

/-- A colour in the proxy's history. -/
inductive Highlight
  | none | red | orange | yellow | green | cyan | blue | pink | magenta | gray
  deriving Repr, DecidableEq

namespace Highlight

def name : Highlight → String
  | .none => "none"
  | .red => "red"
  | .orange => "orange"
  | .yellow => "yellow"
  | .green => "green"
  | .cyan => "cyan"
  | .blue => "blue"
  | .pink => "pink"
  | .magenta => "magenta"
  | .gray => "gray"

def values : List Highlight :=
  [.none, .red, .orange, .yellow, .green, .cyan, .blue, .pink, .magenta, .gray]

def ofName? (name : String) : Option Highlight := values.find? (·.name == name)

end Highlight

/-- A mark on a message. -/
inductive Mark
  | highlight (color : Highlight)
  | notes (text : String)
  deriving Repr, DecidableEq

/-- A service that marks messages. What it does with the message of an id is a note of type `ν` of the
host. -/
abbrev Annotator (ν : Type) := UInt64 → Mark → ν

/-- A cipher that has its key. -/
structure Cipher where
  encrypt : List UInt8 → Except String (List UInt8)
  decrypt : List UInt8 → Except String (List UInt8)

/-- A service that makes ciphers: from a specification, and then from a key. -/
abbrev CipherFactory := String → Except String (List UInt8 → Except String Cipher)

/-- The services that the proxy offers. -/
structure Services (ν : Type) where
  scope : Scope := .none
  annotator : Option (Annotator ν) := none
  crypto : Option CipherFactory := none

end InterceptAddons
