import InterceptAddons.Text.Numeral
import InterceptAddons.Text.Split
import InterceptAddons.Text.Utf8

/-!
# Percent-encoded components

Names and values of queries and forms. `encodeComponent` writes every octet but the unreserved ones by
number; `decodeComponent` reads octets by number and `+` as a space, and leaves any other `%` as it is.
`findPair` looks up a name in a list of pairs parted by `&`.
-/

namespace InterceptAddons.Http

open InterceptAddons.Text

/-- An octet that stands for itself: an ASCII letter or digit, or one of `-._~`. -/
def isUnreserved (b : UInt8) : Bool :=
  let c := Char.ofNat b.toNat
  b < 0x80 && (c.isAlphanum || c == '-' || c == '.' || c == '_' || c == '~')

def upperHexDigit (n : Nat) : Char := (Nat.digitChar n).toUpper

def encodeOctet (b : UInt8) : List Char :=
  if isUnreserved b then [Char.ofNat b.toNat]
  else ['%', upperHexDigit (b.toNat / 16), upperHexDigit (b.toNat % 16)]

def encodeComponent (cs : List Char) : List Char := (encode cs).flatMap encodeOctet

def octetHexValue? (b : UInt8) : Option Nat := hexValue? (Char.ofNat b.toNat)

/-- The octets that a written component denotes. -/
def decodeOctets : List UInt8 → List UInt8
  | [] => []
  | b :: rest =>
    if b = 0x25 then
      match rest with
      | h :: l :: more =>
        match octetHexValue? h, octetHexValue? l with
        | some high, some low => UInt8.ofNat (16 * high + low) :: decodeOctets more
        | _, _ => b :: decodeOctets (h :: l :: more)
      | rest => b :: decodeOctets rest
    else if b = 0x2B then 0x20 :: decodeOctets rest
    else b :: decodeOctets rest

/-- The text that a written component denotes, with U+FFFD for octets that form no character. -/
def decodeComponent (cs : List Char) : List Char := decodeLossy (decodeOctets (encode cs))

/-- The written name and value of a pair; without `=` the value is empty. -/
def pairParts (pair : List Char) : List Char × List Char := (cutFirst '=' pair).getD (pair, [])

/-- The pieces between `&` that are not empty. -/
def pairsOf (cs : List Char) : List (List Char) := (splitOn '&' cs).filter (!·.isEmpty)

/-- The value of the first pair with the given name. -/
def findPair (cs name : List Char) : Option (List Char) :=
  ((pairsOf cs).find? fun pair => decodeComponent (pairParts pair).1 == name).map fun pair =>
    decodeComponent (pairParts pair).2

end InterceptAddons.Http
