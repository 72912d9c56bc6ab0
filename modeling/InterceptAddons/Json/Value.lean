import InterceptAddons.Json.Draft
import InterceptAddons.Json.Number
import InterceptAddons.Text.Split

/-!
# Values

JSON values, and how a draft becomes one. The members of an object that is read stand in the order of
their keys, and of two members with one key the later counts. `Value.hasPath` walks a dotted key.
-/

namespace InterceptAddons.Json

open InterceptAddons.Text

/-- A value. -/
inductive Value
  | null
  | bool (b : Bool)
  | number (n : Number)
  | string (s : String)
  | array (items : List Value)
  | object (members : List (String × Value))
  deriving Repr

/-! ### Strings -/

/-- The first of two units that stand for one character. -/
def isHighUnit (n : Nat) : Bool := 0xD800 ≤ n && n < 0xDC00

/-- The second of two units that stand for one character. -/
def isLowUnit (n : Nat) : Bool := 0xDC00 ≤ n && n < 0xE000

def joinUnits (high low : Nat) : Char :=
  Char.ofNat (0x10000 + 0x400 * (high - 0xD800) + (low - 0xDC00))

/-- The characters of the parts of a string that ends with `fault`. Units have to pair up. -/
def readParts (fault : Option Fault) : List Part → Except Fault (List (Option Char))
  | [] => fault.elim (.ok []) .error
  | .char c :: ps => (readParts fault ps).map (c :: ·)
  | .unit n :: ps =>
    if isHighUnit n then
      match ps with
      | .unit m :: ps =>
        if isLowUnit m then (readParts fault ps).map (some (joinUnits n m) :: ·)
        else .error .malformed
      | .char _ :: _ => .error .malformed
      | [] => .error (fault.getD .malformed)
    else if isLowUnit n then .error .malformed
    else (readParts fault ps).map (some (Char.ofNat n) :: ·)

/-- The text of a string. Every octet of it has to belong to a character. -/
def Quotation.text (q : Quotation) : Except Fault String :=
  (readParts q.fault q.parts).bind fun cs =>
    match cs.mapM id with
    | some cs => .ok (String.ofList cs)
    | none => .error .malformed

/-! ### From drafts -/

/-- The arrays and objects that may be open at once. -/
def maxNesting : Nat := 127

/-- Adds a member in the order of the keys; it replaces one with the same key. -/
def insertMember (k : String) (v : Value) : List (String × Value) → List (String × Value)
  | [] => [(k, v)]
  | (k', v') :: ms =>
    if k = k' then (k, v) :: ms
    else if k < k' then (k, v) :: (k', v') :: ms
    else (k', v') :: insertMember k v ms

def atEnd {α : Type} (ending : Option Fault) (a : α) : Except Fault α := ending.elim (.ok a) .error

mutual

/-- The value of a draft inside which `depth` more arrays and objects may be open at once. -/
def Value.ofDraft (depth : Nat) : Draft → Except Fault Value
  | .null => .ok .null
  | .bool b => .ok (.bool b)
  | .number n => n.value.map .number
  | .string q => q.text.map .string
  | .array items ending =>
    match depth with
    | 0 => .error .malformed
    | d + 1 => (valuesOfDrafts d items ending).map .array
  | .object members ending =>
    match depth with
    | 0 => .error .malformed
    | d + 1 => (membersOfDrafts d members ending []).map .object
  | .broken f => .error f

def valuesOfDrafts (depth : Nat) : List Draft → Option Fault → Except Fault (List Value)
  | [], ending => atEnd ending []
  | d :: ds, ending =>
    (Value.ofDraft depth d).bind fun v => (valuesOfDrafts depth ds ending).map (v :: ·)

/-- The members of an object, added to those that came before. -/
def membersOfDrafts (depth : Nat) :
    List (Quotation × Draft) → Option Fault → List (String × Value) →
      Except Fault (List (String × Value))
  | [], ending, ms => atEnd ending ms
  | (q, d) :: ds, ending, ms =>
    q.text.bind fun k =>
      (Value.ofDraft depth d).bind fun v => membersOfDrafts depth ds ending (insertMember k v ms)

end

def Value.read (text : Source) : Except Fault Value :=
  (Document.read text).decode (Value.ofDraft maxNesting)

/-! ### Dotted keys -/

namespace Value

/-- The part of a value with a given name: the member with that key, or the item with that number. -/
def child? (v : Value) (name : List Char) : Option Value :=
  match v with
  | .object members => (members.find? (·.1.toList == name)).map Prod.snd
  | .array items => (unsigned? 0x10000000000000000 name).bind (items[·]?)
  | _ => none

def descend? (v : Value) : List (List Char) → Option Value
  | [] => some v
  | name :: names => (v.child? name).bind (·.descend? names)

/-- Whether a dotted key such as `user.roles.0` leads to some part. -/
def hasPath (v : Value) (key : String) : Bool := (v.descend? (splitOn '.' key.toList)).isSome

end Value

end InterceptAddons.Json
