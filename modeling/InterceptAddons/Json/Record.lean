import InterceptAddons.Json.Value

/-!
# Records

Decoding drafts into values of a known shape. A record is written as an object, or as an array of its
fields in order. Fields without a name of the record are passed over; they have to be well formed in
outline only. The first fault of the text from left to right is reported.
-/

namespace InterceptAddons.Json

/-! ### What is passed over -/

def Quotation.skip (q : Quotation) : Except Fault Unit := q.fault.elim (.ok ()) .error

/-- Passes over a number; it may not break off, even at the end of the text. -/
def Numeral.skip (n : Numeral) : Except Fault Unit := if n.fault.isSome then .error .malformed else .ok ()

mutual

def Draft.skip : Draft → Except Fault Unit
  | .null | .bool _ => .ok ()
  | .number n => n.skip
  | .string q => q.skip
  | .array items ending => skipItems items ending
  | .object members ending => skipMembers members ending
  | .broken f => .error f

def skipItems : List Draft → Option Fault → Except Fault Unit
  | [], ending => atEnd ending ()
  | d :: ds, ending => d.skip.bind fun _ => skipItems ds ending

def skipMembers : List (Quotation × Draft) → Option Fault → Except Fault Unit
  | [], ending => atEnd ending ()
  | (q, d) :: ds, ending => q.skip.bind fun _ => d.skip.bind fun _ => skipMembers ds ending

end

/-! ### Plain values -/

/-- The fault of a value that has the wrong shape: its own, if it is no value. -/
def Draft.mismatch {α : Type} : Draft → Except Fault α
  | .number n => n.value.bind fun _ => .error .mismatched
  | .string q => q.text.bind fun _ => .error .mismatched
  | .broken f => .error f
  | _ => .error .mismatched

def Draft.toBool : Draft → Except Fault Bool
  | .bool b => .ok b
  | d => d.mismatch

def Draft.toText : Draft → Except Fault String
  | .string q => q.text
  | d => d.mismatch

/-- A text or null. -/
def Draft.toText? : Draft → Except Fault (Option String)
  | .null => .ok none
  | d => d.toText.map some

def decodeItems {α : Type} (f : Draft → Except Fault α) :
    List Draft → Option Fault → Except Fault (List α)
  | [], ending => atEnd ending []
  | d :: ds, ending => (f d).bind fun a => (decodeItems f ds ending).map (a :: ·)

def Draft.toList {α : Type} (f : Draft → Except Fault α) : Draft → Except Fault (List α)
  | .array items ending => decodeItems f items ending
  | d => d.mismatch

/-! ### Records -/

/-- A field of a record with fields of type `σ`: its name, how its value is taken in, and whether it has
to be there. -/
structure RecordField (σ : Type) where
  name : String
  read : Draft → σ → Except Fault σ
  isRequired : Bool := false

/-- Reads the members of an object into a record; `seen` are the fields that have come. -/
def readMembers {σ : Type} (fields : List (RecordField σ)) :
    List (Quotation × Draft) → Option Fault → List String → σ → Except Fault σ
  | [], ending, seen, s =>
    (atEnd ending ()).bind fun _ =>
      if fields.any fun f => f.isRequired && !seen.contains f.name then .error .mismatched else .ok s
  | (q, d) :: ms, ending, seen, s =>
    q.text.bind fun key =>
      match fields.find? (·.name == key) with
      | none => d.skip.bind fun _ => readMembers fields ms ending seen s
      | some f =>
        if seen.contains key then .error .mismatched
        else (f.read d s).bind fun s => readMembers fields ms ending (key :: seen) s

/-- Reads the items of an array into the fields of a record, in order. -/
def readItems {σ : Type} : List (RecordField σ) → List Draft → Option Fault → σ → Except Fault σ
  | [], [], ending, s => atEnd ending s
  | [], _ :: _, _, _ => .error .malformed
  | fields, [], ending, s =>
    (atEnd ending ()).bind fun _ =>
      if fields.any (·.isRequired) then .error .mismatched else .ok s
  | f :: fields, d :: ds, ending, s => (f.read d s).bind fun s => readItems fields ds ending s

/-- Reads a record with the given fields, starting from their default values. -/
def Draft.toRecord {σ : Type} (fields : List (RecordField σ)) (default : σ) : Draft → Except Fault σ
  | .object members ending => readMembers fields members ending [] default
  | .array items ending => readItems fields items ending default
  | d => d.mismatch

end InterceptAddons.Json
