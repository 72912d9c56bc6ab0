import InterceptAddons.Json.Token

/-!
# Drafts of documents

A draft is what tokens say a document looks like, as far as they go: where the text breaks off, the fault
stands in the tree. So reading never fails, and each reader of a draft meets the faults of the text from
left to right.
-/

namespace InterceptAddons.Json

/-- A document as far as it can be read. An array or object that is not closed ends with a fault, and
`broken` stands where a value should. -/
inductive Draft
  | null
  | bool (b : Bool)
  | number (n : Numeral)
  | string (q : Quotation)
  | array (items : List Draft) (ending : Option Fault)
  | object (members : List (Quotation × Draft)) (ending : Option Fault)
  | broken (f : Fault)
  deriving Repr

/-- What surrounds a value that is missing: the finished items of an array, or the finished members of an
object and the key of the value, last ones first. -/
inductive Frame
  | item (items : List Draft)
  | member (members : List (Quotation × Draft)) (key : Quotation)

/-- What may come next, inside the frames that are open, innermost first. -/
inductive State
  | value (frames : List Frame)
  | firstItem (frames : List Frame)
  | nextItem (items : List Draft) (frames : List Frame)
  | firstKey (frames : List Frame)
  | key (members : List (Quotation × Draft)) (frames : List Frame)
  | nextKey (members : List (Quotation × Draft)) (frames : List Frame)
  | colon (members : List (Quotation × Draft)) (key : Quotation) (frames : List Frame)
  | done (d : Draft)

/-- Puts a finished value into the innermost frame. -/
def State.plug (d : Draft) : List Frame → State
  | [] => .done d
  | .item items :: frames => .nextItem (d :: items) frames
  | .member members name :: frames => .nextKey ((name, d) :: members) frames

/-- Puts a value at which the text breaks off into all frames around it. -/
def wrap (d : Draft) : List Frame → Draft
  | [] => d
  | .item items :: frames => wrap (.array (d :: items).reverse none) frames
  | .member members name :: frames => wrap (.object ((name, d) :: members).reverse none) frames

/-- The draft of a text that breaks off with the given fault. -/
def State.stop (f : Fault) : State → Draft
  | .value frames => wrap (.broken f) frames
  | .firstItem frames => wrap (.array [] (some f)) frames
  | .nextItem items frames => wrap (.array items.reverse (some f)) frames
  | .firstKey frames => wrap (.object [] (some f)) frames
  | .key members frames | .nextKey members frames => wrap (.object members.reverse (some f)) frames
  | .colon members name frames => wrap (.broken f) (.member members name :: frames)
  | .done d => d

/-- Reads a token where a value has to start. -/
def readValue (frames : List Frame) : Token → State ⊕ Draft
  | .null => .inl (.plug .null frames)
  | .bool b => .inl (.plug (.bool b) frames)
  | .number n => .inl (.plug (.number n) frames)
  | .string q => .inl (.plug (.string q) frames)
  | .beginArray => .inl (.firstItem frames)
  | .beginObject => .inl (.firstKey frames)
  | .broken f => .inr (State.stop f (.value frames))
  | _ => .inr (State.stop .malformed (.value frames))

/-- Reads a token: what may come next, or the draft of a text that breaks off here. -/
def State.step (s : State) (t : Token) : State ⊕ Draft :=
  match s, t with
  | .value frames, t => readValue frames t
  | .firstItem frames, .endArray => .inl (.plug (.array [] none) frames)
  | .firstItem frames, t => readValue (.item [] :: frames) t
  | .nextItem items frames, .comma => .inl (.value (.item items :: frames))
  | .nextItem items frames, .endArray => .inl (.plug (.array items.reverse none) frames)
  | .firstKey frames, .endObject => .inl (.plug (.object [] none) frames)
  | .firstKey frames, .string q => .inl (.colon [] q frames)
  | .key members frames, .string q => .inl (.colon members q frames)
  | .nextKey members frames, .comma => .inl (.key members frames)
  | .nextKey members frames, .endObject => .inl (.plug (.object members.reverse none) frames)
  | .colon members name frames, .colon => .inl (.value (.member members name :: frames))
  | s, _ => .inr (s.stop .malformed)

/-- A draft, and whether tokens follow the document. -/
structure Document where
  draft : Draft
  hasMore : Bool
  deriving Repr

def State.run : State → List Token → Document
  | .done d, ts => ⟨d, !ts.isEmpty⟩
  | s, [] => ⟨s.stop .truncated, false⟩
  | s, t :: ts =>
    match s.step t with
    | .inl s' => s'.run ts
    | .inr d => ⟨d, false⟩

def Document.read (text : Source) : Document := (State.value []).run (lex text)

/-- Reads a whole document with a reader of its draft; nothing may follow it. -/
def Document.decode {α : Type} (doc : Document) (f : Draft → Except Fault α) : Except Fault α :=
  (f doc.draft).bind fun a => if doc.hasMore then .error .malformed else .ok a

end InterceptAddons.Json
