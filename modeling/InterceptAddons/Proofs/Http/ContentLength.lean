import InterceptAddons.Http.Edit
import InterceptAddons.Proofs.Http.Headers
import InterceptAddons.Proofs.Results

/-!
# Content-Length

A message is in sync (`Message.InSync`) if it has no `Content-Length` line or just one, with the size of its body.
Main statement: `changeAll_inSync`. A message that is in sync stays so unless a change writes such a line itself, and
a new body brings it back. The statement is about sequences of changes of requests and of responses; `Editing` holds
what the argument needs of either.
-/

namespace InterceptAddons.Http

open InterceptAddons.Text

/-! ### Being in sync -/

namespace Message

def lengthLines (m : Message) : List Header := m.headers.lines.filter (·.isNamed "Content-Length")

/-- There is no `Content-Length` line, or one, which has the size of the body. -/
def InSync (m : Message) : Prop :=
  m.lengthLines = [] ∨ ∃ line, m.lengthLines = [line] ∧ line.value = toString m.body.length

/-- Nothing that being in sync depends on is different. -/
structure SameLength (m m' : Message) : Prop where
  lines : m'.lengthLines = m.lengthLines
  body : m'.body = m.body

theorem SameLength.inSync {m m' : Message} (h : SameLength m m') (hm : m.InSync) : m'.InSync := by
  rw [InSync, h.lines, h.body]
  exact hm

end Message

/-! ### Changes -/

/-- A change of a message: an edit, or a JSON value as its new body. -/
inductive Change (ε : Type)
  | edit (e : ε)
  | json (v : Json.Value)

/-- Whether the edit writes a `Content-Length` line directly. -/
def MessageEdit.writesLength : MessageEdit → Bool
  | .setHeader name _ | .addHeader name _ => name.toLower == "Content-Length".toLower
  | .setHeaders _ => true
  | _ => false

/-- Whether the edit replaces the body. A text that is no JSON does not. -/
def MessageEdit.writesBody : MessageEdit → Bool
  | .setBody _ => true
  | .setJson text => (Json.Value.read (.ofString text)).isOk
  | _ => false

/-- Messages of type `α`, which are changed by edits of type `ε`. An edit is one of the common part, or else it
leaves the `Content-Length` lines and the body alone. -/
structure Editing (α ε : Type) where
  apply : ε → α → Except EditError α
  toMessage : α → Message
  modify : α → (Message → Message) → α
  common? : ε → Option MessageEdit
  toMessage_modify : ∀ a f, toMessage (modify a f) = f (toMessage a)
  apply_common : ∀ e c, common? e = some c → ∀ a,
    (apply e a).map toMessage = c.apply (toMessage a)
  apply_own : ∀ e, common? e = none → ∀ a a', apply e a = .ok a' → (toMessage a).SameLength (toMessage a')

namespace Editing

variable {α ε : Type} (E : Editing α ε)

/-- Carries out a change. An edit that is refused leaves the message as it was. -/
def change (a : α) : Change ε → α
  | .edit e =>
    match E.apply e a with
    | .ok a' => a'
    | .error _ => a
  | .json v => E.modify a (·.setJson v)

def changeAll (a : α) (changes : List (Change ε)) : α := changes.foldl E.change a

def writesLength : Change ε → Bool
  | .edit e => (E.common? e).any (·.writesLength)
  | .json _ => false

def writesBody : Change ε → Bool
  | .edit e => (E.common? e).any (·.writesBody)
  | .json _ => true

/-- No change writes a `Content-Length` line directly. -/
def LeavesLength (changes : List (Change ε)) : Prop := ∀ c ∈ changes, E.writesLength c = false

/-- After the last change that writes a `Content-Length` line directly, some change replaces the body. -/
def Resyncs (changes : List (Change ε)) : Prop :=
  ∃ before c after, changes = before ++ c :: after ∧ E.writesBody c = true ∧ E.LeavesLength after

end Editing

/-! ### Changes of the common part -/

namespace Message

theorem lengthLines_does {m m' : Message} (step : HeaderStep) (hstep : step.name.toLower ≠ "Content-Length".toLower)
    (h : m'.headers = step.apply m.headers) : m'.lengthLines = m.lengthLines := by
  rw [lengthLines, lengthLines, h]
  exact (step.does m.headers).filter_of_ne hstep

/-- A line of another name does not matter. -/
theorem sameLength_setHeader (m : Message) {name : String} (value : String)
    (hname : name.toLower ≠ "Content-Length".toLower) : m.SameLength (m.setHeader name value) where
  lines := lengthLines_does (.set name value) hname rfl
  body := rfl

theorem sameLength_addHeader (m : Message) {name : String} (value : String)
    (hname : name.toLower ≠ "Content-Length".toLower) : m.SameLength (m.addHeader name value) where
  lines := lengthLines_does (.add name value) hname rfl
  body := rfl

theorem InSync.eraseHeader {m : Message} (h : m.InSync) (name : String) : (m.eraseHeader name).InSync := by
  by_cases hname : name.toLower = "Content-Length".toLower
  · left
    have hall := Headers.getAll_erase m.headers name
    rw [Headers.getAll_congr hname, Headers.getAll, List.map_eq_nil_iff] at hall
    exact hall
  · have hsame : m.SameLength (m.eraseHeader name) := ⟨lengthLines_does (.erase name) hname rfl, rfl⟩
    exact hsame.inSync h

/-- A new body is in sync, whatever lines there were. -/
theorem inSync_setBody (m : Message) (body : List UInt8) : (m.setBody body).InSync := by
  by_cases hc : m.headers.contains "Content-Length" = true
  · right
    have hall := Headers.getAll_set m.headers "Content-Length" (toString body.length)
    have hlines : (m.setBody body).lengthLines.map Header.value = [toString body.length] := by
      rw [lengthLines, setBody, syncLength, if_pos hc]
      exact hall
    obtain ⟨line, hline, hvalue⟩ := List.map_eq_singleton_iff.1 hlines
    exact ⟨line, hline, hvalue⟩
  · left
    have hnone : ∀ l ∈ m.headers.lines, l.isNamed "Content-Length" = false := by
      simpa [Headers.contains] using hc
    rw [lengthLines, setBody, syncLength, if_neg hc]
    exact filter_isNamed_of_absent hnone

theorem inSync_setJson (m : Message) (v : Json.Value) : (m.setJson v).InSync := by
  have hbody := inSync_setBody m (octets v.print)
  have hsame := sameLength_setHeader (m.setBody (octets v.print)) "application/json"
    (show "Content-Type".toLower ≠ "Content-Length".toLower by decide +kernel)
  exact hsame.inSync hbody

end Message

/-- **A step that does not write the line itself** keeps a message in sync. -/
theorem MessageEdit.apply_inSync {e : MessageEdit} {m m' : Message} (h : e.apply m = .ok m')
    (he : e.writesLength = false) (hm : m.InSync) : m'.InSync := by
  cases e with
  | setHeader name value =>
    cases h
    have hname : name.toLower ≠ "Content-Length".toLower := by simpa [writesLength] using he
    exact (m.sameLength_setHeader value hname).inSync hm
  | addHeader name value =>
    cases h
    have hname : name.toLower ≠ "Content-Length".toLower := by simpa [writesLength] using he
    exact (m.sameLength_addHeader value hname).inSync hm
  | eraseHeader name =>
    cases h
    exact hm.eraseHeader name
  | setHeaders headers => simp [writesLength] at he
  | setBody body =>
    cases h
    exact m.inSync_setBody body
  | setJson text =>
    rw [MessageEdit.apply] at h
    split at h
    · next v _ =>
      cases h
      exact m.inSync_setJson v
    · cases h
  | attach key value =>
    cases h
    exact hm
  | setTool tool =>
    cases h
    exact hm
  | setId id =>
    cases h
    exact hm

/-- **A step that replaces the body** is carried out and brings a message in sync. -/
theorem MessageEdit.apply_of_writesBody {e : MessageEdit} (he : e.writesBody = true) (m : Message) :
    ∃ m', e.apply m = .ok m' ∧ m'.InSync := by
  cases e with
  | setBody body => exact ⟨m.setBody body, rfl, m.inSync_setBody body⟩
  | setJson text =>
    rw [writesBody] at he
    cases hv : Json.Value.read (.ofString text) with
    | error f =>
      rw [hv] at he
      cases he
    | ok v =>
      refine ⟨m.setJson v, ?_, m.inSync_setJson v⟩
      rw [MessageEdit.apply, hv]
  | _ => cases he

/-! ### Sequences of changes -/

namespace Editing

variable {α ε : Type} (E : Editing α ε)

theorem change_inSync {a : α} {c : Change ε} (hc : E.writesLength c = false) (ha : (E.toMessage a).InSync) :
    (E.toMessage (E.change a c)).InSync := by
  cases c with
  | json v =>
    rw [change, E.toMessage_modify]
    exact Message.inSync_setJson _ v
  | edit e =>
    rw [change]
    cases happly : E.apply e a with
    | error err => exact ha
    | ok a' =>
      cases hcommon : E.common? e with
      | none => exact (E.apply_own e hcommon a a' happly).inSync ha
      | some m =>
        have hm : m.apply (E.toMessage a) = .ok (E.toMessage a') := by
          rw [← E.apply_common e m hcommon a, happly]
          rfl
        have hdirect : m.writesLength = false := by simpa [writesLength, hcommon] using hc
        exact m.apply_inSync hm hdirect ha

theorem change_of_writesBody {c : Change ε} (hc : E.writesBody c = true) (a : α) :
    (E.toMessage (E.change a c)).InSync := by
  cases c with
  | json v =>
    rw [change, E.toMessage_modify]
    exact Message.inSync_setJson _ v
  | edit e =>
    obtain ⟨m, hcommon, hbody⟩ : ∃ m, E.common? e = some m ∧ m.writesBody = true := (Option.any_eq_true _ _).1 hc
    obtain ⟨m', hm', hsync⟩ := MessageEdit.apply_of_writesBody hbody (E.toMessage a)
    rw [← E.apply_common e m hcommon a] at hm'
    rw [change]
    cases happly : E.apply e a with
    | error err =>
      rw [happly] at hm'
      cases hm'
    | ok a' =>
      rw [happly] at hm'
      cases hm'
      exact hsync

theorem changeAll_of_leavesLength {a : α} {changes : List (Change ε)} (hc : E.LeavesLength changes)
    (ha : (E.toMessage a).InSync) : (E.toMessage (E.changeAll a changes)).InSync := by
  induction changes generalizing a with
  | nil => exact ha
  | cons c changes ih =>
    have hhead : E.writesLength c = false := hc c List.mem_cons_self
    have htail : E.LeavesLength changes := fun c' hc' => hc c' (List.mem_cons_of_mem _ hc')
    exact ih htail (E.change_inSync hhead ha)

theorem changeAll_of_resyncs {changes : List (Change ε)} (h : E.Resyncs changes) (a : α) :
    (E.toMessage (E.changeAll a changes)).InSync := by
  obtain ⟨before, c, after, rfl, hbody, hafter⟩ := h
  have hsync : (E.toMessage (E.change (E.changeAll a before) c)).InSync := E.change_of_writesBody hbody _
  have hsplit : E.changeAll a (before ++ c :: after) = E.changeAll (E.change (E.changeAll a before) c) after := by
    simp [changeAll, List.foldl_append]
  rw [hsplit]
  exact E.changeAll_of_leavesLength hafter hsync

end Editing

/-! ### Requests and responses -/

def RequestEdit.common? : RequestEdit → Option MessageEdit
  | .common e => some e
  | _ => none

def ResponseEdit.common? : ResponseEdit → Option MessageEdit
  | .common e => some e
  | _ => none

namespace Message

theorem SameLength.refl (m : Message) : m.SameLength m := ⟨rfl, rfl⟩

theorem SameLength.of_eq {m m' : Message} (h : m' = m) : m.SameLength m' := h ▸ .refl m

end Message

theorem EditError.of_ofUri {α : Type} {x : Except UriError α} {a : α} (h : EditError.ofUri x = .ok a) :
    x = .ok a := by
  cases x with
  | error e => cases h
  | ok a' => exact congrArg Except.ok (Except.ok.inj h)

theorem Request.setTarget_message {r r' : Request} {text : List Char} (h : r.setTarget text = .ok r') :
    r'.toMessage = r.toMessage := by
  rw [Request.setTarget] at h
  cases ht : Target.parse text with
  | error e =>
    rw [ht] at h
    cases h
  | ok t =>
    rw [ht] at h
    obtain ⟨uri, _, rfl⟩ := map_eq_ok h
    rfl

theorem Request.setHost_sameLength {r r' : Request} {host : String} (h : r.setHost host = .ok r') :
    r.toMessage.SameLength r'.toMessage := by
  have hhost : "Host".toLower ≠ "Content-Length".toLower := by decide +kernel
  have hset : ∀ text, r.toMessage.SameLength
      { r.toMessage with headers := if r.headers.contains "Host" then r.headers.set "Host" text else r.headers } := by
    intro text
    by_cases hc : r.headers.contains "Host" = true
    · rw [if_pos hc]
      exact r.toMessage.sameLength_setHeader text hhost
    · rw [if_neg hc]
      exact .refl _
  rw [Request.setHost] at h
  split at h
  · next a _ =>
    obtain ⟨a', _, rfl⟩ := map_eq_ok h
    exact hset _
  · cases h
    exact hset _

theorem RequestEdit.apply_own {e : RequestEdit} (he : e.common? = none) {r r' : Request} (h : e.apply r = .ok r') :
    r.toMessage.SameLength r'.toMessage := by
  cases e with
  | common e => cases he
  | setMethod name =>
    rw [RequestEdit.apply] at h
    split at h
    · cases h
      exact .refl _
    · cases h
  | setVersion version =>
    cases h
    exact ⟨rfl, rfl⟩
  | setUri url =>
    obtain ⟨uri, _, rfl⟩ := map_eq_ok h
    exact .refl _
  | setPath path => exact .of_eq (Request.setTarget_message (EditError.of_ofUri h))
  | setQueryParam key value => exact .of_eq (Request.setTarget_message (EditError.of_ofUri h))
  | setHost host => exact Request.setHost_sameLength (EditError.of_ofUri h)

theorem ResponseEdit.apply_own {e : ResponseEdit} (he : e.common? = none) {r r' : Response}
    (h : e.apply r = .ok r') : r.toMessage.SameLength r'.toMessage := by
  cases e with
  | common e => cases he
  | setStatus code =>
    rw [ResponseEdit.apply] at h
    split at h
    · cases h
      exact .refl _
    · cases h
  | setReason reason =>
    cases h
    exact .refl _

def requests : Editing Request RequestEdit where
  apply := RequestEdit.apply
  toMessage := Request.toMessage
  modify := Request.modify
  common? := RequestEdit.common?
  toMessage_modify _ _ := rfl
  apply_common e c hc r := by
    cases e with
    | common e =>
      cases hc
      rw [RequestEdit.apply, map_map]
      exact map_of_id (fun _ => rfl) _
    | _ => cases hc
  apply_own _ he _ _ h := RequestEdit.apply_own he h

def responses : Editing Response ResponseEdit where
  apply := ResponseEdit.apply
  toMessage := Response.toMessage
  modify := Response.modify
  common? := ResponseEdit.common?
  toMessage_modify _ _ := rfl
  apply_common e c hc r := by
    cases e with
    | common e =>
      cases hc
      rw [ResponseEdit.apply, map_map]
      exact map_of_id (fun _ => rfl) _
    | _ => cases hc
  apply_own _ he _ _ h := ResponseEdit.apply_own he h

/-- A new body changes no line of another name, and no line at all where there is no `Content-Length`. -/
theorem setBody_lines (m : Message) (body : List UInt8) :
    (m.lengthLines = [] → (m.setBody body).headers = m.headers) ∧
      (m.setBody body).headers.lines.filter (!·.isNamed "Content-Length") =
        m.headers.lines.filter (!·.isNamed "Content-Length") := by
  by_cases hc : m.headers.contains "Content-Length" = true
  · constructor
    · intro hnone
      rw [Headers.contains_eq, Headers.getAll, ← Message.lengthLines, hnone] at hc
      cases hc
    · rw [Message.setBody, Message.syncLength, if_pos hc]
      exact ((HeaderStep.set "Content-Length" (toString body.length)).does m.headers).filter_others
  · rw [Message.setBody, Message.syncLength, if_neg hc]
    exact ⟨fun _ => rfl, rfl⟩

/-- **Content-Length stays in sync.** Requests and responses that are in sync stay so as long as no change writes a
`Content-Length` line directly, and after the last such change a new body brings them back; no new body adds a line
where there was none or touches a line of another name. -/
theorem changeAll_inSync :
    (∀ (r : Request) (changes : List (Change RequestEdit)),
      requests.Resyncs changes ∨ requests.LeavesLength changes ∧ r.InSync →
        (requests.changeAll r changes).InSync) ∧
    (∀ (r : Response) (changes : List (Change ResponseEdit)),
      responses.Resyncs changes ∨ responses.LeavesLength changes ∧ r.InSync →
        (responses.changeAll r changes).InSync) ∧
    ∀ (m : Message) (body : List UInt8),
      (m.lengthLines = [] → (m.setBody body).headers = m.headers) ∧
        (m.setBody body).headers.lines.filter (!·.isNamed "Content-Length") =
          m.headers.lines.filter (!·.isNamed "Content-Length") := by
  refine ⟨fun r changes h => ?_, fun r changes h => ?_, setBody_lines⟩
  · rcases h with hresyncs | ⟨hleaves, hsync⟩
    · exact requests.changeAll_of_resyncs hresyncs r
    · exact requests.changeAll_of_leavesLength hleaves hsync
  · rcases h with hresyncs | ⟨hleaves, hsync⟩
    · exact responses.changeAll_of_resyncs hresyncs r
    · exact responses.changeAll_of_leavesLength hleaves hsync

/-- A request that gets two lines, in two spellings and with wrong sizes, before its body and a new host after it. -/
theorem changeAll_inSync_twoLines :
    let r : Request := .new ⟨"POST", by decide⟩ (.origin .asterisk)
    let changes : List (Change RequestEdit) := [
      .edit (.common (.addHeader "content-length" "7")), .edit (.common (.addHeader "Content-LENGTH" "9")),
      .edit (.common (.setBody [104, 105])), .edit (.setHost "example.com")]
    requests.Resyncs changes ∧ (requests.changeAll r changes).InSync := by
  intro r changes
  have hresyncs : requests.Resyncs changes :=
    ⟨changes.take 2, .edit (.common (.setBody [104, 105])), [.edit (.setHost "example.com")], rfl, rfl,
      by simp [Editing.LeavesLength, Editing.writesLength, requests, RequestEdit.common?]⟩
  exact ⟨hresyncs, changeAll_inSync.1 r changes (.inl hresyncs)⟩

end InterceptAddons.Http
