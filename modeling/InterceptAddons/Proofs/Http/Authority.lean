import InterceptAddons.Http.Request
import InterceptAddons.Proofs.Http.Headers
import InterceptAddons.Proofs.Text.Characters
import InterceptAddons.Proofs.Text.Numeral
import InterceptAddons.Proofs.Text.Split

/-!
# Hosts and ports

Two readers find the host and the port in a text: that of authorities, and that of `Host` headers.
`AuthorityScan.Takes` says what one character does to the scan of an authority. `IsHost` and `hostText` say how a host
and a port are written; `Authority.host_eq` and `Authority.port?_eq` say what the first reader makes of it,
`splitHost_text` when the second agrees.
-/

namespace InterceptAddons.Http

open InterceptAddons.Text

/-! ### The scan -/

/-- A character that some authority holds. -/
def isScanned (c : Char) : Bool := isAuthorityChar c || ":[]@%".toList.contains c

theorem isScanned_of_endsAuthority {c : Char} (h : endsAuthority c = true) : isScanned c = false := by
  rw [endsAuthority, Bool.or_eq_true, Bool.or_eq_true, beq_iff_eq, beq_iff_eq, beq_iff_eq] at h
  rcases h with (rfl | rfl) | rfl <;> decide

theorem isScanned_of_isBlank {c : Char} (h : isBlank c = true) : isScanned c = false :=
  of_isBlank (P := fun c => isScanned c = false) (by decide) h

theorem isAuthorityChar_of_isDigit {c : Char} (h : c.isDigit = true) : isAuthorityChar c = true := by
  rw [isAuthorityChar, Char.isAlphanum, h, Bool.or_true, Bool.true_or]

namespace AuthorityScan

/-- What a character does to the scan. -/
inductive Takes (s : AuthorityScan) : Char → AuthorityScan → Prop
  | colon (h : s.colons < maxColons) : Takes s ':' { s with colons := s.colons + 1, afterAt := false }
  | opening : Takes s '[' { s with opened := true, afterAt := false }
  | closing : Takes s ']' { s with closed := true, colons := 0, percent := false, afterAt := false }
  | user : Takes s '@' { s with colons := 0, percent := false, afterAt := true }
  | percent : Takes s '%' { s with percent := true, afterAt := false }
  | plain {c : Char} (h : isAuthorityChar c = true) : Takes s c { s with afterAt := false }

variable {s s' : AuthorityScan}

theorem takes_of_step {c : Char} (h : s.step c = .ok s') : s.Takes c s' := by
  rw [step] at h
  split_ifs at h with h₁ h₂ h₃ h₄ h₅ h₆ h₇ h₈ h₉
  all_goals cases h
  · exact h₁ ▸ .colon h₂
  · exact h₃ ▸ .opening
  · exact h₅ ▸ .closing
  · exact h₇ ▸ .user
  · exact h₈ ▸ .percent
  · exact .plain h₉

theorem run_cons_eq_ok {c : Char} {cs : List Char} (h : s.run (c :: cs) = .ok s') :
    ∃ s₁, s.Takes c s₁ ∧ s₁.run cs = .ok s' := by
  rw [run] at h
  cases hc : s.step c with
  | error e =>
    rw [hc] at h
    cases h
  | ok s₁ =>
    rw [hc] at h
    exact ⟨s₁, takes_of_step hc, h⟩

theorem run_append (s : AuthorityScan) (cs ds : List Char) : s.run (cs ++ ds) = (s.run cs).bind (·.run ds) := by
  induction cs generalizing s with
  | nil => rfl
  | cons c cs ih =>
    rw [List.cons_append, run, run]
    cases s.step c with
    | error e => rfl
    | ok s₁ => exact ih s₁

theorem isScanned_of_run {cs : List Char} (h : s.run cs = .ok s') : ∀ c ∈ cs, isScanned c = true := by
  induction cs generalizing s with
  | nil => exact fun _ hc => absurd hc List.not_mem_nil
  | cons c cs ih =>
    obtain ⟨s₁, hc, hcs⟩ := run_cons_eq_ok h
    refine List.forall_mem_cons.2 ⟨?_, ih hcs⟩
    cases hc with
    | plain hplain => rw [isScanned, hplain, Bool.true_or]
    | _ => decide

/-- What every character keeps, a text keeps. -/
theorem run_keeps {P : AuthorityScan → Prop} {cs : List Char}
    (hstep : ∀ {s c s'}, c ∈ cs → Takes s c s' → P s → P s') (h : s.run cs = .ok s') (hs : P s) : P s' := by
  induction cs generalizing s with
  | nil =>
    cases h
    exact hs
  | cons c cs ih =>
    obtain ⟨s₁, hc, hcs⟩ := run_cons_eq_ok h
    exact ih (fun hd => hstep (List.mem_cons_of_mem _ hd)) hcs (hstep List.mem_cons_self hc hs)

theorem colons_of_run {cs : List Char} (h : s.run cs = .ok s') (hcs : ':' ∉ cs) (hs : s.colons = 0) :
    s'.colons = 0 := by
  refine run_keeps (P := fun s => s.colons = 0) ?_ h hs
  intro s c s' hc htakes hs
  cases htakes with
  | colon _ => exact absurd hc hcs
  | closing => rfl
  | user => rfl
  | _ => exact hs

theorem closed_of_run {cs : List Char} (h : s.run cs = .ok s') (hcs : ']' ∉ cs) (hs : s.closed = false) :
    s'.closed = false := by
  refine run_keeps (P := fun s => s.closed = false) ?_ h hs
  intro s c s' hc htakes hs
  cases htakes with
  | closing => exact absurd hc hcs
  | _ => exact hs

theorem opened_of_run {cs : List Char} (h : s.run cs = .ok s') (hs : s.opened = true) : s'.opened = true := by
  refine run_keeps (P := fun s => s.opened = true) ?_ h hs
  intro s c s' _ htakes hs
  cases htakes with
  | opening => rfl
  | _ => exact hs

theorem step_of_isDigit {c : Char} (h : c.isDigit = true) : s.step c = .ok { s with afterAt := false } := by
  have hne : c ≠ ':' ∧ c ≠ '[' ∧ c ≠ ']' ∧ c ≠ '@' ∧ c ≠ '%' := by
    refine ⟨?_, ?_, ?_, ?_, ?_⟩ <;> rintro rfl <;> revert h <;> decide
  rw [step, if_neg hne.1, if_neg hne.2.1, if_neg hne.2.2.1, if_neg hne.2.2.2.1, if_neg hne.2.2.2.2,
    if_pos (isAuthorityChar_of_isDigit h)]

theorem run_of_isDigit {cs : List Char} (h : ∀ c ∈ cs, c.isDigit = true) (hs : s.afterAt = false) :
    s.run cs = .ok s := by
  induction cs with
  | nil => rfl
  | cons c cs ih =>
    have hsame : { s with afterAt := false } = s := by rw [← hs]
    rw [run, step_of_isDigit (h c List.mem_cons_self), hsame]
    exact ih fun d hd => h d (List.mem_cons_of_mem _ hd)

/-- A port may follow where no colon came since the last `@` or `]`. -/
theorem run_port {digits : List Char} (h : ∀ c ∈ digits, c.isDigit = true) (hs : s.colons = 0) :
    s.run (':' :: digits) = .ok { s with colons := 1, afterAt := false } := by
  have hstep : s.step ':' = .ok { s with colons := 1, afterAt := false } := by
    rw [step, if_pos rfl, hs, if_pos (by decide)]
  rw [run, hstep]
  exact run_of_isDigit h rfl

end AuthorityScan

theorem checkAuthority_isOk_iff {cs : List Char} :
    (checkAuthority cs).isOk = true ↔ ∃ s, AuthorityScan.run {} cs = .ok s ∧ s.mayEnd = true := by
  rw [checkAuthority]
  cases AuthorityScan.run {} cs with
  | error e => simp [Except.bind, Except.isOk, Except.toBool]
  | ok s => by_cases h : s.mayEnd = true <;> simp [Except.bind, Except.isOk, Except.toBool, h]

/-! ### Hosts -/

/-- An address in brackets. -/
def IsBracketed (host : List Char) : Prop := ∃ cs, host = '[' :: (cs ++ [']']) ∧ ']' ∉ cs

/-- A host as it is written: a name without a colon that does not start with a bracket, or an address in brackets;
neither holds `@`. -/
structure IsHost (host : List Char) : Prop where
  user : '@' ∉ host
  shape : host.head? ≠ some '[' ∧ ':' ∉ host ∨ IsBracketed host

/-- A host with the digits of a port, if there are any. -/
def hostText (host : List Char) : Option (List Char) → List Char
  | none => host
  | some digits => host ++ ':' :: digits

def ArePort (port : Option (List Char)) : Prop := ∀ digits ∈ port, ∀ c ∈ digits, c.isDigit = true

section

variable {host : List Char} {port : Option (List Char)}

/-- The last colon stands before the digits. -/
theorem cutLast_of_digits (front : List Char) {digits : List Char} (h : ∀ c ∈ digits, c.isDigit = true) :
    cutLast ':' (front ++ ':' :: digits) = some (front, digits) :=
  cutLast_eq_some_iff.2 ⟨rfl, notMem_of_forall h (by decide)⟩

theorem mem_hostText {c : Char} (hport : ArePort port) (h : c ∈ hostText host port) :
    c ∈ host ∨ c = ':' ∨ c.isDigit = true := by
  cases port with
  | none => exact .inl h
  | some digits =>
    rcases List.mem_append.1 h with h | h
    · exact .inl h
    · rcases List.mem_cons.1 h with h | h
      · exact .inr (.inl h)
      · exact .inr (.inr (hport digits rfl c h))

/-- A colon and digits behind a text do not make it start with a bracket. -/
theorem head?_ne_of_digits {host : List Char} (h : host.head? ≠ some '[') (digits : List Char) :
    (host ++ ':' :: digits).head? ≠ some '[' := by
  cases host with
  | nil => exact fun h => by cases h
  | cons c cs => exact h

theorem at_notMem_hostText (hport : ArePort port) (h : '@' ∉ host) : '@' ∉ hostText host port := fun hmem => by
  rcases mem_hostText hport hmem with hmem | hmem | hmem
  · exact h hmem
  · cases hmem
  · cases hmem

end

/-! ### The reader of authorities -/

namespace Authority

variable {a : Authority} {host : List Char} {port : Option (List Char)}

theorem isScanned_of_mem (a : Authority) : ∀ c ∈ a.text, isScanned c = true := by
  obtain ⟨s, hrun, -⟩ := checkAuthority_isOk_iff.1 a.checked
  exact AuthorityScan.isScanned_of_run hrun

/-- An authority has no character at which one ends. -/
theorem endsAuthority_of_mem (a : Authority) {c : Char} (hc : c ∈ a.text) : endsAuthority c = false := by
  have hscanned := a.isScanned_of_mem c hc
  cases hends : endsAuthority c with
  | false => rfl
  | true =>
    rw [isScanned_of_endsAuthority hends] at hscanned
    cases hscanned

theorem parse_eq_ok_iff {cs : List Char} : parse cs = .ok a ↔ a.text = cs := by
  constructor
  · intro h
    rw [parse] at h
    split at h
    · cases h
    · split at h
      · cases h
      · split at h
        · cases h
          rfl
        · cases h
  · rintro rfl
    have hall : a.text.takeWhile (!endsAuthority ·) = a.text := by
      rw [List.takeWhile_eq_self_iff]
      intro c hc
      rw [a.endsAuthority_of_mem hc, Bool.not_false]
    rw [parse, dif_neg a.nonempty, hall]
    split
    · next e he =>
      have hchecked := a.checked
      rw [he] at hchecked
      cases hchecked
    · exact dif_pos a.checked

theorem hostPort_eq (h : '@' ∉ a.text) : a.hostPort = a.text := afterLast_of_notMem h

theorem host_of_bracket {cs rest : List Char} (h : a.text = '[' :: (cs ++ ']' :: rest)) (hcs : ']' ∉ cs)
    (hat : '@' ∉ a.text) : a.host = '[' :: (cs ++ [']']) := by
  rw [host, hostPort_eq hat, h]
  show '[' :: (cs ++ ']' :: rest).takeWhile (· != ']') ++ [']'] = _
  rw [takeWhile_append_of_notMem hcs, List.cons_append]

theorem host_of_name (hhead : a.text.head? ≠ some '[') (hat : '@' ∉ a.text) :
    a.host = a.text.takeWhile (· != ':') := by
  rw [host, hostPort_eq hat]
  split
  · next cs htext =>
    rw [htext] at hhead
    exact absurd rfl hhead
  · rfl

/-- The host of an authority is the one that is written. -/
theorem host_eq (hhost : IsHost host) (hport : ArePort port) (h : a.text = hostText host port) : a.host = host := by
  have hat : '@' ∉ a.text := h ▸ at_notMem_hostText hport hhost.user
  rcases hhost.shape with ⟨hhead, hcolon⟩ | ⟨cs, rfl, hcs⟩
  · cases port with
    | none =>
      have htext : a.text = host := h
      rw [host_of_name (htext ▸ hhead) hat, htext, takeWhile_of_notMem hcolon]
    | some digits =>
      have htext : a.text = host ++ ':' :: digits := h
      rw [host_of_name (htext ▸ head?_ne_of_digits hhead digits) hat, htext, takeWhile_append_of_notMem hcolon]
  · cases port with
    | none =>
      have htext : a.text = '[' :: (cs ++ ']' :: []) := h
      exact host_of_bracket htext hcs hat
    | some digits =>
      have htext : a.text = '[' :: (cs ++ ']' :: ':' :: digits) := by
        rw [h, hostText, List.cons_append, List.append_assoc, List.singleton_append]
      exact host_of_bracket htext hcs hat

theorem port?_of_notMem (h : ':' ∉ a.text) : a.port? = none := by
  rw [port?, cutLast_eq_none_iff.2 h]
  rfl

/-- What is behind the last colon is no port if a bracket closes there. -/
theorem port?_of_closing {front : List Char} (h : a.text = front ++ [']']) : a.port? = none := by
  rw [port?]
  cases hcut : cutLast ':' a.text with
  | none => rfl
  | some parts =>
    obtain ⟨p, q⟩ := parts
    obtain ⟨htext, -⟩ := cutLast_eq_some_iff.1 hcut
    have hmem : ']' ∈ q := by
      rcases List.eq_nil_or_concat q with rfl | ⟨q, c, rfl⟩
      · have hlast := List.append_inj_right' (h.symm.trans htext) rfl
        cases hlast
      · rw [List.concat_eq_append] at htext ⊢
        rw [h, ← List.cons_append, ← List.append_assoc] at htext
        obtain rfl := List.singleton_inj.1 (List.append_inj_right' htext rfl)
        exact List.mem_append_right _ List.mem_cons_self
    exact unsigned?_of_mem hmem (by decide) (by decide)

theorem port?_of_digits {front digits : List Char} (h : a.text = front ++ ':' :: digits)
    (hdigits : ∀ c ∈ digits, c.isDigit = true) : a.port? = unsigned? portLimit digits := by
  rw [port?, h, cutLast_of_digits front hdigits]
  rfl

/-- The port of an authority is the number of its digits. -/
theorem port?_eq (hhost : IsHost host) (hport : ArePort port) (h : a.text = hostText host port) :
    a.port? = port.bind (unsigned? portLimit) := by
  cases port with
  | some digits => exact port?_of_digits h (hport digits rfl)
  | none =>
    have htext : a.text = host := h
    rcases hhost.shape with ⟨-, hcolon⟩ | ⟨cs, rfl, -⟩
    · exact port?_of_notMem (htext ▸ hcolon)
    · rw [← List.cons_append] at htext
      exact port?_of_closing htext

end Authority

/-! ### The reader of `Host` headers -/

theorem splitHost_of_bracket {cs : List Char} (hcs : ']' ∉ cs) (rest : List Char) :
    Request.splitHost ('[' :: (cs ++ ']' :: rest)) =
      ('[' :: (cs ++ [']']),
        match rest with
        | ':' :: port => unsigned? portLimit port
        | _ => none) := by
  have hopen : ']' ∉ '[' :: cs := by simpa using hcs
  rw [Request.splitHost, List.head?_cons, if_pos rfl, ← List.cons_append, cutFirst_eq_some_iff.2 ⟨rfl, hopen⟩]
  cases rest with
  | nil => rfl
  | cons c rest =>
    by_cases hc : c = ':'
    · subst hc
      rfl
    · simp [hc]

theorem splitHost_of_name {host : List Char} (hhead : host.head? ≠ some '[') (hcolon : ':' ∉ host) :
    Request.splitHost host = (host, none) := by
  rw [Request.splitHost, if_neg hhead, cutLast_eq_none_iff.2 hcolon]

section

variable {host digits : List Char} (hhead : host.head? ≠ some '[') (hdigits : ∀ c ∈ digits, c.isDigit = true)
include hhead hdigits

theorem splitHost_of_port {n : Nat} (h : unsigned? portLimit digits = some n) :
    Request.splitHost (host ++ ':' :: digits) = (host, some n) := by
  simp only [Request.splitHost, if_neg (head?_ne_of_digits hhead digits), cutLast_of_digits host hdigits, h]

/-- Digits that are no port belong to the host. -/
theorem splitHost_of_unusable (h : unsigned? portLimit digits = none) :
    Request.splitHost (host ++ ':' :: digits) = (host ++ ':' :: digits, none) := by
  simp only [Request.splitHost, if_neg (head?_ne_of_digits hhead digits), cutLast_of_digits host hdigits, h]

end

/-! ### Both readers -/

/-- Whether both readers see the same port: there is none, it stands behind an address in brackets, or it is a number of
a port behind a name. -/
def PortReadable (host : List Char) : Option (List Char) → Prop
  | none => True
  | some digits => IsBracketed host ∨ host.head? ≠ some '[' ∧ (unsigned? portLimit digits).isSome = true

/-- A bracket that is opened is closed. -/
theorem Authority.closing_mem {a : Authority} {cs : List Char} (h : a.text = '[' :: cs) : ']' ∈ cs := by
  obtain ⟨s, hrun, hend⟩ := checkAuthority_isOk_iff.1 a.checked
  by_contra hcs
  rw [h] at hrun
  obtain ⟨s₁, htakes, hrun⟩ := AuthorityScan.run_cons_eq_ok hrun
  have hs₁ : s₁.opened = true ∧ s₁.closed = false := by
    cases htakes with
    | opening => exact ⟨rfl, rfl⟩
    | plain h => cases h
  have hopened := AuthorityScan.opened_of_run hrun hs₁.1
  have hclosed := AuthorityScan.closed_of_run hrun hcs hs₁.2
  rw [AuthorityScan.mayEnd, hopened, hclosed] at hend
  cases hend

section

variable {a : Authority} {host : List Char} {port : Option (List Char)}

/-- Behind a bracket that closes before the end of the host no port is seen in a header. -/
theorem splitHost_of_unbracketed (hat : '@' ∉ host) (hcolon : ':' ∉ host) (hport : ArePort port)
    (h : a.text = hostText host port) (hhead : host.head? = some '[') (hbracketed : ¬IsBracketed host) :
    Request.splitHost a.text = (a.host, none) := by
  obtain ⟨cs, rfl⟩ := List.head?_eq_some_iff.1 hhead
  have hat' : '@' ∉ a.text := h ▸ at_notMem_hostText hport hat
  have hclose : ']' ∈ '[' :: cs := by
    obtain ⟨rest, hrest⟩ : ∃ rest, a.text = '[' :: (cs ++ rest) := by
      cases port with
      | none => exact ⟨[], by rw [h, hostText, List.append_nil]⟩
      | some digits => exact ⟨':' :: digits, h⟩
    have hmem : ']' ∈ a.text := hrest ▸ List.mem_cons_of_mem _ (Authority.closing_mem hrest)
    rcases mem_hostText hport (h ▸ hmem) with hmem | hmem | hmem
    · exact hmem
    · cases hmem
    · cases hmem
  cases hcut : cutFirst ']' cs with
  | none => exact absurd ((List.mem_cons.1 hclose).resolve_left (by decide)) (cutFirst_eq_none_iff.1 hcut)
  | some parts =>
    obtain ⟨lit, rest⟩ := parts
    obtain ⟨rfl, hlit⟩ := cutFirst_eq_some_iff.1 hcut
    cases rest with
    | nil => exact absurd ⟨lit, rfl, hlit⟩ hbracketed
    | cons c rest =>
      have hc : c ≠ ':' := fun hc => hcolon (by simp [hc])
      obtain ⟨back, hback⟩ : ∃ back, a.text = '[' :: (lit ++ ']' :: c :: back) := by
        cases port with
        | none => exact ⟨rest, h⟩
        | some digits => exact ⟨rest ++ ':' :: digits, by rw [h, hostText]; simp⟩
      rw [Authority.host_of_bracket hback hlit hat', hback, splitHost_of_bracket hlit]
      simp [hc]

/-- **The two readers agree** on every text without a user, except for a port behind a name that is not the number of a
port, and for a port behind a bracket that closes too early. -/
theorem splitHost_text (hat : '@' ∉ host) (hcolon : ':' ∉ host ∨ IsBracketed host) (hport : ArePort port)
    (h : a.text = hostText host port) (hread : PortReadable host port) :
    Request.splitHost a.text = (a.host, a.port?) := by
  by_cases hbracketed : IsBracketed host
  · have hhost : IsHost host := ⟨hat, .inr hbracketed⟩
    rw [Authority.host_eq hhost hport h, Authority.port?_eq hhost hport h, h]
    obtain ⟨cs, rfl, hcs⟩ := hbracketed
    cases port with
    | none => exact splitHost_of_bracket hcs []
    | some digits =>
      rw [hostText, List.cons_append, List.append_assoc, List.singleton_append]
      exact splitHost_of_bracket hcs (':' :: digits)
  have hcolon : ':' ∉ host := hcolon.resolve_right hbracketed
  by_cases hhead : host.head? = some '['
  · cases port with
    | none =>
      rw [splitHost_of_unbracketed hat hcolon hport h hhead hbracketed, Authority.port?_of_notMem (h ▸ hcolon)]
    | some digits =>
      rcases hread with hread | ⟨hread, -⟩
      · exact absurd hread hbracketed
      · exact absurd hhead hread
  · have hhost : IsHost host := ⟨hat, .inl ⟨hhead, hcolon⟩⟩
    rw [Authority.host_eq hhost hport h, Authority.port?_eq hhost hport h, h]
    cases port with
    | none => exact splitHost_of_name hhead hcolon
    | some digits =>
      obtain ⟨n, hn⟩ := Option.isSome_iff_exists.1 (hread.resolve_left hbracketed).2
      rw [hostText, splitHost_of_port hhead (hport digits rfl) hn, Option.bind_some, hn]

end

/-! ### Where a request takes them from -/

namespace Request

variable {r : Request} {a : Authority} {text : List Char}

theorem host?_of_authority (h : r.uri.authority? = some a) : r.host? = some (String.ofList a.host) := by
  rw [host?, Uri.host?, h]
  rfl

theorem port?_of_authority (h : r.uri.authority? = some a) : r.port? = a.port?.or (defaultPort? r.scheme) := by
  rw [port?, h]

theorem host?_of_header (h : r.uri.authority? = none) (hheader : r.hostHeader? = some text) :
    r.host? = some (String.ofList (splitHost text).1) := by
  rw [host?, Uri.host?, h, hheader]
  rfl

theorem port?_of_header (h : r.uri.authority? = none) (hheader : r.hostHeader? = some text) :
    r.port? = (splitHost text).2.or (defaultPort? r.scheme) := by
  rw [port?, h, hheader]
  rfl

/-- The `Host` header is the first of its lines, without the white space around it. -/
theorem hostHeader?_eq {before after : List Char} {values : List String} (hbefore : ∀ c ∈ before, isBlank c = true)
    (hafter : ∀ c ∈ after, isBlank c = true)
    (h : r.headers.getAll "Host" = String.ofList (before ++ a.text ++ after) :: values) :
    r.hostHeader? = some a.text := by
  have htext : ∀ c ∈ a.text, isBlank c = false := fun c hc => by
    have hscanned := a.isScanned_of_mem c hc
    cases hblank : isBlank c with
    | false => rfl
    | true =>
      rw [isScanned_of_isBlank hblank] at hscanned
      cases hscanned
  rw [hostHeader?, Message.header?, Headers.get?_eq_head?, h, List.head?_cons, Option.map_some, String.toList_ofList,
    trim_surrounded hbefore hafter htext]

end Request

end InterceptAddons.Http
