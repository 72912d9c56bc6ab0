import InterceptAddons.Proofs.Http.Authority
import InterceptAddons.Proofs.Http.Headers
import InterceptAddons.Proofs.Http.Target

/-!
# Changing the host

A new host goes into the authority of the target and into the `Host` header, whichever of them is there. Main statement:
`setHost_keeps`. The request then has the new host. It keeps its port if the target has an authority; a port that only
the `Host` header names is lost.
-/

namespace InterceptAddons.Http

open InterceptAddons.Text

/-! ### Host and port as they are written -/

/-- An authority that is all host is a host as it is written. -/
theorem isHost_of_host_eq {a : Authority} (h : a.host = a.text) : IsHost a.text := by
  rw [Authority.host] at h
  cases hcut : cutLast '@' a.text with
  | some parts =>
    -- the host stands behind the user, so it is shorter than the text
    obtain ⟨user, rest⟩ := parts
    obtain ⟨htext, -⟩ := cutLast_eq_some_iff.1 hcut
    have hrest : a.hostPort = rest := by
      rw [Authority.hostPort, afterLast, hcut]
      rfl
    rw [hrest, htext] at h
    split at h
    · next cs =>
      have hlength := congrArg List.length h
      have htake : (cs.takeWhile (· != ']')).length ≤ cs.length := (List.takeWhile_prefix _).length_le
      simp only [List.length_append, List.length_cons, List.length_nil] at hlength
      obtain rfl : user = [] := List.length_eq_zero_iff.1 (by omega)
      cases h
    · have hlength := congrArg List.length h
      have htake : (rest.takeWhile (· != ':')).length ≤ rest.length := (List.takeWhile_prefix _).length_le
      simp only [List.length_append, List.length_cons] at hlength
      omega
  | none =>
    have hat := cutLast_eq_none_iff.1 hcut
    rw [Authority.hostPort_eq hat] at h
    split at h
    · next cs hcs =>
      exact ⟨hat, .inr ⟨cs.takeWhile (· != ']'), h.symm, notMem_takeWhile ']' cs⟩⟩
    · next hcs =>
      refine ⟨hat, .inl ⟨fun hhead => ?_, h ▸ notMem_takeWhile ':' a.text⟩⟩
      obtain ⟨cs, htext⟩ := List.head?_eq_some_iff.1 hhead
      exact hcs cs htext

theorem checkAuthority_hostText {a : Authority} {port : Option (List Char)} (hhost : IsHost a.text)
    (hport : ArePort port) : (checkAuthority (hostText a.text port)).isOk = true := by
  cases port with
  | none => exact a.checked
  | some digits =>
    obtain ⟨s, hrun, hend⟩ := checkAuthority_isOk_iff.1 a.checked
    have hcolons : s.colons = 0 := by
      rcases hhost.shape with ⟨-, hcolon⟩ | ⟨cs, htext, -⟩
      · exact AuthorityScan.colons_of_run hrun hcolon rfl
      · -- the bracket that closes forgets the colons
        rw [htext, ← List.cons_append, AuthorityScan.run_append] at hrun
        cases hcs : AuthorityScan.run {} ('[' :: cs) with
        | error e =>
          rw [hcs] at hrun
          cases hrun
        | ok s₁ =>
          rw [hcs] at hrun
          have hlast : s₁.run [']'] = .ok s := hrun
          obtain ⟨s₂, htakes, hs₂⟩ := AuthorityScan.run_cons_eq_ok hlast
          cases hs₂
          cases htakes with
          | closing => rfl
          | plain h => cases h
    refine checkAuthority_isOk_iff.2 ⟨{ s with colons := 1, afterAt := false }, ?_, ?_⟩
    · rw [hostText, AuthorityScan.run_append, hrun]
      exact AuthorityScan.run_port (hport digits rfl) hcolons
    · rw [AuthorityScan.mayEnd, Bool.and_eq_true, Bool.and_eq_true, Bool.and_eq_true] at hend ⊢
      obtain ⟨⟨⟨hbrackets, -⟩, -⟩, hpercent⟩ := hend
      exact ⟨⟨⟨hbrackets, rfl⟩, rfl⟩, hpercent⟩

/-- A host with a port behind it is an authority. -/
theorem exists_authority {a : Authority} {port : Option (List Char)} (hhost : IsHost a.text) (hport : ArePort port) :
    ∃ b : Authority, b.text = hostText a.text port := by
  have hne : hostText a.text port ≠ [] := by
    cases port with
    | none => exact a.nonempty
    | some digits => exact List.append_ne_nil_of_right_ne_nil _ (List.cons_ne_nil _ _)
  exact ⟨⟨hostText a.text port, hne, checkAuthority_hostText hhost hport⟩, rfl⟩

def writtenHost (host : String) : Option Nat → String
  | some port => host ++ ":" ++ toString port
  | none => host

theorem toList_writtenHost (host : String) (port : Option Nat) :
    (writtenHost host port).toList = hostText host.toList (port.map (Nat.toDigits 10)) := by
  cases port with
  | none => rfl
  | some n =>
    have hdigits : (toString n).toList = Nat.toDigits 10 n := String.toList_ofList
    rw [writtenHost, String.toList_append, String.toList_append, hdigits, List.append_assoc]
    rfl

theorem arePort_toDigits (port : Option Nat) : ArePort (port.map (Nat.toDigits 10)) := by
  intro digits hdigits c hc
  obtain ⟨n, -, rfl⟩ := Option.map_eq_some_iff.1 hdigits
  exact isDigit_of_mem_toDigits hc

theorem Authority.port?_lt {a : Authority} {n : Nat} (h : a.port? = some n) : n < portLimit := by
  rw [port?] at h
  obtain ⟨parts, -, hn⟩ := Option.bind_eq_some_iff.1 h
  exact unsigned?_lt hn

/-! ### Requests -/

theorem Uri.withAuthority_of_isSome {u : Uri} {a : Authority} (h : u.authority? = some a) (b : Authority) :
    (u.withAuthority b).authority? = some b ∧ (u.withAuthority b).scheme? = u.scheme? ∧
      (u.withAuthority b).target = u.target := by
  cases u with
  | origin t => cases h
  | bare _ => exact ⟨rfl, rfl, rfl⟩
  | absolute _ _ _ => exact ⟨rfl, rfl, rfl⟩

namespace Request

/-- The headers with a new `Host`, if there was one. -/
def hostHeaders (hs : Headers) (text : String) : Headers := if hs.contains "Host" then hs.set "Host" text else hs

theorem getAll_hostHeaders (hs : Headers) (text : String) :
    (hostHeaders hs text).getAll "Host" = if hs.contains "Host" then [text] else [] := by
  rw [hostHeaders]
  split_ifs with h
  · exact Headers.getAll_set hs "Host" text
  · rw [Headers.contains_eq] at h
    simpa using h

theorem filter_hostHeaders (hs : Headers) (text : String) :
    (hostHeaders hs text).lines.filter (!·.isNamed "Host") = hs.lines.filter (!·.isNamed "Host") := by
  rw [hostHeaders]
  split_ifs
  · exact ((HeaderStep.set "Host" text).does hs).filter_others
  · rfl

/-- A new host is written into the target and into the headers with the port that the target names. -/
theorem setHost_eq (r : Request) (host : String) :
    r.setHost host =
      match r.uri.authority? with
      | some _ => (Authority.parse (writtenHost host r.uri.port?).toList).map fun a =>
          { r with headers := hostHeaders r.headers (writtenHost host r.uri.port?), uri := r.uri.withAuthority a }
      | none => .ok { r with headers := hostHeaders r.headers (writtenHost host r.uri.port?) } := rfl

theorem setHost_of_authority {r : Request} {a b : Authority} {host : String} (ha : r.uri.authority? = some a)
    (hb : b.text = (writtenHost host r.uri.port?).toList) :
    r.setHost host =
      .ok { r with uri := r.uri.withAuthority b, headers := hostHeaders r.headers (writtenHost host r.uri.port?) } := by
  rw [setHost_eq, ha, Authority.parse_eq_ok_iff.2 hb]
  rfl

theorem setHost_of_origin {r : Request} {host : String} (h : r.uri.authority? = none) :
    r.setHost host = .ok { r with headers := hostHeaders r.headers host } := by
  have hport : r.uri.port? = none := by rw [Uri.port?, h, Option.bind_none]
  rw [setHost_eq, h, hport]
  rfl

/-- What a new host leaves as it is. -/
structure KeepsAllButHost (r r' : Request) : Prop where
  scheme : r'.scheme = r.scheme
  path : r'.path = r.path
  query : r'.query? = r.query?
  hostLines : (r'.headers.getAll "Host").length = if r.headers.contains "Host" then 1 else 0
  otherLines : r'.headers.lines.filter (!·.isNamed "Host") = r.headers.lines.filter (!·.isNamed "Host")
  rest : r' = { r with uri := r'.uri, headers := r'.headers }

theorem keepsAllButHost_of {r : Request} {u : Uri} (text : String) (hscheme : u.scheme? = r.uri.scheme?)
    (htarget : u.target = r.uri.target) :
    r.KeepsAllButHost { r with uri := u, headers := hostHeaders r.headers text } where
  scheme := by rw [scheme, scheme, hscheme]
  path := by rw [path, path, Uri.path, Uri.path, htarget, hscheme]
  query := by rw [query?, query?, Uri.query?, Uri.query?, htarget]
  hostLines := by
    show ((hostHeaders r.headers text).getAll "Host").length = _
    rw [getAll_hostHeaders]
    split_ifs <;> rfl
  otherLines := filter_hostHeaders r.headers text
  rest := rfl

/-- A target with an authority gets the new host, with its port behind it. -/
theorem setHost_authority {r : Request} {host : String} {a b : Authority} (ha : Authority.parse host.toList = .ok a)
    (hhost : a.host = a.text) (hb : r.uri.authority? = some b) :
    ∃ r', r.setHost host = .ok r' ∧ r'.host? = some host ∧ r'.port? = r.port? ∧ r.KeepsAllButHost r' := by
  have htext : a.text = host.toList := Authority.parse_eq_ok_iff.1 ha
  have hIs : IsHost a.text := isHost_of_host_eq hhost
  have hport := arePort_toDigits r.uri.port?
  obtain ⟨b', hb'⟩ := exists_authority hIs hport
  obtain ⟨hauthority, hscheme, htarget⟩ := Uri.withAuthority_of_isSome hb b'
  have hwritten : b'.text = (writtenHost host r.uri.port?).toList := by rw [hb', toList_writtenHost, htext]
  have hkeeps := keepsAllButHost_of (writtenHost host r.uri.port?) hscheme htarget
  refine ⟨_, setHost_of_authority hb hwritten, ?_, ?_, hkeeps⟩
  · rw [host?_of_authority hauthority, Authority.host_eq hIs hport hb', htext, String.ofList_toList]
  · have hnumber : b'.port? = b.port? := by
      rw [Authority.port?_eq hIs hport hb', Uri.port?, hb, Option.bind_some]
      cases hn : b.port? with
      | none => rfl
      | some n => exact unsigned?_toDigits (Authority.port?_lt hn)
    rw [port?_of_authority hauthority, port?_of_authority hb, hnumber, hkeeps.scheme]

/-- Without an authority the `Host` header gets the new host, and no port. -/
theorem setHost_header {r : Request} {host : String} {a : Authority} (ha : Authority.parse host.toList = .ok a)
    (hhost : a.host = a.text) (horigin : r.uri.authority? = none) (hheader : r.headers.contains "Host" = true) :
    ∃ r', r.setHost host = .ok r' ∧ r'.host? = some host ∧ r'.port? = defaultPort? r.scheme ∧ r.KeepsAllButHost r' := by
  have htext : a.text = host.toList := Authority.parse_eq_ok_iff.1 ha
  have hIs : IsHost a.text := isHost_of_host_eq hhost
  let r' : Request := { r with headers := hostHeaders r.headers host }
  have horigin' : r'.uri.authority? = none := horigin
  have hkeeps : r.KeepsAllButHost r' := keepsAllButHost_of host rfl rfl
  have hlines : (hostHeaders r.headers host).getAll "Host" = String.ofList ([] ++ a.text ++ []) :: [] := by
    rw [getAll_hostHeaders, if_pos hheader, List.nil_append, List.append_nil, htext, String.ofList_toList]
  have hheader' : r'.hostHeader? = some a.text :=
    hostHeader?_eq (List.forall_mem_nil _) (List.forall_mem_nil _) hlines
  have hcolon : ':' ∉ a.text ∨ IsBracketed a.text := hIs.shape.imp And.right id
  have hnone : ArePort none := fun _ h => by cases h
  have hall : a.text = hostText a.text none := rfl
  have hsplit : splitHost a.text = (a.host, none) := by
    rw [splitHost_text hIs.user hcolon hnone hall trivial, Authority.port?_eq hIs hnone hall]
    rfl
  refine ⟨r', setHost_of_origin horigin, ?_, ?_, hkeeps⟩
  · rw [host?_of_header horigin' hheader', hsplit, hhost, htext, String.ofList_toList]
  · rw [port?_of_header horigin' hheader', hsplit, hkeeps.scheme]
    rfl

/-- **A new host keeps the rest of the request.** A text that is all host is taken as the host of every request that has
one, in its target or in a `Host` header. Scheme, path and query stay as they are, there is one `Host` line exactly if
there was any, and nothing else changes. The port stays as it is if the target has an authority. Without one the port
becomes that of the scheme, whatever the `Host` header said. -/
theorem setHost_keeps (r : Request) (host : String) (a : Authority) (ha : Authority.parse host.toList = .ok a)
    (hhost : a.host = a.text) (hr : r.uri.authority?.isSome = true ∨ r.headers.contains "Host" = true) :
    ∃ r', r.setHost host = .ok r' ∧ r'.host? = some host ∧ r.KeepsAllButHost r' ∧
      (r.uri.authority?.isSome = true → r'.port? = r.port?) ∧
      (r.uri.authority? = none → r'.port? = defaultPort? r.scheme) := by
  cases hauthority : r.uri.authority? with
  | some b =>
    obtain ⟨r', hr', hhost', hport, hkeeps⟩ := setHost_authority ha hhost hauthority
    exact ⟨r', hr', hhost', hkeeps, fun _ => hport, nofun⟩
  | none =>
    have hheader : r.headers.contains "Host" = true := hr.resolve_left (by simp [hauthority])
    obtain ⟨r', hr', hhost', hport, hkeeps⟩ := setHost_header ha hhost hauthority hheader
    exact ⟨r', hr', hhost', hkeeps, nofun, fun _ => hport⟩

/-- An address in brackets for a target with a user and a port, and with two `Host` lines. -/
theorem setHost_keeps_address :
    let r : Request := (Request.new ⟨"GET", by decide⟩
      (.absolute .https ⟨"me@example.com:8443".toList, by decide, by decide⟩ .empty)).modify fun m =>
        (m.addHeader "host" "a").addHeader "HOST" "b"
    let a : Authority := ⟨"[::1]".toList, by decide, by decide⟩
    Authority.parse "[::1]".toList = .ok a ∧ a.host = a.text ∧ r.uri.authority?.isSome = true ∧
      ∃ r', r.setHost "[::1]" = .ok r' ∧ r'.host? = some "[::1]" ∧ r'.port? = some 8443 ∧
        (r'.headers.getAll "Host").length = 1 := by
  intro r a
  have ha : Authority.parse "[::1]".toList = .ok a := by decide +kernel
  have hhost : a.host = a.text := by decide +kernel
  have hr : r.uri.authority?.isSome = true := rfl
  obtain ⟨r', hset, hhost', hkeeps, hport, -⟩ := setHost_keeps r "[::1]" a ha hhost (.inl hr)
  refine ⟨ha, hhost, hr, r', hset, hhost', ?_, ?_⟩
  · rw [hport hr]
    decide +kernel
  · rw [hkeeps.hostLines]
    decide +kernel

/-- A new host takes away the port that the `Host` header named. -/
theorem setHost_headerPort :
    let r : Request := (Request.new ⟨"GET", by decide⟩
      (.origin ⟨"/".toList, none, by decide, by decide⟩)).modify (·.addHeader "Host" "example.com:8080")
    let a : Authority := ⟨"other.example".toList, by decide, by decide⟩
    Authority.parse "other.example".toList = .ok a ∧ a.host = a.text ∧ r.headers.contains "Host" = true ∧
      r.port? = some 8080 ∧ (r.setHost "other.example").toOption.map Request.port? = some (some 80) := by
  decide +kernel

end Request

end InterceptAddons.Http
