import InterceptAddons.Proofs.Filter.Sources
import InterceptAddons.Proofs.Http.Authority
import InterceptAddons.Proofs.Http.Target

/-!
# Origin form and absolute form

A request names its server in its target, or in its `Host` header. Main statement: `origin_agrees`. For one
authority, path and query, both forms give the same scheme, path, query and URL, and so the same answers to filters
about them. They give the same host and port if both readers can read the port; where they cannot, the statement says
what each form gives.
-/

namespace InterceptAddons.Http

open InterceptAddons.Text InterceptAddons.Filter

/-! ### Reading both forms -/

namespace Uri

theorem span_text_append (a : Authority) {rest : List Char} (h : rest.head? = some '/') :
    (a.text ++ rest).takeWhile (!endsAuthority ·) = a.text ∧ (a.text ++ rest).dropWhile (!endsAuthority ·) = rest := by
  obtain ⟨cs, rfl⟩ := List.head?_eq_some_iff.1 h
  have hplain : ∀ c ∈ a.text, (!endsAuthority c) = true := fun c hc => by
    rw [a.endsAuthority_of_mem hc, Bool.not_false]
  rw [List.takeWhile_append_of_pos hplain, List.dropWhile_append_of_pos hplain]
  exact ⟨List.append_nil _, rfl⟩

theorem parse_http (rest : List Char) :
    parse (String.ofList ("http://".toList ++ rest)) =
      if maxUriSize < (String.ofList ("http://".toList ++ rest)).utf8ByteSize then .error .tooLong
      else parseAfterScheme .http rest := by
  have htext : (String.ofList ("http://".toList ++ rest)).toList =
      'h' :: 't' :: 't' :: 'p' :: ':' :: '/' :: '/' :: rest := String.toList_ofList
  rw [parse, htext]
  rfl

theorem parse_slash {pq : String} (h : pq.toList.head? = some '/') :
    parse pq = if maxUriSize < pq.utf8ByteSize then .error .tooLong else (Target.parse pq.toList).map origin := by
  obtain ⟨cs, hcs⟩ := List.head?_eq_some_iff.1 h
  rw [parse, hcs]
  cases cs with
  | nil => rfl
  | cons c cs => rfl

theorem parseAfterScheme_text_append (s : Scheme) (a : Authority) {rest : List Char} (h : rest.head? = some '/') :
    parseAfterScheme s (a.text ++ rest) = (Target.parse rest).map (absolute s a) := by
  obtain ⟨htake, hdrop⟩ := span_text_append a h
  have hempty : a.text.isEmpty = false := by
    rw [List.isEmpty_eq_false_iff]
    exact a.nonempty
  have hrest : rest.isEmpty = false := by
    obtain ⟨cs, rfl⟩ := List.head?_eq_some_iff.1 h
    rfl
  rw [parseAfterScheme.eq_def]
  cases htext : a.text ++ rest with
  | nil => exact absurd (List.append_eq_nil_iff.1 htext).1 a.nonempty
  | cons c cs =>
    rw [htext] at htake hdrop
    simp only [htake, hdrop, hempty, hrest, Authority.parse_eq_ok_iff.2 rfl]
    rfl

/-- What is read from `http://`, an authority, and a text from `/` on. -/
theorem parse_http_text_append {a : Authority} {pq : String} {u : Uri} (hpq : pq.toList.head? = some '/')
    (h : parse ("http://" ++ String.ofList a.text ++ pq) = .ok u) :
    ∃ t, Target.parse pq.toList = .ok t ∧ u = .absolute .http a t ∧ parse pq = .ok (.origin t) := by
  have htext : "http://" ++ String.ofList a.text ++ pq = String.ofList ("http://".toList ++ (a.text ++ pq.toList)) := by
    rw [← String.toList_inj]
    simp
  have hsize : pq.utf8ByteSize ≤ ("http://" ++ String.ofList a.text ++ pq).utf8ByteSize := by
    rw [String.utf8ByteSize_append]
    exact Nat.le_add_left _ _
  rw [htext] at h hsize
  rw [parse_http, parseAfterScheme_text_append .http a hpq] at h
  split at h
  · cases h
  · next hshort =>
    obtain ⟨t, ht, rfl⟩ := map_eq_ok h
    refine ⟨t, ht, rfl, ?_⟩
    rw [parse_slash hpq, if_neg (fun hlong => hshort (hlong.trans_le hsize)), ht]
    rfl

end Uri

/-! ### Requests in both forms -/

namespace Request

theorem defaultPort?_http : defaultPort? "http" = some 80 := by decide +kernel

/-- Two requests with the same scheme, path, query and URL. -/
structure SamePlace (r r' : Request) : Prop where
  scheme : r.scheme = r'.scheme
  path : r.path = r'.path
  query : r.query? = r'.query?
  url : r.url = r'.url

/-- One `Host` line that holds the authority, with white space around it. -/
def HasHostLine (r : Request) (a : Authority) : Prop :=
  ∃ before after : List Char, (∀ c ∈ before, isBlank c = true) ∧ (∀ c ∈ after, isBlank c = true) ∧
    r.headers.getAll "Host" = [String.ofList (before ++ a.text ++ after)]

/-- The two requests have one path and query behind one authority; the first has it in its `Host` line, the second in
its target. -/
structure BothForms (a : Authority) (t : Target) (r r' : Request) : Prop where
  origin : r.uri = .origin t
  line : r.HasHostLine a
  absolute : r'.uri = .absolute .http a t

namespace BothForms

variable {a : Authority} {t : Target} {r r' : Request}

theorem hostHeader?_eq (h : BothForms a t r r') : r.hostHeader? = some a.text := by
  obtain ⟨before, after, hbefore, hafter, hline⟩ := h.line
  exact Request.hostHeader?_eq hbefore hafter hline

theorem scheme_eq (h : BothForms a t r r') : r.scheme = "http" ∧ r'.scheme = "http" := by
  rw [scheme, scheme, h.origin, h.absolute]
  exact ⟨rfl, rfl⟩

theorem samePlace (h : BothForms a t r r') (ht : t.path.head? = some '/') : r.SamePlace r' where
  scheme := h.scheme_eq.1.trans h.scheme_eq.2.symm
  path := by
    rw [path, path, Uri.path_of_slash, Uri.path_of_slash, h.origin, h.absolute]
    · rfl
    · rw [h.absolute]
      exact ht
    · rw [h.origin]
      exact ht
  query := by
    rw [query?, query?, h.origin, h.absolute]
    rfl
  url := by
    have hurl : r.url = r.scheme ++ "://" ++ String.ofList (a.text ++ t.text) := by
      rw [url, h.hostHeader?_eq, h.origin]
      rfl
    have hpath : (Uri.absolute .http a t).path = t.path := Uri.path_of_slash ht
    have hurl' : r'.url = String.ofList ("http".toList ++ "://".toList ++ a.text ++ t.path ++ t.queryText) := by
      rw [url, h.absolute, ← hpath]
      rfl
    have hempty : t.isEmpty = false := by
      obtain ⟨cs, hcs⟩ := List.head?_eq_some_iff.1 ht
      rw [Target.isEmpty, hcs]
      rfl
    rw [hurl, hurl', h.scheme_eq.1, Target.text, hempty, ← String.toList_inj]
    simp

theorem host?_origin (h : BothForms a t r r') : r.host? = some (String.ofList (splitHost a.text).1) := by
  refine host?_of_header ?_ h.hostHeader?_eq
  rw [h.origin]
  rfl

theorem port?_origin (h : BothForms a t r r') : r.port? = (splitHost a.text).2.or (some 80) := by
  rw [port?_of_header _ h.hostHeader?_eq, h.scheme_eq.1, defaultPort?_http]
  rw [h.origin]
  rfl

theorem host?_absolute (h : BothForms a t r r') : r'.host? = some (String.ofList a.host) := by
  refine host?_of_authority ?_
  rw [h.absolute]
  rfl

theorem port?_absolute (h : BothForms a t r r') : r'.port? = a.port?.or (some 80) := by
  rw [port?_of_authority (a := a), h.scheme_eq.2, defaultPort?_http]
  rw [h.absolute]
  rfl

end BothForms

/-! ### Filters -/

/-- The predicates about the URL and its path and query. -/
def placeNames : List String :=
  ["true", "in-scope", "path-contains", "path-matches", "file-ext-eq", "has-query-param", "query-param-matches"]

/-- The predicates about the URL and all its parts. -/
def serverNames : List String := "host-matches" :: "listener-port-eq" :: placeNames

/-- Filters built from the names give the same result on messages with these requests. -/
def AnswerAlike (names : List String) (r r' : Request) : Prop :=
  ∀ f g : Facts, f.request = r → g.request = r' → f.scope = g.scope →
    ∀ e : Expr, e.BuiltFrom names → e.eval f = e.eval g

theorem SamePlace.reads {r r' : Request} (h : r.SamePlace r') : r.file = r'.file ∧ r.queryParam? = r'.queryParam? := by
  have hpath : r.uri.path = r'.uri.path := String.ofList_injective h.path
  have hquery : r.uri.query? = r'.uri.query? := Option.map_injective (fun _ _ => String.ofList_injective) h.query
  refine ⟨by rw [file, file, hpath], ?_⟩
  funext name
  rw [queryParam?, queryParam?, hquery]

/-- Rows about the URL and its path and query read nothing else. -/
theorem run_of_placeNames {f g : Facts} (h : f.request.SamePlace g.request) (hs : f.scope = g.scope) :
    ∀ p ∈ predicates, p.name ∈ placeNames →
      p.isResponseOnly = false ∧ ∀ args, p.test.run args f = p.test.run args g := by
  simp [predicates, placeNames, Test.run, Facts.inScope, h.url, h.path, h.reads, hs]

/-- Rows about the URL and its parts read nothing else. -/
theorem run_of_serverNames {f g : Facts} (h : f.request.SamePlace g.request) (hs : f.scope = g.scope)
    (hhost : f.request.host? = g.request.host?) (hport : f.request.port? = g.request.port?) :
    ∀ p ∈ predicates, p.name ∈ serverNames →
      p.isResponseOnly = false ∧ ∀ args, p.test.run args f = p.test.run args g := by
  simp [predicates, serverNames, placeNames, Test.run, Facts.inScope, h.url, h.path, h.reads, hs, hhost, hport]

theorem SamePlace.answerAlike {r r' : Request} (h : r.SamePlace r') : AnswerAlike placeNames r r' := by
  rintro f g rfl rfl hs e he
  exact he.eval_eq (run_of_placeNames h hs)

theorem SamePlace.answerAlike_server {r r' : Request} (h : r.SamePlace r') (hhost : r.host? = r'.host?)
    (hport : r.port? = r'.port?) : AnswerAlike serverNames r r' := by
  rintro f g rfl rfl hs e he
  exact he.eval_eq (run_of_serverNames h hs hhost hport)

/-! ### Both forms agree -/

/-- **Origin form and absolute form agree.** Where a target of `http://`, a host, digits of a port, and a path is a
URI, so is the path alone. A request to the path whose one `Host` line holds host and port then has the same scheme,
path, query and URL as one to the whole target, and filters that ask for these see no difference. If the port is
readable, host and port are the same as well. Behind a name, digits that are no port belong to the host of the first
request, and not to that of the second; behind a bracket that closes within the host, the first request does not see
the port. -/
theorem origin_agrees (a : Authority) (host : List Char) (port : Option (List Char)) (pq : String) (u : Uri)
    (hat : '@' ∉ host) (hcolon : ':' ∉ host ∨ IsBracketed host) (hport : ArePort port)
    (ha : a.text = hostText host port) (hpq : pq.toList.head? = some '/')
    (hu : Uri.parse ("http://" ++ String.ofList a.text ++ pq) = .ok u) :
    ∃ o, Uri.parse pq = .ok o ∧ ∀ r r' : Request, r.uri = o → r.HasHostLine a → r'.uri = u →
      r.SamePlace r' ∧ AnswerAlike placeNames r r' ∧
      (PortReadable host port → r.host? = r'.host? ∧ r.port? = r'.port? ∧ AnswerAlike serverNames r r') ∧
      (∀ digits ∈ port, host.head? ≠ some '[' → unsigned? portLimit digits = none →
        r.host? = some (String.ofList a.text) ∧ r'.host? = some (String.ofList host) ∧ r.port? = r'.port?) ∧
      ∀ digits ∈ port, host.head? = some '[' → ¬IsBracketed host →
        r.host? = r'.host? ∧ r.port? = some 80 ∧ r'.port? = (unsigned? portLimit digits).or (some 80) := by
  obtain ⟨t, ht, rfl, ho⟩ := Uri.parse_http_text_append hpq hu
  refine ⟨_, ho, fun r r' hr hline hr' => ?_⟩
  have h : BothForms a t r r' := ⟨hr, hline, hr'⟩
  have hplace := h.samePlace (Target.head?_path_of_parse hpq ht)
  rw [h.host?_origin, h.port?_origin, h.host?_absolute, h.port?_absolute]
  refine ⟨hplace, hplace.answerAlike, fun hread => ?_, ?_, ?_⟩
  · have hsplit := splitHost_text hat hcolon hport ha hread
    have hhost : r.host? = r'.host? := by rw [h.host?_origin, h.host?_absolute, hsplit]
    have hports : r.port? = r'.port? := by rw [h.port?_origin, h.port?_absolute, hsplit]
    rw [hsplit]
    exact ⟨rfl, rfl, hplace.answerAlike_server hhost hports⟩
  · rintro digits rfl hhead hnone
    have hname : ':' ∉ host := by
      rcases hcolon with hcolon | ⟨cs, rfl, -⟩
      · exact hcolon
      · exact absurd rfl hhead
    have hsplit : splitHost a.text = (a.text, none) := by
      rw [ha, hostText, splitHost_of_unusable hhead (hport digits rfl) hnone]
    rw [hsplit, Authority.host_eq ⟨hat, .inl ⟨hhead, hname⟩⟩ hport ha,
      Authority.port?_of_digits ha (hport digits rfl), hnone]
    exact ⟨rfl, rfl, rfl⟩
  · rintro digits rfl hhead hbracketed
    rw [splitHost_of_unbracketed hat (hcolon.resolve_right hbracketed) hport ha hhead hbracketed,
      Authority.port?_of_digits ha (hport digits rfl)]
    exact ⟨rfl, rfl, rfl⟩

/-- An address in brackets with a port, and white space around it in the `Host` line. -/
theorem origin_agrees_address :
    let a : Authority := ⟨"[::1]:8080".toList, by decide, by decide⟩
    let t : Target := ⟨"/a".toList, some "x=1".toList, by decide, by decide⟩
    let r : Request := (Request.new ⟨"GET", by decide⟩ (.origin t)).modify (·.addHeader "host" " [::1]:8080 ")
    let r' : Request := .new ⟨"GET", by decide⟩ (.absolute .http a t)
    Uri.parse "http://[::1]:8080/a?x=1" = .ok r'.uri ∧ Uri.parse "/a?x=1" = .ok r.uri ∧ r.SamePlace r' ∧
      r.host? = some "[::1]" ∧ r.port? = some 8080 ∧ AnswerAlike serverNames r r' := by
  intro a t r r'
  have hbracketed : IsBracketed "[::1]".toList := ⟨"::1".toList, by decide, by decide⟩
  have hport : ArePort (some "8080".toList) := by
    rintro digits ⟨rfl⟩
    exact List.all_eq_true.1 (by decide)
  have hu : Uri.parse ("http://" ++ String.ofList a.text ++ "/a?x=1") = .ok r'.uri := by decide +kernel
  obtain ⟨o, ho, hforms⟩ := origin_agrees a "[::1]".toList (some "8080".toList) "/a?x=1" r'.uri (by decide)
    (.inr hbracketed) hport (by decide) (by decide) hu
  have horigin : Uri.parse "/a?x=1" = .ok r.uri := by decide +kernel
  obtain rfl : r.uri = o := Except.ok.inj (horigin.symm.trans ho)
  have hblank : ∀ c ∈ [' '], isBlank c = true := List.forall_mem_singleton.2 (by decide)
  have hline : r.HasHostLine a := ⟨[' '], [' '], hblank, hblank, by decide +kernel⟩
  obtain ⟨hplace, -, hread, -⟩ := hforms r r' rfl hline rfl
  obtain ⟨hhost, hports, hanswers⟩ := hread (.inl hbracketed)
  refine ⟨by decide +kernel, horigin, hplace, ?_, ?_, hanswers⟩
  · rw [hhost]
    decide +kernel
  · rw [hports]
    decide +kernel

/-- A colon without a port behind it belongs to the host in a `Host` header, but not in a target. -/
theorem origin_emptyPort :
    let r : Request := (Request.new ⟨"GET", by decide⟩
      (.origin ⟨"/".toList, none, by decide, by decide⟩)).modify (·.addHeader "Host" "example.com:")
    let r' : Request := .new ⟨"GET", by decide⟩
      (.absolute .http ⟨"example.com:".toList, by decide, by decide⟩ ⟨"/".toList, none, by decide, by decide⟩)
    Uri.parse "/" = .ok r.uri ∧ Uri.parse "http://example.com:/" = .ok r'.uri ∧ r.url = r'.url ∧
      r.host? = some "example.com:" ∧ r'.host? = some "example.com" := by
  decide +kernel

end Request

end InterceptAddons.Http
