import InterceptAddons.Http.Request
import InterceptAddons.Proofs.Results
import InterceptAddons.Proofs.Text.Split

/-!
# Paths and queries put together

A change of the target writes a path and a query one after the other and reads them back. `parse_append_queryText`
says what is read where the path holds neither `?` nor `#`. Main statement: `setPath_keeps_query`. A new path is taken
as it is and the query is kept exactly if the path holds neither character.
-/

namespace InterceptAddons.Http

open InterceptAddons.Text

/-! ### Characters -/

theorem isPathChar_mark : isPathChar '?' = false := by decide

theorem isPathChar_hash : isPathChar '#' = false := by decide

theorem isQueryChar_hash : isQueryChar '#' = false := by decide

/-! ### Reading -/

namespace Target

/-- A path that starts with `/` consists of path characters. -/
theorem forall_mem_path {t : Target} (h : t.path.head? = some '/') : ∀ c ∈ t.path, isPathChar c = true := by
  have hshape := t.pathShape
  rw [isPathShape, Bool.or_eq_true, Bool.or_eq_true, Bool.and_eq_true] at hshape
  rcases hshape with (hempty | hstar) | ⟨-, hall⟩
  · rw [List.isEmpty_iff.1 hempty] at h
    cases h
  · rw [beq_iff_eq.1 hstar] at h
    cases h
  · exact List.all_eq_true.1 hall

theorem hash_notMem_queryText (t : Target) : '#' ∉ t.queryText := by
  have hchars := t.queryChars
  rw [queryText]
  cases hq : t.query with
  | none => exact List.not_mem_nil
  | some q =>
    rw [hq] at hchars
    have hall : ∀ c ∈ q, isQueryChar c = true := List.all_eq_true.1 hchars
    rw [List.mem_cons, not_or]
    exact ⟨by decide, notMem_of_forall hall isQueryChar_hash⟩

theorem ofParts_eq_ok_iff {path : List Char} {query : Option (List Char)} {t : Target} :
    ofParts path query = .ok t ↔ path = t.path ∧ query = t.query := by
  rw [ofParts]
  constructor
  · intro h
    split at h
    · split at h
      · cases h
        exact ⟨rfl, rfl⟩
      · cases h
    · cases h
  · rintro ⟨rfl, rfl⟩
    rw [dif_pos t.pathShape, dif_pos t.queryChars]

theorem parse_of_slash {cs : List Char} (h : cs.head? = some '/') :
    parse cs =
      if maxUriSize < byteSize cs then .error .tooLong
      else ofParts (split (cs.takeWhile (· != '#'))).1 (split (cs.takeWhile (· != '#'))).2 := by
  cases cs with
  | nil => cases h
  | cons c cs =>
    obtain rfl : c = '/' := Option.some.inj h
    rw [parse.eq_def]
    rfl

theorem split_append_queryText {p : List Char} (h : '?' ∉ p) (t : Target) :
    split (p ++ t.queryText) = (p, t.query) := by
  rw [split, queryText]
  cases t.query with
  | none =>
    rw [List.append_nil, cutFirst_eq_none_iff.2 h]
  | some q =>
    rw [cutFirst_eq_some_iff.2 ⟨rfl, h⟩]

/-- **A path without `?` and `#` stays apart from the query behind it.** -/
theorem parse_append_queryText {p : List Char} (hp : p.head? = some '/') (hmark : '?' ∉ p) (hhash : '#' ∉ p)
    (t : Target) :
    parse (p ++ t.queryText) =
      if maxUriSize < byteSize (p ++ t.queryText) then .error .tooLong else ofParts p t.query := by
  have hhead : (p ++ t.queryText).head? = some '/' := by rw [List.head?_append, hp, Option.some_or]
  have hall : (p ++ t.queryText).takeWhile (· != '#') = p ++ t.queryText := by
    refine takeWhile_of_notMem fun hc => ?_
    rcases List.mem_append.1 hc with hc | hc
    · exact hhash hc
    · exact t.hash_notMem_queryText hc
  rw [parse_of_slash hhead, hall, split_append_queryText hmark]

/-- A target that fits into a URI is read as it is written. -/
theorem parse_written {t : Target} (hpath : t.path.head? = some '/')
    (hsize : byteSize (t.path ++ t.queryText) ≤ maxUriSize) : parse (t.path ++ t.queryText) = .ok t := by
  have hchars := forall_mem_path hpath
  rw [parse_append_queryText hpath (notMem_of_forall hchars isPathChar_mark) (notMem_of_forall hchars isPathChar_hash),
    if_neg (Nat.not_lt.2 hsize)]
  exact ofParts_eq_ok_iff.2 ⟨rfl, rfl⟩

/-- What is read from a text that starts with `/` has a path that starts with `/`. -/
theorem head?_path_of_parse {cs : List Char} {t : Target} (hcs : cs.head? = some '/') (h : parse cs = .ok t) :
    t.path.head? = some '/' := by
  rw [parse_of_slash hcs] at h
  split at h
  · cases h
  · obtain ⟨hpath, -⟩ := ofParts_eq_ok_iff.1 h
    cases cs with
    | nil => cases hcs
    | cons c cs =>
      obtain rfl : c = '/' := Option.some.inj hcs
      have htake : ('/' :: cs).takeWhile (· != '#') = '/' :: cs.takeWhile (· != '#') := rfl
      rw [← hpath, htake, split, cutFirst, if_neg (by decide)]
      cases cutFirst '?' (cs.takeWhile (· != '#')) with
      | none => rfl
      | some parts => rfl

end Target

/-! ### Changing the target -/

namespace Uri

/-- Two request targets with the same scheme and authority. -/
structure SameServer (u v : Uri) : Prop where
  scheme : v.scheme? = u.scheme?
  authority : v.authority? = u.authority?

theorem SameServer.eq {u v : Uri} (h : u.SameServer v) (ht : v.target = u.target) : v = u := by
  obtain ⟨hscheme, hauthority⟩ := h
  cases u <;> cases v <;> simp_all [scheme?, authority?, target]

theorem withTarget_eq_ok {u v : Uri} {t : Target} (h : u.withTarget t = .ok v) : u.SameServer v ∧ v.target = t := by
  cases u with
  | origin _ =>
    cases h
    exact ⟨⟨rfl, rfl⟩, rfl⟩
  | absolute _ _ _ =>
    cases h
    exact ⟨⟨rfl, rfl⟩, rfl⟩
  | bare _ => cases h

theorem exists_withTarget {u : Uri} (h : ∀ a, u ≠ .bare a) (t : Target) : ∃ v, u.withTarget t = .ok v := by
  cases u with
  | bare a => exact absurd rfl (h a)
  | origin _ => exact ⟨_, rfl⟩
  | absolute _ _ _ => exact ⟨_, rfl⟩

theorem path_of_slash {u : Uri} (h : u.target.path.head? = some '/') : u.path = u.target.path := by
  have hne : u.target.path.isEmpty = false := by
    cases hp : u.target.path with
    | nil =>
      rw [hp] at h
      cases h
    | cons c cs => rfl
  rw [path, Target.isEmpty, hne]
  rfl

end Uri

namespace Request

/-- The request with another target at the same server, and otherwise as it was. -/
structure Retargeted (r : Request) (t : Target) (r' : Request) : Prop where
  target : r'.uri.target = t
  server : r.uri.SameServer r'.uri
  rest : r' = { r with uri := r'.uri }

theorem retargeted_of_setTarget {r r' : Request} {text : List Char} (h : r.setTarget text = .ok r') :
    (∀ a, r.uri ≠ .bare a) ∧ ∃ t, Target.parse text = .ok t ∧ r.Retargeted t r' := by
  rw [setTarget] at h
  cases ht : Target.parse text with
  | error e =>
    rw [ht] at h
    cases h
  | ok t =>
    rw [ht] at h
    obtain ⟨u, hu, rfl⟩ := map_eq_ok h
    obtain ⟨hserver, htarget⟩ := Uri.withTarget_eq_ok hu
    refine ⟨fun a ha => ?_, t, rfl, htarget, hserver, rfl⟩
    rw [ha] at hu
    cases hu

theorem exists_setTarget {r : Request} {text : List Char} {t : Target} (hbare : ∀ a, r.uri ≠ .bare a)
    (ht : Target.parse text = .ok t) : ∃ r', r.setTarget text = .ok r' ∧ r.Retargeted t r' := by
  obtain ⟨u, hu⟩ := Uri.exists_withTarget hbare t
  obtain ⟨hserver, htarget⟩ := Uri.withTarget_eq_ok hu
  refine ⟨r.setUri u, ?_, htarget, hserver, rfl⟩
  rw [setTarget, ht]
  show (r.uri.withTarget t).map r.setUri = _
  rw [hu]
  rfl

theorem Retargeted.path_eq {r r' : Request} {t : Target} (h : r.Retargeted t r') (hpath : t.path.head? = some '/') :
    r'.uri.path = t.path := by
  rw [Uri.path_of_slash (by rw [h.target]; exact hpath), h.target]

theorem Retargeted.query?_eq {r r' : Request} {t : Target} (h : r.Retargeted t r') : r'.uri.query? = t.query := by
  rw [Uri.query?, h.target]

/-- A target that is there already may be set again. -/
theorem Retargeted.setTarget_self {r r' : Request} {t : Target} {text : List Char} (h : r.Retargeted t r')
    (hbare : ∀ a, r'.uri ≠ .bare a) (ht : Target.parse text = .ok t) : r'.setTarget text = .ok r' := by
  obtain ⟨r'', hr'', hagain⟩ := exists_setTarget hbare ht
  have huri : r''.uri = r'.uri := hagain.server.eq (hagain.target.trans h.target.symm)
  rw [hr'', hagain.rest, huri]

/-! ### A new path -/

theorem path_eq_iff {r : Request} {p : String} : r.path = p ↔ r.uri.path = p.toList := by
  rw [path, ← String.toList_inj, String.toList_ofList]

/-- The path comes out as it was given, with the query behind it as before, unless it holds `?` or `#`. -/
theorem path_setPath_iff {r r' : Request} {p : String} (hp : p.toList.head? = some '/') (h : r.setPath p = .ok r') :
    r'.path = p ∧ r'.query? = r.query? ↔ '?' ∉ p.toList ∧ '#' ∉ p.toList := by
  obtain ⟨-, t, ht, hr'⟩ := retargeted_of_setTarget h
  have hhead : t.path.head? = some '/' := by
    refine Target.head?_path_of_parse ?_ ht
    rw [List.head?_append, hp, Option.some_or]
  rw [path_eq_iff, hr'.path_eq hhead]
  constructor
  · rintro ⟨hpath, -⟩
    have hchars := Target.forall_mem_path hhead
    rw [hpath] at hchars
    exact ⟨notMem_of_forall hchars isPathChar_mark, notMem_of_forall hchars isPathChar_hash⟩
  · rintro ⟨hmark, hhash⟩
    rw [Target.parse_append_queryText hp hmark hhash] at ht
    split at ht
    · cases ht
    · obtain ⟨htp, htq⟩ := Target.ofParts_eq_ok_iff.1 ht
      refine ⟨htp.symm, ?_⟩
      rw [query?, query?, hr'.query?_eq, ← htq]
      rfl

theorem exists_setPath_iff {r : Request} {p : String} (hp : p.toList.head? = some '/') (hmark : '?' ∉ p.toList)
    (hhash : '#' ∉ p.toList) :
    (∃ r', r.setPath p = .ok r') ↔
      (∀ c ∈ p.toList, isPathChar c = true) ∧
      byteSize (p.toList ++ r.uri.target.queryText) ≤ maxUriSize ∧ ∀ a, r.uri ≠ .bare a := by
  have hparse := Target.parse_append_queryText hp hmark hhash r.uri.target
  constructor
  · rintro ⟨r', h⟩
    obtain ⟨hbare, t, ht, -⟩ := retargeted_of_setTarget h
    rw [hparse] at ht
    split at ht
    · cases ht
    · next hsize =>
      obtain ⟨htp, -⟩ := Target.ofParts_eq_ok_iff.1 ht
      rw [htp] at hp ⊢
      exact ⟨Target.forall_mem_path hp, htp ▸ Nat.not_lt.1 hsize, hbare⟩
  · rintro ⟨hchars, hsize, hbare⟩
    have hshape : isPathShape p.toList = true := by
      rw [isPathShape, hp, List.all_eq_true.2 hchars, BEq.rfl, Bool.and_self, Bool.or_true]
    have ht : Target.parse (p.toList ++ r.uri.target.queryText) =
        .ok ⟨p.toList, r.uri.target.query, hshape, r.uri.target.queryChars⟩ := by
      rw [hparse, if_neg (Nat.not_lt.2 hsize)]
      exact Target.ofParts_eq_ok_iff.2 ⟨rfl, rfl⟩
    obtain ⟨r', hr', -⟩ := exists_setTarget hbare ht
    exact ⟨r', hr'⟩

/-- **A new path keeps the query.** Where a path holds neither `?` nor `#`, it is taken as it is and the query is kept;
where it holds one of them, path and query do not both come out so. Nothing but path and query changes, and a path
without them is refused exactly if some other character may not stand in a path, if it gets too long with its query, or
if the target has no path at all. -/
theorem setPath_keeps_query (r : Request) (p : String) (hp : p.toList.head? = some '/') :
    (∀ r', r.setPath p = .ok r' →
      (r'.path = p ∧ r'.query? = r.query? ↔ '?' ∉ p.toList ∧ '#' ∉ p.toList) ∧
      r.uri.SameServer r'.uri ∧ r' = { r with uri := r'.uri }) ∧
    ('?' ∉ p.toList → '#' ∉ p.toList →
      ((∃ r', r.setPath p = .ok r') ↔
        (∀ c ∈ p.toList, isPathChar c = true) ∧
        byteSize (p.toList ++ r.uri.target.queryText) ≤ maxUriSize ∧ ∀ a, r.uri ≠ .bare a)) := by
  refine ⟨fun r' h => ⟨path_setPath_iff hp h, ?_⟩, exists_setPath_iff hp⟩
  obtain ⟨-, t, -, hr'⟩ := retargeted_of_setTarget h
  exact ⟨hr'.server, hr'.rest⟩

/-- A path with an escape and a character beyond ASCII in place of another one. -/
theorem setPath_keeps_query_escaped :
    let r : Request := .new ⟨"GET", by decide⟩ (.origin ⟨"/old".toList, some "x=1".toList, by decide, by decide⟩)
    "/é%20".toList.head? = some '/' ∧
      ∃ r', r.setPath "/é%20" = .ok r' ∧ r'.path = "/é%20" ∧ r'.query? = some "x=1" := by
  intro r
  have hp : "/é%20".toList.head? = some '/' := by decide
  obtain ⟨hkeeps, hexists⟩ := setPath_keeps_query r "/é%20" hp
  have hplain : '?' ∉ "/é%20".toList ∧ '#' ∉ "/é%20".toList := by decide
  obtain ⟨r', hr'⟩ := (hexists hplain.1 hplain.2).2
    ⟨List.all_eq_true.1 (by decide), by decide +kernel, fun _ h => by cases h⟩
  obtain ⟨hpath, hquery⟩ := (hkeeps r' hr').1.2 hplain
  exact ⟨hp, r', hr', hpath, hquery⟩

/-- What follows `#` in a new path is lost, and the query with it. -/
theorem setPath_fragment :
    let r : Request := .new ⟨"GET", by decide⟩ (.origin ⟨"/old".toList, some "x=1".toList, by decide, by decide⟩)
    let r' : Request := .new ⟨"GET", by decide⟩ (.origin ⟨"/a".toList, none, by decide, by decide⟩)
    r.setPath "/a#b" = .ok r' ∧ r.query? = some "x=1" ∧ r'.query? = none ∧ r'.path = "/a" := by
  decide +kernel

end Request

end InterceptAddons.Http
