import InterceptAddons.Proofs.Http.Component
import InterceptAddons.Proofs.Http.Target

/-!
# Setting a query parameter

`ReplacesPair` says what becomes of the pairs of a query: one pair stands in the place of the first of its name, the
others of that name go, and the rest stays. Main statement: `setQueryParam_replaces`. Every target with a path takes a
query parameter, which is read back, and all that is not in its pairs stays as it was.
-/

namespace InterceptAddons.Http

open InterceptAddons.Text

/-! ### One pair for a name -/

/-- The pairs `new` come from `old` by giving the name `key` one pair: in the place of the first pair of that name, with
the later ones dropped, or at the end if there is none. -/
inductive ReplacesPair (key pair : List Char) : List (List Char) → List (List Char) → Prop
  | first (front : List (List Char)) (p : List Char) (back : List (List Char))
    (hfront : ∀ q ∈ front, pairName q ≠ key) (hp : pairName p = key) :
    ReplacesPair key pair (front ++ p :: back) (front ++ pair :: back.filter (pairName · != key))
  | absent (old : List (List Char)) (hold : ∀ q ∈ old, pairName q ≠ key) : ReplacesPair key pair old (old ++ [pair])

theorem replacePair_of_first {key : String} {pair p : List Char} {front : List (List Char)}
    (hfront : ∀ q ∈ front, pairName q ≠ key.toList) (hp : pairName p = key.toList) (back : List (List Char)) :
    Request.replacePair key pair (front ++ p :: back) = front ++ pair :: back.filter (pairName · != key.toList) := by
  induction front with
  | nil => exact if_pos (beq_iff_eq.2 hp)
  | cons q front ih =>
    have hq : ¬(pairName q == key.toList) = true := mt beq_iff_eq.1 (hfront q List.mem_cons_self)
    have hrest := ih fun q hq => hfront q (List.mem_cons_of_mem _ hq)
    rw [List.cons_append, List.cons_append, ← hrest]
    exact if_neg hq

theorem replacePair_of_absent {key : String} {pair : List Char} {old : List (List Char)}
    (hold : ∀ q ∈ old, pairName q ≠ key.toList) : Request.replacePair key pair old = old ++ [pair] := by
  induction old with
  | nil => rfl
  | cons q old ih =>
    have hq : ¬(pairName q == key.toList) = true := mt beq_iff_eq.1 (hold q List.mem_cons_self)
    rw [List.cons_append, ← ih fun q hq => hold q (List.mem_cons_of_mem _ hq)]
    exact if_neg hq

/-- The first pair of a name, if there is one. -/
theorem exists_first_pair (key : List Char) (old : List (List Char)) :
    (∀ q ∈ old, pairName q ≠ key) ∨
      ∃ front p back, old = front ++ p :: back ∧ (∀ q ∈ front, pairName q ≠ key) ∧ pairName p = key := by
  by_cases h : ∀ q ∈ old, pairName q ≠ key
  · exact .inl h
  · obtain ⟨q, hq, hname⟩ : ∃ q ∈ old, pairName q = key := by simpa using h
    have hsome : (old.find? (pairName · == key)).isSome = true := List.find?_isSome.2 ⟨q, hq, beq_iff_eq.2 hname⟩
    obtain ⟨p, hfind⟩ := Option.isSome_iff_exists.1 hsome
    obtain ⟨hp, front, back, hold, hfront⟩ := List.find?_eq_some_iff_append.1 hfind
    exact .inr ⟨front, p, back, hold, fun q hq => by simpa using hfront q hq, beq_iff_eq.1 hp⟩

theorem replacePair_replaces (key : String) (pair : List Char) (old : List (List Char)) :
    ReplacesPair key.toList pair old (Request.replacePair key pair old) := by
  rcases exists_first_pair key.toList old with hold | ⟨front, p, back, rfl, hfront, hp⟩
  · rw [replacePair_of_absent hold]
    exact .absent old hold
  · rw [replacePair_of_first hfront hp]
    exact .first front p back hfront hp

namespace ReplacesPair

variable {key pair : List Char} {old new : List (List Char)}

theorem filter_of_absent {l : List (List Char)} (h : ∀ q ∈ l, pairName q ≠ key) :
    l.filter (pairName · == key) = [] ∧ l.filter (pairName · != key) = l := by
  rw [List.filter_eq_nil_iff, List.filter_eq_self]
  exact ⟨fun q hq => mt beq_iff_eq.1 (h q hq), fun q hq => bne_iff_ne.2 (h q hq)⟩

theorem absent_of_filter (l : List (List Char)) : ∀ q ∈ l.filter (pairName · != key), pairName q ≠ key :=
  fun _ hq => bne_iff_ne.1 (List.mem_filter.1 hq).2

/-- Just one pair has the name. -/
theorem filter_self (h : ReplacesPair key pair old new) (hpair : pairName pair = key) :
    new.filter (pairName · == key) = [pair] := by
  have hbeq : (pairName pair == key) = true := beq_iff_eq.2 hpair
  cases h with
  | first front p back hfront hp =>
    rw [List.filter_append, (filter_of_absent hfront).1, List.filter_cons, if_pos hbeq,
      (filter_of_absent (absent_of_filter back)).1, List.nil_append]
  | absent _ hold =>
    rw [List.filter_append, (filter_of_absent hold).1, List.filter_cons, if_pos hbeq, List.filter_nil, List.nil_append]

/-- The pairs of other names are as they were. -/
theorem filter_others (h : ReplacesPair key pair old new) (hpair : pairName pair = key) :
    new.filter (pairName · != key) = old.filter (pairName · != key) := by
  have hbne : ∀ {q}, pairName q = key → ¬(pairName q != key) = true := fun hq => by simp [hq]
  cases h with
  | first front p back hfront hp =>
    rw [List.filter_append, List.filter_append, List.filter_cons, if_neg (hbne hpair), List.filter_cons,
      if_neg (hbne hp), (filter_of_absent (absent_of_filter back)).2]
  | absent _ hold =>
    rw [List.filter_append, List.filter_cons, if_neg (hbne hpair), List.filter_nil, List.append_nil]

/-- Only one list comes from the replacement. -/
theorem eq_replacePair {key : String} (h : ReplacesPair key.toList pair old new) :
    new = Request.replacePair key pair old := by
  cases h with
  | first front p back hfront hp => exact (replacePair_of_first hfront hp back).symm
  | absent _ hold => exact (replacePair_of_absent hold).symm

/-- Once a name has its pair, the pair replaces itself. -/
theorem replacePair_eq {key : String} (h : ReplacesPair key.toList pair old new) (hpair : pairName pair = key.toList) :
    Request.replacePair key pair new = new := by
  cases h with
  | first front p back hfront hp =>
    rw [replacePair_of_first hfront hpair, (filter_of_absent (absent_of_filter back)).2]
  | absent _ hold =>
    rw [replacePair_of_first hold hpair, List.filter_nil]

theorem find?_self (h : ReplacesPair key pair old new) (hpair : pairName pair = key) :
    new.find? (pairName · == key) = some pair := by
  rw [← List.head?_filter, h.filter_self hpair, List.head?_cons]

theorem find?_of_ne (h : ReplacesPair key pair old new) (hpair : pairName pair = key) {name : List Char}
    (hname : name ≠ key) : new.find? (pairName · == name) = old.find? (pairName · == name) := by
  -- a pair of another name is found among the pairs that do not have the name `key`
  have hothers (l : List (List Char)) :
      (l.filter (pairName · != key)).find? (pairName · == name) = l.find? (pairName · == name) := by
    rw [List.find?_filter]
    congr 1
    funext q
    by_cases hq : pairName q = name
    · simp [hq, hname]
    · simp [hq]
  rw [← hothers new, h.filter_others hpair, hothers old]

/-- All pairs stand where they stood, or else it is the new one. -/
theorem mem_of_mem (h : ReplacesPair key pair old new) {q : List Char} (hq : q ∈ new) : q = pair ∨ q ∈ old := by
  cases h with
  | first front p back hfront hp =>
    rcases List.mem_append.1 hq with hq | hq
    · exact .inr (List.mem_append_left _ hq)
    · rcases List.mem_cons.1 hq with rfl | hq
      · exact .inl rfl
      · exact .inr (List.mem_append_right _ (List.mem_cons_of_mem _ (List.mem_filter.1 hq).1))
  | absent _ hold =>
    rcases List.mem_append.1 hq with hq | hq
    · exact .inr hq
    · exact .inl (List.mem_singleton.1 hq)

end ReplacesPair

/-! ### The written pair -/

theorem equals_notMem_encodeComponent (cs : List Char) : '=' ∉ encodeComponent cs := fun h =>
  (of_mem_encodeComponent h).2.2 rfl

theorem pairParts_writtenPair (key value : String) :
    pairParts (Request.writtenPair key value) = (encodeComponent key.toList, encodeComponent value.toList) :=
  pairParts_eq (equals_notMem_encodeComponent _) _

theorem pairName_writtenPair (key value : String) : pairName (Request.writtenPair key value) = key.toList := by
  rw [pairName, pairParts_writtenPair, decodeComponent_encodeComponent]

theorem pairValue_writtenPair (key value : String) : pairValue (Request.writtenPair key value) = value.toList := by
  rw [pairValue, pairParts_writtenPair, decodeComponent_encodeComponent]

/-- A written pair may stand in a query, in one piece. -/
theorem of_mem_writtenPair (key value : String) :
    ∀ c ∈ Request.writtenPair key value, isQueryChar c = true ∧ c ≠ '&' := by
  have hcomponent (cs : List Char) : ∀ c ∈ encodeComponent cs, isQueryChar c = true ∧ c ≠ '&' := fun c hc =>
    ⟨(of_mem_encodeComponent hc).1, (of_mem_encodeComponent hc).2.1⟩
  exact List.forall_mem_append.2 ⟨hcomponent _, List.forall_mem_cons.2 ⟨by decide, hcomponent _⟩⟩

/-! ### Requests -/

/-- A target that has a path: a path at the server that is asked, or all of scheme, authority and path, unless it stands
for the whole server. -/
inductive Uri.TakesQuery : Uri → Prop
  | origin (t : Target) (ht : t.path.head? = some '/') : TakesQuery (.origin t)
  | absolute (s : Scheme) (a : Authority) (t : Target) (ht : t.path ≠ ['*']) : TakesQuery (.absolute s a t)

theorem Uri.TakesQuery.ne_bare {u : Uri} (h : u.TakesQuery) : ∀ a, u ≠ .bare a := by
  rintro a rfl
  cases h

theorem Uri.TakesQuery.path_shape {u : Uri} (h : u.TakesQuery) :
    u.path.head? = some '/' ∧ ∀ c ∈ u.path, isPathChar c = true := by
  have hslash {t : Target} (ht : t.path.head? = some '/') (hu : u.target = t) :
      u.path.head? = some '/' ∧ ∀ c ∈ u.path, isPathChar c = true := by
    rw [Uri.path_of_slash (hu.symm ▸ ht), hu]
    exact ⟨ht, Target.forall_mem_path ht⟩
  cases h with
  | origin t ht => exact hslash ht rfl
  | absolute s a t ht =>
    have hshape := t.pathShape
    rw [isPathShape, Bool.or_eq_true, Bool.or_eq_true, Bool.and_eq_true] at hshape
    rcases hshape with (hempty | hstar) | ⟨hhead, -⟩
    · -- without a path it is the root
      have hroot : (Uri.absolute s a t).path = ['/'] := by
        rw [Uri.path, Uri.target, hempty, Uri.scheme?, Option.isNone_some, Bool.and_false]
        rfl
      rw [hroot]
      exact ⟨rfl, List.forall_mem_singleton.2 (by decide)⟩
    · exact absurd (beq_iff_eq.1 hstar) ht
    · exact hslash (beq_iff_eq.1 hhead) rfl

namespace Request

def pairs (r : Request) : List (List Char) := pairsOf (r.uri.query?.getD [])

theorem queryParam?_eq (r : Request) (name : String) :
    r.queryParam? name = ((r.pairs.find? (pairName · == name.toList)).map pairValue).map String.ofList := by
  rw [queryParam?, pairs]
  cases r.uri.query? with
  | none => rfl
  | some q => rw [Option.bind_some, Option.getD_some, findPair_eq]

theorem of_mem_pairs {r : Request} {p : List Char} (hp : p ∈ r.pairs) :
    p ≠ [] ∧ ∀ c ∈ p, isQueryChar c = true ∧ c ≠ '&' := by
  obtain ⟨hne, hchars⟩ := of_mem_pairsOf hp
  refine ⟨hne, fun c hc => ⟨?_, (hchars c hc).1⟩⟩
  have hquery := r.uri.target.queryChars
  have hmem : c ∈ r.uri.target.query.getD [] := (hchars c hc).2
  cases hq : r.uri.target.query with
  | none =>
    rw [hq] at hmem
    cases hmem
  | some q =>
    rw [hq] at hmem hquery
    exact List.all_eq_true.1 hquery c hmem

/-- The pairs after a replacement may stand in a query, each in one piece. -/
theorem of_mem_replaced {r : Request} {key value : String} {new : List (List Char)}
    (h : ReplacesPair key.toList (writtenPair key value) r.pairs new) {p : List Char} (hp : p ∈ new) :
    p ≠ [] ∧ ∀ c ∈ p, isQueryChar c = true ∧ c ≠ '&' := by
  rcases h.mem_of_mem hp with rfl | hp
  · refine ⟨?_, of_mem_writtenPair key value⟩
    rw [writtenPair]
    exact List.append_ne_nil_of_right_ne_nil _ (List.cons_ne_nil _ _)
  · exact of_mem_pairs hp

/-- The new pairs behind the path are read as a target. -/
theorem exists_target_of_replaced {r : Request} {key value : String} {new : List (List Char)} (hr : r.uri.TakesQuery)
    (hnew : ReplacesPair key.toList (writtenPair key value) r.pairs new)
    (hsize : byteSize (r.uri.path ++ '?' :: List.intercalate ['&'] new) ≤ maxUriSize) :
    ∃ t : Target, t.path = r.uri.path ∧ t.query = some (List.intercalate ['&'] new) ∧
      Target.parse (r.uri.path ++ '?' :: List.intercalate ['&'] new) = .ok t := by
  obtain ⟨hpath, hchars⟩ := hr.path_shape
  have hshape : isPathShape r.uri.path = true := by
    rw [isPathShape, hpath, List.all_eq_true.2 hchars, BEq.rfl, Bool.and_self, Bool.or_true]
  have hquery : ∀ c ∈ List.intercalate ['&'] new, isQueryChar c = true :=
    forall_mem_intercalate (by decide) fun p hp c hc => ((of_mem_replaced hnew hp).2 c hc).1
  let t : Target := ⟨r.uri.path, some (List.intercalate ['&'] new), hshape, List.all_eq_true.2 hquery⟩
  exact ⟨t, rfl, rfl, Target.parse_written (t := t) hpath hsize⟩

theorem pairsOf_replaced {r : Request} {key value : String} {new : List (List Char)}
    (hnew : ReplacesPair key.toList (writtenPair key value) r.pairs new) :
    pairsOf (List.intercalate ['&'] new) = new :=
  pairsOf_intercalate fun _ hp =>
    ⟨(of_mem_replaced hnew hp).1, fun hc => ((of_mem_replaced hnew hp).2 _ hc).2 rfl⟩

/-- **A query parameter is set.** Every target with a path takes it as long as the result is no longer than a URI may
be. The parameter then has the value and every other one the value that it had. The new query consists of the old pairs,
with one pair for the parameter in the place of its first one. Scheme, authority, path and all that is not the target
stay as they were, and the same change once more changes nothing. -/
theorem setQueryParam_replaces (r : Request) (key value : String) (hr : r.uri.TakesQuery)
    (hsize : ∀ new, ReplacesPair key.toList (writtenPair key value) r.pairs new →
      byteSize (r.uri.path ++ '?' :: List.intercalate ['&'] new) ≤ maxUriSize) :
    ∃ r' new, r.setQueryParam key value = .ok r' ∧
      r'.queryParam? key = some value ∧
      (∀ name, name ≠ key → r'.queryParam? name = r.queryParam? name) ∧
      r'.query? = some (String.ofList (List.intercalate ['&'] new)) ∧ r'.pairs = new ∧
      ReplacesPair key.toList (writtenPair key value) r.pairs new ∧
      new.filter (pairName · == key.toList) = [writtenPair key value] ∧
      new.filter (pairName · != key.toList) = r.pairs.filter (pairName · != key.toList) ∧
      r'.path = r.path ∧ r.uri.SameServer r'.uri ∧ r' = { r with uri := r'.uri } ∧
      r'.setQueryParam key value = .ok r' := by
  have hnew := replacePair_replaces key (writtenPair key value) r.pairs
  have hset : r.setQueryParam key value =
      r.setTarget (r.uri.path ++ '?' :: List.intercalate ['&'] (replacePair key (writtenPair key value) r.pairs)) := rfl
  generalize replacePair key (writtenPair key value) r.pairs = new at hnew hset
  have hname := pairName_writtenPair key value
  obtain ⟨t, htpath, htquery, hparse⟩ := exists_target_of_replaced hr hnew (hsize new hnew)
  obtain ⟨r', hr', hretargeted⟩ := exists_setTarget hr.ne_bare hparse
  have hpath : r'.uri.path = r.uri.path := by
    rw [hretargeted.path_eq (htpath ▸ hr.path_shape.1), htpath]
  have hquery : r'.uri.query? = some (List.intercalate ['&'] new) := hretargeted.query?_eq.trans htquery
  have hpairs : r'.pairs = new := by
    rw [pairs, hquery]
    exact pairsOf_replaced hnew
  refine ⟨r', new, hset.trans hr', ?_, ?_, ?_, hpairs, hnew, hnew.filter_self hname, hnew.filter_others hname, ?_,
    hretargeted.server, hretargeted.rest, ?_⟩
  · rw [queryParam?_eq, hpairs, hnew.find?_self hname, Option.map_some, pairValue_writtenPair, Option.map_some,
      String.ofList_toList]
  · intro name hne
    rw [queryParam?_eq, queryParam?_eq, hpairs, hnew.find?_of_ne hname (mt String.toList_inj.1 hne)]
  · rw [query?, hquery, Option.map_some]
  · rw [path, path, hpath]
  · -- the pair replaces itself, so the same text is read again
    have hagain : r'.setQueryParam key value = r'.setTarget (r.uri.path ++ '?' :: List.intercalate ['&'] new) := by
      have hself := hnew.replacePair_eq hname
      rw [← hpairs, pairs] at hself
      rw [setQueryParam, hself, ← pairs, hpairs, hpath]
    have hbare : ∀ a, r'.uri ≠ .bare a := by
      rintro a ha
      rw [ha] at hquery
      cases hquery
    rw [hagain]
    exact hretargeted.setTarget_self hbare hparse

/-- A parameter that stands twice, with an escaped one between and an empty pair. -/
theorem setQueryParam_replaces_repeated :
    let r : Request := .new ⟨"GET", by decide⟩
      (.origin ⟨"/s".toList, some "q=1&%71x=%20&&q".toList, by decide, by decide⟩)
    r.uri.TakesQuery ∧ ∃ r', r.setQueryParam "q" "x y" = .ok r' ∧ r'.query? = some "q=x%20y&%71x=%20" ∧
      r'.queryParam? "q" = some "x y" := by
  intro r
  have hr : r.uri.TakesQuery := .origin _ rfl
  have hnew : replacePair "q" (writtenPair "q" "x y") r.pairs = ["q=x%20y".toList, "%71x=%20".toList] := by
    decide +kernel
  obtain ⟨r', new, hset, hvalue, -, hquery, -, hreplaces, -⟩ := setQueryParam_replaces r "q" "x y" hr fun new h => by
    rw [h.eq_replacePair, hnew]
    decide +kernel
  refine ⟨hr, r', hset, ?_, hvalue⟩
  rw [hquery, hreplaces.eq_replacePair, hnew]
  decide +kernel

/-- A request to a whole server has scheme and authority and yet takes no parameter. -/
theorem setQueryParam_wholeServer :
    let r : Request := .new ⟨"GET", by decide⟩ (.absolute .https ⟨"h".toList, by decide, by decide⟩ .asterisk)
    (Request.ofUrl ⟨"GET", by decide⟩ "https://h").bind (·.setPath "*") = .ok r ∧
      (∀ new, ReplacesPair "k".toList (writtenPair "k" "v") r.pairs new →
        byteSize (r.uri.path ++ '?' :: List.intercalate ['&'] new) ≤ maxUriSize) ∧
      r.setQueryParam "k" "v" = .error .missingSlash := by
  intro r
  refine ⟨by decide +kernel, fun new h => ?_, by decide +kernel⟩
  rw [h.eq_replacePair]
  decide +kernel

end Request

end InterceptAddons.Http
