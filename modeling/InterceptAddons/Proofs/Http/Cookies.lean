import InterceptAddons.Proofs.Http.Headers
import InterceptAddons.Proofs.Text.Characters
import InterceptAddons.Proofs.Text.Split
import InterceptAddons.Http.Response
import Mathlib.Data.List.Forall2

/-!
# Cookies

`CookieLine` gives the values of header lines by which cookies are sent, `SetCookieLine` those by which one is set,
each with the cookies that it holds; `Carries` gathers them from all header lines of a name. Main statement:
`cookie?_carried`. The value of a cookie is that of the first one with the name, over all lines in order.
-/

namespace InterceptAddons.Http

open InterceptAddons.Text

/-! ### Lines -/

/-- An item of a line, with white space around it, and the cookie that it holds: a name and a value with `=` between
them, or none without that sign. -/
inductive CookieItem : List Char → List (String × String) → Prop
  | pair {before after : List Char} {name value : String} (hb : ∀ c ∈ before, isBlank c = true)
    (ha : ∀ c ∈ after, isBlank c = true) (hname : Trimmed name.toList) (hvalue : Trimmed value.toList)
    (hsign : '=' ∉ name.toList) (hn : ';' ∉ name.toList) (hv : ';' ∉ value.toList) :
    CookieItem (before ++ (name.toList ++ '=' :: value.toList) ++ after) [(name, value)]
  | other {text : List Char} (hsign : '=' ∉ text) (h : ';' ∉ text) : CookieItem text []

/-- A line of items with `;` between them. -/
inductive CookieLine : List Char → List (String × String) → Prop
  | single {w : List Char} {ps : List (String × String)} (h : CookieItem w ps) : CookieLine w ps
  | cons {w rest : List Char} {ps qs : List (String × String)} (h : CookieItem w ps) (hrest : CookieLine rest qs) :
    CookieLine (w ++ ';' :: rest) (ps ++ qs)

/-- A line of one item, behind which attributes of any kind may follow. -/
inductive SetCookieLine : List Char → List (String × String) → Prop
  | single {w : List Char} {ps : List (String × String)} (h : CookieItem w ps) : SetCookieLine w ps
  | attributes {w : List Char} {ps : List (String × String)} (h : CookieItem w ps) (rest : List Char) :
    SetCookieLine (w ++ ';' :: rest) ps

/-- Header lines, each line of the name being one of `line`, with all that these hold. -/
inductive Carries (name : String) (line : List Char → List (String × String) → Prop) :
    List Header → List (String × String) → Prop
  | nil : Carries name line [] []
  | named {h : Header} {hs : List Header} {ps qs : List (String × String)} (hname : h.name.toLower = name.toLower)
    (hl : line h.value.toList ps) (hhs : Carries name line hs qs) : Carries name line (h :: hs) (ps ++ qs)
  | other {h : Header} {hs : List Header} {qs : List (String × String)} (hname : h.name.toLower ≠ name.toLower)
    (hhs : Carries name line hs qs) : Carries name line (h :: hs) qs

def firstValue (pairs : List (String × String)) (name : String) : Option String :=
  (pairs.find? (·.1 = name)).map Prod.snd

/-! ### Items -/

/-- The cookie that an item holds is read from it. -/
theorem CookieItem.cookieParts_eq {w : List Char} {ps : List (String × String)} (h : CookieItem w ps) :
    (cookieParts w).toList = ps.map fun p => (p.1.toList, p.2.toList) := by
  cases h with
  | @pair before after name value hb ha hname hvalue hsign hn hv =>
    have hitem : Trimmed (name.toList ++ '=' :: value.toList) := by
      constructor
      · cases hcase : name.toList with
        | nil => simp [show isBlank '=' = false by decide]
        | cons c cs => simpa [hcase] using hname.head
      · cases hcase : value.toList with
        | nil => simp [show isBlank '=' = false by decide]
        | cons c cs => simpa [hcase, List.getLast?_append] using hvalue.last
    rw [cookieParts, hitem.trim_append hb ha, cutFirst_eq_some_iff.2 ⟨rfl, hsign⟩]
    simp [hname.trim_eq, hvalue.trim_eq]
  | other hsign h =>
    rw [cookieParts, cutFirst_eq_none_iff.2 fun hmem => hsign (mem_of_mem_trim hmem)]
    rfl

theorem CookieItem.notMem {w : List Char} {ps : List (String × String)} (h : CookieItem w ps) : ';' ∉ w := by
  cases h with
  | @pair before after name value hb ha hname hvalue hsign hn hv =>
    have hblank {l : List Char} (hl : ∀ c ∈ l, isBlank c = true) : ';' ∉ l := notMem_of_forall hl (by decide)
    simp [hblank hb, hblank ha, hn, hv]
  | other hsign h => exact h

/-- Among items, the first cookie with a name is found. -/
theorem findCookie_eq {ws : List (List Char)} {pss : List (List (String × String))}
    (h : List.Forall₂ CookieItem ws pss) (name : String) : findCookie ws name = firstValue pss.flatten name := by
  have hparts : ws.filterMap cookieParts = pss.flatten.map fun p => (p.1.toList, p.2.toList) := by
    induction h with
    | nil => rfl
    | @cons w ps ws pss hw h ih =>
      rw [List.flatten_cons, List.map_append, ← ih, ← hw.cookieParts_eq, List.filterMap_cons]
      cases cookieParts w <;> rfl
  rw [findCookie, hparts, firstValue, List.find?_map, Option.map_map]
  have hname : (fun p : List Char × List Char => p.1 == name.toList) ∘
      (fun p : String × String => (p.1.toList, p.2.toList)) = fun p => decide (p.1 = name) := by
    funext p
    simp [Bool.beq_eq_decide_eq, String.toList_inj]
  rw [hname]
  congr 1
  funext p
  exact String.ofList_toList

/-! ### Lines -/

/-- The pieces of a line are its items. -/
theorem CookieLine.pieces {line : List Char} {ps : List (String × String)} (h : CookieLine line ps) :
    ∃ pss, List.Forall₂ CookieItem (splitOn ';' line) pss ∧ pss.flatten = ps := by
  induction h with
  | single h =>
    rw [splitOn_of_notMem h.notMem]
    exact ⟨[_], .cons h .nil, List.flatten_singleton⟩
  | cons h _ ih =>
    obtain ⟨pss, hpss, rfl⟩ := ih
    rw [splitOn_append h.notMem]
    exact ⟨_ :: pss, .cons h hpss, List.flatten_cons⟩

/-- The first piece of a line is its item. -/
theorem SetCookieLine.piece {line : List Char} {ps : List (String × String)} (h : SetCookieLine line ps) :
    CookieItem (line.takeWhile (· != ';')) ps := by
  cases h with
  | single h => rwa [takeWhile_of_notMem h.notMem]
  | attributes h rest => rwa [takeWhile_append_of_notMem h.notMem]

/-- The values of the lines of a name, each with what it holds. -/
theorem Carries.getAll {name : String} {line : List Char → List (String × String) → Prop} {lines : List Header}
    {ps : List (String × String)} (h : Carries name line lines ps) :
    ∃ pss, List.Forall₂ (fun value ps => line value.toList ps) (Headers.getAll ⟨lines⟩ name) pss ∧
      pss.flatten = ps := by
  induction h with
  | nil => exact ⟨[], .nil, rfl⟩
  | @named h lines ps qs hname hl _ ih =>
    obtain ⟨pss, hpss, rfl⟩ := ih
    refine ⟨ps :: pss, ?_, List.flatten_cons⟩
    have hgetAll : Headers.getAll ⟨h :: lines⟩ name = h.value :: Headers.getAll ⟨lines⟩ name :=
      congrArg (List.map Header.value) (List.filter_cons_of_pos (Header.isNamed_iff.2 hname))
    rw [hgetAll]
    exact .cons hl hpss
  | @other h lines qs hname _ ih =>
    obtain ⟨pss, hpss, rfl⟩ := ih
    have hgetAll : Headers.getAll ⟨h :: lines⟩ name = Headers.getAll ⟨lines⟩ name :=
      congrArg (List.map Header.value) (List.filter_cons_of_neg (mt Header.isNamed_iff.1 hname))
    rw [hgetAll]
    exact ⟨pss, hpss, rfl⟩

/-- The pieces of several lines are their items. -/
theorem exists_items {values : List String} {pss : List (List (String × String))}
    (h : List.Forall₂ (fun value ps => CookieLine value.toList ps) values pss) :
    ∃ items, List.Forall₂ CookieItem (values.flatMap fun value => splitOn ';' value.toList) items ∧
      items.flatten = pss.flatten := by
  induction h with
  | nil => exact ⟨[], .nil, rfl⟩
  | cons h _ ih =>
    obtain ⟨items, hitems, hflat⟩ := ih
    obtain ⟨items', hitems', rfl⟩ := h.pieces
    rw [List.flatMap_cons]
    refine ⟨items' ++ items, List.rel_append hitems' hitems, ?_⟩
    rw [List.flatten_append, hflat, List.flatten_cons]

/-! ### Messages -/

/-- **The value of a cookie.** A request whose `Cookie` lines are lists of items has as the value of a cookie that of
the first item with its name, over all these lines in order, and none without such an item. A response has the value of
the first `Set-Cookie` line that starts with such an item; what follows in a line is never taken for a cookie. -/
theorem cookie?_carried (pairs : List (String × String)) (name : String) :
    (∀ r : Request, Carries "Cookie" CookieLine r.headers.lines pairs → r.cookie? name = firstValue pairs name) ∧
    ∀ r : Response, Carries "Set-Cookie" SetCookieLine r.headers.lines pairs →
      r.cookie? name = firstValue pairs name := by
  refine ⟨fun r h => ?_, fun r h => ?_⟩
  · obtain ⟨pss, hpss, rfl⟩ := h.getAll
    obtain ⟨items, hitems, hflat⟩ := exists_items hpss
    rw [← hflat]
    exact findCookie_eq hitems name
  · obtain ⟨pss, hpss, rfl⟩ := h.getAll
    have hitems := (List.forall₂_map_left_iff (f := fun value : String => value.toList.takeWhile (· != ';'))).2
      (hpss.imp fun _ _ => SetCookieLine.piece)
    exact findCookie_eq hitems name

/-- Two lines of cookies with another line between them, an item without a value, and a value with `=` in it; then a
response that sets a cookie with an attribute, and again behind something else. -/
theorem cookie?_carried_lines :
    let r : Request := { Request.new ⟨"GET", by decide⟩ (.origin ⟨"/".toList, none, by decide, by decide⟩) with
      headers := .ofPairs [("COOKIE", "flag;\t a=x=y "), ("Host", "a=0"), ("cookie", "a=2")] }
    let s : Response := { Response.new r ⟨200, by decide, by decide⟩ with
      headers := .ofPairs [("set-cookie", "flag; a=0"), ("Set-Cookie", "a=1; Path=/")] }
    Carries "Cookie" CookieLine r.headers.lines [("a", "x=y"), ("a", "2")] ∧
      Carries "Set-Cookie" SetCookieLine s.headers.lines [("a", "1")] ∧
      r.cookie? "a" = some "x=y" ∧ s.cookie? "a" = some "1" ∧ s.cookie? "Path" = none := by
  intro r s
  have hflag : CookieItem "flag".toList [] := .other (by decide) (by decide)
  have hblank : ∀ ws ∈ [[], [' '], ['\t', ' ']], ∀ c ∈ ws, isBlank c = true := by
    simp only [← List.all_eq_true]
    decide
  have hpadded : CookieItem "\t a=x=y ".toList [("a", "x=y")] :=
    @CookieItem.pair ['\t', ' '] [' '] "a" "x=y" (hblank _ (by decide)) (hblank _ (by decide)) (by decide) (by decide)
      (by decide) (by decide) (by decide)
  have hplain (value : String) (hvalue : Trimmed value.toList) (hv : ';' ∉ value.toList) :
      CookieItem ('a' :: '=' :: value.toList) [("a", value)] := by
    have h := @CookieItem.pair [] [] "a" value (hblank _ (by decide)) (hblank _ (by decide)) (by decide) hvalue
      (by decide) (by decide) hv
    simpa using h
  have hone : CookieItem "a=1".toList [("a", "1")] := hplain "1" (by decide) (by decide)
  have htwo : CookieItem "a=2".toList [("a", "2")] := hplain "2" (by decide) (by decide)
  have hline : CookieLine "flag;\t a=x=y ".toList [("a", "x=y")] := .cons hflag (.single hpadded)
  have hother : "Host".toLower ≠ "Cookie".toLower := mt toLower_eq_iff.1 (by decide)
  have hr : Carries "Cookie" CookieLine r.headers.lines [("a", "x=y"), ("a", "2")] :=
    @Carries.named _ _ ⟨"COOKIE", _⟩ _ [("a", "x=y")] _ (toLower_eq_iff.2 (by decide)) hline
      (@Carries.other _ _ ⟨"Host", _⟩ _ _ hother
        (@Carries.named _ _ ⟨"cookie", _⟩ _ [("a", "2")] [] (toLower_eq_iff.2 (by decide)) (.single htwo) .nil))
  have hs : Carries "Set-Cookie" SetCookieLine s.headers.lines [("a", "1")] :=
    @Carries.named _ _ ⟨"set-cookie", _⟩ _ [] _ (toLower_eq_iff.2 (by decide)) (.attributes hflag " a=0".toList)
      (@Carries.named _ _ ⟨"Set-Cookie", _⟩ _ [("a", "1")] [] rfl (.attributes hone " Path=/".toList) .nil)
  refine ⟨hr, hs, ?_, ?_, ?_⟩
  · rw [(cookie?_carried _ "a").1 r hr]
    decide
  · rw [(cookie?_carried _ "a").2 s hs]
    decide
  · rw [(cookie?_carried _ "Path").2 s hs]
    decide

end InterceptAddons.Http
