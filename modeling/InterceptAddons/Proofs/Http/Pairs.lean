import InterceptAddons.Proofs.Http.Headers
import InterceptAddons.Proofs.Http.Query
import InterceptAddons.Proofs.Text.Characters
import Mathlib.Data.List.Forall2

/-!
# Written pairs

`WritesPairs` gives the texts by which a list of names and values may be written: components octet by octet, with a
space also as `+`, an empty value also without its `=`, and one or more `&` between two pairs. Main statement:
`findPair_written`. In every such text, in a query as in the body of a form, a name is found with the value of its first
pair.
-/

namespace InterceptAddons.Http

open InterceptAddons.Text

/-! ### Components -/

/-- How a component may be written: character by character as `encodeComponent` does, but a space also as `+`. -/
inductive WritesComponent : List Char → List Char → Prop
  | nil : WritesComponent [] []
  | char (c : Char) {cs w : List Char} (h : WritesComponent cs w) : WritesComponent (c :: cs) (encodeComponent [c] ++ w)
  | plus {cs w : List Char} (h : WritesComponent cs w) : WritesComponent (' ' :: cs) ('+' :: w)

theorem encodeComponent_cons (c : Char) (cs : List Char) :
    encodeComponent (c :: cs) = encodeComponent [c] ++ encodeComponent cs := by
  rw [encodeComponent, ← List.singleton_append, encode_append, List.flatMap_append]
  rfl

theorem writesComponent_encodeComponent (cs : List Char) : WritesComponent cs (encodeComponent cs) := by
  induction cs with
  | nil => exact .nil
  | cons c cs ih =>
    rw [encodeComponent_cons]
    exact .char c ih

theorem decodeOctets_encodeComponent_append (cs : List Char) (rest : List UInt8) :
    decodeOctets (encode (encodeComponent cs) ++ rest) = encode cs ++ decodeOctets rest := by
  rw [encodeComponent]
  induction encode cs with
  | nil => rfl
  | cons b bs ih => rw [List.flatMap_cons, encode_append, List.append_assoc, decodeOctets_encodeOctet, ih, List.cons_append]

namespace WritesComponent

variable {cs w : List Char}

theorem decodeOctets_eq (h : WritesComponent cs w) : decodeOctets (encode w) = encode cs := by
  induction h with
  | nil => rfl
  | @char c cs w h ih =>
    rw [encode_append, decodeOctets_encodeComponent_append, ih, ← encode_append, List.singleton_append]
  | @plus cs w h ih =>
    have hplus : encode ('+' :: w) = 0x2B :: encode w := rfl
    have hspace : encode (' ' :: cs) = 0x20 :: encode cs := rfl
    rw [hplus, hspace, decodeOctets.eq_def, ← ih]
    rfl

/-- However a component is written, it is read back. -/
theorem decodeComponent_eq (h : WritesComponent cs w) : decodeComponent w = cs := by
  rw [decodeComponent, h.decodeOctets_eq, decodeLossy_encode]

/-- What is written holds nothing that parts pairs or names and values. -/
theorem of_mem (h : WritesComponent cs w) {c : Char} (hc : c ∈ w) : c ≠ '&' ∧ c ≠ '=' := by
  induction h with
  | nil => cases hc
  | char d h ih =>
    rcases List.mem_append.1 hc with hc | hc
    · exact (of_mem_encodeComponent hc).2
    · exact ih hc
  | plus h ih =>
    rcases List.mem_cons.1 hc with rfl | hc
    · decide
    · exact ih hc

theorem ne_nil (h : WritesComponent cs w) (hcs : cs ≠ []) : w ≠ [] := by
  rintro rfl
  have hnil : decodeComponent [] = [] := WritesComponent.nil.decodeComponent_eq
  exact hcs (h.decodeComponent_eq.symm.trans hnil)

end WritesComponent

/-! ### Pairs -/

/-- How a name with its value may be written: with `=` between them, or the name alone if the value is empty. -/
inductive WritesPair : String × String → List Char → Prop
  | full {name value : String} {n v : List Char} (hn : WritesComponent name.toList n)
    (hv : WritesComponent value.toList v) : WritesPair (name, value) (n ++ '=' :: v)
  | bare {name : String} {n : List Char} (hname : name ≠ "") (hn : WritesComponent name.toList n) :
    WritesPair (name, "") n

/-- How pairs may be written one after the other, with one or more `&` between two of them. -/
inductive WritesPairs : List (String × String) → List Char → Prop
  | nil : WritesPairs [] []
  | single {p : String × String} {w : List Char} (h : WritesPair p w) : WritesPairs [p] w
  | cons {p : String × String} {ps : List (String × String)} {w t : List Char} (h : WritesPair p w) (extra : Nat)
    (hps : ps ≠ []) (ht : WritesPairs ps t) :
    WritesPairs (p :: ps) (w ++ List.replicate (extra + 1) '&' ++ t)

namespace WritesPair

variable {p : String × String} {w : List Char}

theorem pairParts_of_bare {n : List Char} (h : '=' ∉ n) : pairParts n = (n, []) := by
  rw [pairParts, cutFirst_eq_none_iff.2 h]
  rfl

/-- A written pair is read back. -/
theorem name_value_eq (h : WritesPair p w) : pairName w = p.1.toList ∧ pairValue w = p.2.toList := by
  cases h with
  | @full _ _ n v hn hv =>
    have hparts := pairParts_eq (fun hmem => (hn.of_mem hmem).2 rfl) v
    rw [pairName, pairValue, hparts]
    exact ⟨hn.decodeComponent_eq, hv.decodeComponent_eq⟩
  | bare hname hn =>
    have hparts := pairParts_of_bare fun hmem => (hn.of_mem hmem).2 rfl
    rw [pairName, pairValue, hparts]
    exact ⟨hn.decodeComponent_eq, WritesComponent.nil.decodeComponent_eq⟩

/-- A written pair is one piece of a query. -/
theorem ne_nil_and_notMem (h : WritesPair p w) : w ≠ [] ∧ '&' ∉ w := by
  cases h with
  | full hn hv =>
    refine ⟨List.append_ne_nil_of_right_ne_nil _ (List.cons_ne_nil _ _), fun hmem => ?_⟩
    rcases List.mem_append.1 hmem with hmem | hmem
    · exact (hn.of_mem hmem).1 rfl
    · rcases List.mem_cons.1 hmem with heq | hmem
      · cases heq
      · exact (hv.of_mem hmem).1 rfl
  | bare hname hn =>
    exact ⟨hn.ne_nil (mt String.toList_eq_nil_iff.1 hname), fun hmem => (hn.of_mem hmem).1 rfl⟩

end WritesPair

/-! ### Texts of pairs -/

theorem pairsOf_singleton {w : List Char} (hne : w ≠ []) (hw : '&' ∉ w) : pairsOf w = [w] := by
  rw [pairsOf, splitOn_of_notMem hw, List.filter_eq_self]
  exact List.forall_mem_singleton.2 (by simpa using hne)

/-- Empty pieces count for nothing. -/
theorem pairsOf_replicate (k : Nat) (t : List Char) : pairsOf (List.replicate k '&' ++ t) = pairsOf t := by
  induction k with
  | zero => rfl
  | succ k ih =>
    rw [← ih, List.replicate_succ, List.cons_append, pairsOf, splitOn, if_pos rfl]
    rfl

theorem pairsOf_append {w : List Char} (hne : w ≠ []) (hw : '&' ∉ w) (extra : Nat) (t : List Char) :
    pairsOf (w ++ List.replicate (extra + 1) '&' ++ t) = w :: pairsOf t := by
  rw [← pairsOf_replicate extra t, List.replicate_succ, List.append_assoc, List.cons_append, pairsOf,
    splitOn_append hw, List.filter_cons, if_pos (by simpa using hne)]
  rfl

namespace WritesPairs

variable {ps : List (String × String)} {t : List Char}

/-- The pieces of a text are the written pairs. -/
theorem forall₂_pairsOf (h : WritesPairs ps t) : List.Forall₂ WritesPair ps (pairsOf t) := by
  induction h with
  | nil => exact .nil
  | single h =>
    obtain ⟨hne, hw⟩ := h.ne_nil_and_notMem
    rw [pairsOf_singleton hne hw]
    exact .cons h .nil
  | cons h extra hps ht ih =>
    obtain ⟨hne, hw⟩ := h.ne_nil_and_notMem
    rw [pairsOf_append hne hw]
    exact .cons h ih

theorem findPair_eq (h : WritesPairs ps t) (name : String) :
    (findPair t name.toList).map String.ofList = (ps.find? (·.1 = name)).map Prod.snd := by
  rw [Http.findPair_eq]
  have hws := h.forall₂_pairsOf
  clear h
  generalize pairsOf t = ws at hws
  induction hws with
  | nil => rfl
  | @cons p w ps ws hp hws ih =>
    obtain ⟨hname, hvalue⟩ := hp.name_value_eq
    have hiff : (pairName w == name.toList) = true ↔ p.1 = name := by
      rw [beq_iff_eq, hname, String.toList_inj]
    rw [List.find?_cons, List.find?_cons]
    by_cases heq : p.1 = name
    · rw [hiff.2 heq, decide_eq_true heq, Option.map_some, Option.map_some, hvalue, Option.map_some, String.ofList_toList]
    · rw [Bool.eq_false_iff.2 (mt hiff.1 heq), decide_eq_false heq]
      exact ih

end WritesPairs

/-! ### Queries and forms -/

namespace Request

/-- Whether the first `Content-Type` begins with the type of forms, in any ASCII case. -/
def SaysForm (r : Request) : Prop :=
  ∃ type, r.header? "Content-Type" = some type ∧
    ∃ first rest, type.toList = first ++ rest ∧ first.map Char.toLower = "application/x-www-form-urlencoded".toList

theorem hasForm_of_saysForm {r : Request} (h : r.SaysForm) : r.hasForm = true := by
  obtain ⟨type, htype, first, rest, hsplit, hfirst⟩ := h
  rw [hasForm, htype, Option.any_some, startsWith, toList_toLower, hsplit, List.map_append, hfirst,
    List.isPrefixOf_iff_prefix]
  exact List.prefix_append _ _

end Request

/-- **Written pairs are found.** A name that is looked up in a text of pairs has the value of its first pair, and no
value without such a pair. The same holds for the parameters of a request with this text as its query, and for those of
a form with this text as its body. What is written of a component is read back, whether or not its spaces are `+`. -/
theorem findPair_written {ps : List (String × String)} {t : String} (h : WritesPairs ps t.toList) (name : String) :
    let value? := (ps.find? (·.1 = name)).map Prod.snd
    (findPair t.toList name.toList).map String.ofList = value? ∧
      (∀ r : Request, r.query? = some t → r.queryParam? name = value?) ∧
      (∀ r : Request, r.body = octets t → r.SaysForm → r.formParam? name = value?) ∧
      ∀ cs, WritesComponent cs (encodeComponent cs) ∧ ∀ w, WritesComponent cs w → decodeComponent w = cs := by
  intro value?
  have hfind : (findPair t.toList name.toList).map String.ofList = value? := h.findPair_eq name
  refine ⟨hfind, fun r hquery => ?_, fun r hbody hform => ?_, fun cs => ?_⟩
  · obtain ⟨q, hq, rfl⟩ := Option.map_eq_some_iff.1 hquery
    rw [Request.queryParam?, hq, Option.bind_some, ← hfind, String.toList_ofList]
  · rw [Request.formParam?, if_pos (Request.hasForm_of_saysForm hform), hbody, octets, decodeLossy_encode, hfind]
  · exact ⟨writesComponent_encodeComponent cs, fun w hw => hw.decodeComponent_eq⟩

/-- Two pairs of one name, with a space, a character beyond ASCII and separators in them, and a name alone. -/
theorem findPair_written_repeated :
    let ps := [("a b", "é&="), ("a b", "2"), ("z", "")]
    let t := "a+b=%C3%A9%26%3D&&a%20b=2&z"
    let r : Request := { Request.new ⟨"POST", by decide⟩ (.origin ⟨"/".toList, some t.toList, by decide, by decide⟩) with
      headers := .ofPairs [("content-type", "Application/X-WWW-Form-URLEncoded; charset=utf-8")], body := octets t }
    WritesPairs ps t.toList ∧ r.query? = some t ∧ r.body = octets t ∧ r.SaysForm ∧
      r.queryParam? "a b" = some "é&=" ∧ r.formParam? "a b" = some "é&=" ∧ r.formParam? "z" = some "" ∧
      r.queryParam? "b" = none := by
  intro ps t r
  have hplus : WritesComponent "a b".toList "a+b".toList := .char 'a' (.plus (.char 'b' .nil))
  have hspace : WritesComponent "a b".toList "a%20b".toList := writesComponent_encodeComponent _
  have hvalue : WritesComponent "é&=".toList "%C3%A9%26%3D".toList := writesComponent_encodeComponent _
  have htwo : WritesComponent "2".toList "2".toList := writesComponent_encodeComponent _
  have hz : WritesComponent "z".toList "z".toList := writesComponent_encodeComponent _
  have ht : WritesPairs ps t.toList := by
    have hlast : WritesPairs [("z", "")] "z".toList := .single (.bare (by decide) hz)
    have hrest := WritesPairs.cons (.full hspace htwo) 0 (List.cons_ne_nil _ _) hlast
    have hall := WritesPairs.cons (.full hplus hvalue) 1 (List.cons_ne_nil _ _) hrest
    have htext : "a+b".toList ++ '=' :: "%C3%A9%26%3D".toList ++ List.replicate (1 + 1) '&' ++
        ("a%20b".toList ++ '=' :: "2".toList ++ List.replicate (0 + 1) '&' ++ "z".toList) = t.toList := by
      decide +kernel
    rwa [htext] at hall
  have hquery : r.query? = some t := by decide
  have hnamed : (⟨"content-type", "Application/X-WWW-Form-URLEncoded; charset=utf-8"⟩ : Header).isNamed
      "Content-Type" = true := by
    rw [Header.isNamed_iff, ← String.toList_inj, toList_toLower, toList_toLower]
    decide
  have hform : r.SaysForm := by
    refine ⟨"Application/X-WWW-Form-URLEncoded; charset=utf-8", ?_, "Application/X-WWW-Form-URLEncoded".toList,
      "; charset=utf-8".toList, by decide, by decide⟩
    exact congrArg (Option.map Header.value) (List.find?_cons_of_pos hnamed)
  have hvalue? : (ps.find? (·.1 = "a b")).map Prod.snd = some "é&=" := by decide
  refine ⟨ht, hquery, rfl, hform, ?_, ?_, ?_, ?_⟩
  · rw [← hvalue?]
    exact (findPair_written ht "a b").2.1 r hquery
  · rw [← hvalue?]
    exact (findPair_written ht "a b").2.2.1 r rfl hform
  · have hbare : (ps.find? (·.1 = "z")).map Prod.snd = some "" := by decide
    rw [← hbare]
    exact (findPair_written ht "z").2.2.1 r rfl hform
  · have hnone : (ps.find? (·.1 = "b")).map Prod.snd = none := by decide
    rw [← hnone]
    exact (findPair_written ht "b").2.1 r hquery

end InterceptAddons.Http
