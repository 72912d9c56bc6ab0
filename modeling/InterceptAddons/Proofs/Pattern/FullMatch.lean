import InterceptAddons.Filter.Eval
import InterceptAddons.Proofs.Filter.Binding
import InterceptAddons.Proofs.Pattern.Anchoring
import InterceptAddons.Proofs.Pattern.Search

/-!
# Matching from end to end

A pattern matches a text from end to end where some match of its expression spans the text. For a pattern
that can be put between anchors the answer is just that, and it is the answer of a search for the anchored
source. A pattern that cannot is held to its preferred match: it never answers yes wrongly, and answers no
where a shorter match is preferred to one that spans the text. `Pattern.isFullMatch_spans` says all of this,
and that `body-matches` asks the question of the body.
-/

namespace InterceptAddons

open InterceptAddons.Filter

namespace Pattern

variable (p : Pattern) (text : String)

/-- The pattern has a match that spans the text, whichever match is preferred. -/
def Spans : Prop := p.regex.Spans text.toList 0 text.toList.length

/-- The match that a search prefers at the start of the text ends before the text does. -/
def PrefersShorter : Prop := ∃ j < text.toList.length, p.regex.preferredEnd? text.toList = some j

variable {p text}

theorem preferredEnd?_of_spans (h : p.Spans text) :
    ∃ j ≤ text.toList.length, p.regex.preferredEnd? text.toList = some j := by
  cases hj : p.regex.preferredEnd? text.toList with
  | none => exact absurd h (Regex.preferredEnd?_eq_none_iff.1 hj _)
  | some j =>
    have hspans := Regex.preferredEnd?_spans hj
    exact ⟨j, (p.regex.spans_forward _).le_length hspans (Nat.zero_le _), rfl⟩

/-- The preferred match is the whole text where some match is and no shorter one is preferred. -/
theorem preferredEnd?_eq_length_iff :
    p.regex.preferredEnd? text.toList = some text.toList.length ↔ p.Spans text ∧ ¬ p.PrefersShorter text := by
  constructor
  · intro h
    refine ⟨Regex.preferredEnd?_spans h, ?_⟩
    rintro ⟨j, hj, hshort⟩
    obtain rfl := Option.some.inj (hshort.symm.trans h)
    exact absurd hj (Nat.lt_irrefl _)
  · rintro ⟨hspans, hno⟩
    obtain ⟨j, hj, hpreferred⟩ := preferredEnd?_of_spans hspans
    have hge : ¬ j < text.toList.length := fun hlt => hno ⟨j, hlt, hpreferred⟩
    rw [hpreferred, Nat.le_antisymm hj (Nat.le_of_not_lt hge)]

theorem isFullMatch_iff :
    p.isFullMatch text = true ↔ p.Spans text ∧ (p.anchors = true ∨ ¬ p.PrefersShorter text) := by
  rw [isFullMatch]
  by_cases hanchors : p.anchors = true
  · rw [if_pos hanchors, Regex.matchesAll_iff]
    exact ⟨fun h => ⟨h, .inl hanchors⟩, fun h => h.1⟩
  · rw [if_neg hanchors, beq_iff_eq, preferredEnd?_eq_length_iff]
    exact and_congr_right fun _ => ⟨.inr, fun h => h.resolve_left hanchors⟩

/-- Where the anchored source compiles, the answer is that of a search for it. -/
theorem isFullMatch_of_anchored {re : Regex} (h : Regex.ofSource? (anchored p.source) = some re) :
    p.anchors = true ∧ p.isFullMatch text = re.matchesPart text.toList := by
  have hanchors : p.anchors = true := by rw [p.anchors_eq, canAnchor, h, Option.isSome_some]
  refine ⟨hanchors, ?_⟩
  rw [isFullMatch, if_pos hanchors, Regex.matchesPart_anchored p.compiled h]

/-- The predicate on the whole body asks its pattern. -/
theorem eval_bodyMatches {arg : Literal} (harg : Kind.pattern.fit 1 arg = .ok (.regex p)) (facts : Facts) :
    Expr.eval (.predicate "body-matches" [arg]) facts = .ok (p.isFullMatch facts.text) := by
  have hrow : Predicate.IsRow predicates[15] "body-matches" :=
    ⟨List.getElem_mem _, congrArg String.toLower rfl⟩
  rw [Expr.eval, Expr.bind, bindPredicate, Predicate.find?_eq_some_iff.2 hrow]
  have hfit : Predicate.fitArgs predicates[15] [arg] = .ok [.regex p] := by
    have hparam : Predicate.param? predicates[15] 0 = some .pattern := rfl
    have haccepts : Predicate.accepts predicates[15] [arg].length = true := rfl
    rw [Predicate.fitArgs, if_pos haccepts, Predicate.fitFrom, hparam]
    simp only [harg]
    rfl
  simp only [hfit]
  rfl

/-- **A pattern matches a text from end to end** exactly where some match of it spans the text, unless it
cannot be put between anchors and prefers a shorter match. Where it can, a search for the anchored source
gives the same answer, and the predicate on the body gives the answer for the body. -/
theorem isFullMatch_spans (p : Pattern) (text : String) :
    (p.isFullMatch text = true ↔ p.Spans text ∧ (p.anchors = true ∨ ¬ p.PrefersShorter text)) ∧
    (∀ re, Regex.ofSource? (anchored p.source) = some re →
      p.anchors = true ∧ p.isFullMatch text = re.matchesPart text.toList) ∧
    ∀ arg, Kind.pattern.fit 1 arg = .ok (.regex p) → ∀ facts : Facts, facts.text = text →
      Expr.eval (.predicate "body-matches" [arg]) facts = .ok (p.isFullMatch text) := by
  refine ⟨isFullMatch_iff, fun re h => isFullMatch_of_anchored h, ?_⟩
  rintro arg harg facts rfl
  exact eval_bodyMatches harg facts

/-- Between anchors it does not count that the first branch is preferred. -/
theorem isFullMatch_branches : ∃ p, compile? "a|ab" = some p ∧ p.PrefersShorter "ab" ∧ p.isFullMatch "ab" = true := by
  have hanswers : ((Regex.ofSource? "a|ab").map fun r =>
      (r.matchesAll "ab".toList, r.preferredEnd? "ab".toList)) = some (true, some 1) := by decide +kernel
  have hanchors : canAnchor "a|ab" = true := by decide +kernel
  obtain ⟨r, hr, hrs⟩ := Option.map_eq_some_iff.1 hanswers
  obtain ⟨hall, hpreferred⟩ := Prod.mk.inj hrs
  let p : Pattern := ⟨"a|ab", r, hr, true, hanchors.symm⟩
  have hspans : p.Spans "ab" := (Regex.matchesAll_iff _ _).1 hall
  have hlength : 1 < "ab".toList.length := by decide +kernel
  exact ⟨p, compile?_source p, ⟨1, hlength, hpreferred⟩, (isFullMatch_spans p "ab").1.2 ⟨hspans, .inl rfl⟩⟩

/-- A comment at its end keeps a source from being put between anchors, and its first branch from matching all
that its second one does. -/
theorem isFullMatch_comment : ∃ p, compile? "(?x)a|ab # c" = some p ∧ p.Spans "ab" ∧ p.isFullMatch "ab" = false := by
  have hanswers : ((Regex.ofSource? "(?x)a|ab # c").map fun r =>
      (r.matchesAll "ab".toList, r.preferredEnd? "ab".toList == some "ab".toList.length)) =
      some (true, false) := by decide +kernel
  have hanchors : canAnchor "(?x)a|ab # c" = false := by decide +kernel
  obtain ⟨r, hr, hrs⟩ := Option.map_eq_some_iff.1 hanswers
  obtain ⟨hall, hpreferred⟩ := Prod.mk.inj hrs
  let p : Pattern := ⟨"(?x)a|ab # c", r, hr, false, hanchors.symm⟩
  exact ⟨p, compile?_source p, (Regex.matchesAll_iff _ _).1 hall, hpreferred⟩

end Pattern

end InterceptAddons
