import InterceptAddons.Pattern.Match
import InterceptAddons.Pattern.Meaning
import InterceptAddons.Pattern.Preferred

/-!
# Patterns

A `Pattern` is a source text together with the expression it compiles to. The source determines the
expression, so two patterns are equal exactly when their sources are.
-/

namespace InterceptAddons

namespace Pattern

/-- The source between anchors at both ends of the text. -/
def anchored (source : String) : String := "\\A(?:" ++ source ++ ")\\z"

/-- Whether a source can be put between anchors; one that ends in a comment, for instance, cannot. -/
def canAnchor (source : String) : Bool := (Regex.ofSource? (anchored source)).isSome

end Pattern

open Pattern in
/-- A compiled pattern; `anchors` remembers whether its source can be put between anchors. -/
structure Pattern where
  source : String
  regex : Regex
  compiled : Regex.ofSource? source = some regex
  anchors : Bool
  anchors_eq : anchors = canAnchor source

namespace Pattern

def compile? (source : String) : Option Pattern :=
  match h : Regex.ofSource? source with
  | some r => some ⟨source, r, h, canAnchor source, rfl⟩
  | none => none

theorem eq_of_source_eq {p q : Pattern} (h : p.source = q.source) : p = q := by
  obtain ⟨s, r, hr, a, ha⟩ := p
  obtain ⟨t, r', hr', a', ha'⟩ := q
  obtain rfl : s = t := h
  obtain rfl : r = r' := Option.some.inj (hr.symm.trans hr')
  obtain rfl : a = a' := ha.trans ha'.symm
  rfl

theorem eq_iff_source_eq {p q : Pattern} : p = q ↔ p.source = q.source :=
  ⟨fun h => h ▸ rfl, eq_of_source_eq⟩

instance : DecidableEq Pattern := fun _ _ => decidable_of_iff _ eq_iff_source_eq.symm

theorem compile?_source (p : Pattern) : compile? p.source = some p := by
  unfold compile?
  split
  · next r h => exact congrArg some (eq_of_source_eq rfl)
  · next h => exact absurd (h.symm.trans p.compiled) nofun

theorem source_of_compile? {s : String} {p : Pattern} (h : compile? s = some p) : p.source = s := by
  unfold compile? at h
  split at h
  · exact Option.some.inj h ▸ rfl
  · exact absurd h nofun

/-- Whether the pattern matches somewhere in the text. -/
def isMatch (p : Pattern) (text : String) : Bool := p.regex.matchesPart text.toList

/-- Whether the pattern matches the text from end to end. A pattern that cannot be put between anchors is
held to its preferred match. -/
def isFullMatch (p : Pattern) (text : String) : Bool :=
  if p.anchors then p.regex.matchesAll text.toList
  else p.regex.preferredEnd? text.toList == some text.toList.length

end Pattern

end InterceptAddons
