import InterceptAddons.Http.Headers
import Mathlib.Logic.Function.Basic

/-!
# Header lines under changes

A `HeaderStep` adds a line, makes a name have one value, or drops a name. `HeaderStep.Does` says what each step does
to the list of lines; lines of other names stand as they stood (`filter_others`). Main statement: `getAll_history`.
After any steps the values of a name are those that a multimap with keys in lower case holds after the same steps.
-/

namespace InterceptAddons.Http

/-! ### Steps -/

/-- A change of header lines. -/
inductive HeaderStep
  | add (name value : String)
  | set (name value : String)
  | erase (name : String)
  deriving DecidableEq

namespace HeaderStep

def name : HeaderStep → String
  | add name _ | set name _ | erase name => name

def apply (hs : Headers) : HeaderStep → Headers
  | add name value => hs.add name value
  | set name value => hs.set name value
  | erase name => hs.erase name

def applyAll (hs : Headers) (steps : List HeaderStep) : Headers := steps.foldl apply hs

/-- What a step does to the lines. Where a name gets one value, the first of its lines keeps its place and spelling,
and only without such a line there is a new one. -/
inductive Does : HeaderStep → List Header → List Header → Prop
  | add (name value : String) (lines : List Header) : Does (add name value) lines (lines ++ [⟨name, value⟩])
  | setFirst (name value : String) (front : List Header) (h : Header) (back : List Header)
    (hfront : ∀ l ∈ front, l.isNamed name = false) (hh : h.isNamed name = true) :
    Does (set name value) (front ++ h :: back) (front ++ ⟨h.name, value⟩ :: back.filter (!·.isNamed name))
  | setAbsent (name value : String) (lines : List Header) (hlines : ∀ l ∈ lines, l.isNamed name = false) :
    Does (set name value) lines (lines ++ [⟨name, value⟩])
  | erase (name : String) (lines : List Header) : Does (erase name) lines (lines.filter (!·.isNamed name))

end HeaderStep

/-! ### The multimap -/

/-- Lists of values under keys. -/
abbrev Multimap := String → List String

namespace Multimap

def empty : Multimap := fun _ => []

/-- Follows a step. A name stands under its lower case. -/
def step (m : Multimap) : HeaderStep → Multimap
  | .add name value => Function.update m name.toLower (m name.toLower ++ [value])
  | .set name value => Function.update m name.toLower [value]
  | .erase name => Function.update m name.toLower []

/-- The values of header lines: each line is added to what the lines before it gave. -/
def ofLines (lines : List Header) : Multimap := (lines.map fun h => .add h.name h.value).foldl step empty

/-- The values after steps. -/
def history (hs : Headers) (steps : List HeaderStep) : Multimap := steps.foldl step (ofLines hs.lines)

end Multimap

/-! ### What a step does -/

theorem Header.isNamed_iff {h : Header} {name : String} : h.isNamed name = true ↔ h.name.toLower = name.toLower := by
  rw [Header.isNamed, beq_iff_eq]

theorem setLines_of_absent {name value : String} {lines : List Header}
    (hlines : ∀ l ∈ lines, l.isNamed name = false) : Headers.setLines name value lines = none := by
  induction lines with
  | nil => rfl
  | cons h lines ih =>
    have hh : h.isNamed name = false := hlines h List.mem_cons_self
    have hrest := ih fun l hl => hlines l (List.mem_cons_of_mem _ hl)
    simp [Headers.setLines, hh, hrest]

theorem setLines_of_first {name value : String} {front back : List Header} {h : Header}
    (hfront : ∀ l ∈ front, l.isNamed name = false) (hh : h.isNamed name = true) :
    Headers.setLines name value (front ++ h :: back) =
      some (front ++ ⟨h.name, value⟩ :: back.filter (!·.isNamed name)) := by
  induction front with
  | nil => simp [Headers.setLines, hh]
  | cons l front ih =>
    have hl : l.isNamed name = false := hfront l List.mem_cons_self
    have hrest := ih fun l hl => hfront l (List.mem_cons_of_mem _ hl)
    simp [Headers.setLines, hl, hrest]

/-- The first line of a name, if there is one. -/
theorem exists_first (name : String) (lines : List Header) :
    (∀ l ∈ lines, l.isNamed name = false) ∨
      ∃ front h back, lines = front ++ h :: back ∧ (∀ l ∈ front, l.isNamed name = false) ∧
        h.isNamed name = true := by
  induction lines with
  | nil => exact .inl (by simp)
  | cons l lines ih =>
    by_cases hl : l.isNamed name = true
    · exact .inr ⟨[], l, lines, rfl, by simp, hl⟩
    have hl : l.isNamed name = false := by simpa using hl
    rcases ih with hnone | ⟨front, h, back, rfl, hfront, hh⟩
    · exact .inl (List.forall_mem_cons.2 ⟨hl, hnone⟩)
    · exact .inr ⟨l :: front, h, back, rfl, List.forall_mem_cons.2 ⟨hl, hfront⟩, hh⟩

theorem HeaderStep.does (hs : Headers) (step : HeaderStep) : step.Does hs.lines (step.apply hs).lines := by
  cases step with
  | add name value => exact .add name value hs.lines
  | erase name => exact .erase name hs.lines
  | set name value =>
    rw [HeaderStep.apply, Headers.set]
    rcases exists_first name hs.lines with hnone | ⟨front, h, back, hlines, hfront, hh⟩
    · rw [setLines_of_absent hnone]
      exact .setAbsent name value hs.lines hnone
    · rw [hlines, setLines_of_first hfront hh]
      exact .setFirst name value front h back hfront hh

/-! ### Lines of other names and of the name itself -/

theorem filter_isNamed_of_absent {name : String} {lines : List Header}
    (h : ∀ l ∈ lines, l.isNamed name = false) : lines.filter (·.isNamed name) = [] := by
  rw [List.filter_eq_nil_iff]
  intro l hl
  rw [h l hl]
  decide

/-- A step leaves the lines of other names as they are, in their order. -/
theorem HeaderStep.Does.filter_others {step : HeaderStep} {lines new : List Header} (h : step.Does lines new) :
    new.filter (!·.isNamed step.name) = lines.filter (!·.isNamed step.name) := by
  cases h with
  | add name value lines =>
    have hnew : (⟨name, value⟩ : Header).isNamed name = true := Header.isNamed_iff.2 rfl
    simp [HeaderStep.name, List.filter_append, hnew]
  | setAbsent name value lines hlines =>
    have hnew : (⟨name, value⟩ : Header).isNamed name = true := Header.isNamed_iff.2 rfl
    simp [HeaderStep.name, List.filter_append, hnew]
  | setFirst name value front h back hfront hh =>
    have hnew : (⟨h.name, value⟩ : Header).isNamed name = true := hh
    simp [HeaderStep.name, List.filter_append, hnew, hh]
  | erase name lines => simp [HeaderStep.name]

/-- The lines of one name are found among the lines that do not have another name. -/
theorem filter_isNamed_of_others {name other : String} (hne : name.toLower ≠ other.toLower) (lines : List Header) :
    (lines.filter (!·.isNamed name)).filter (·.isNamed other) = lines.filter (·.isNamed other) := by
  rw [List.filter_filter]
  refine List.filter_congr fun l _ => ?_
  by_cases hl : l.isNamed other = true
  · have hname : l.isNamed name = false := by
      by_contra hname
      have hname : l.isNamed name = true := by simpa using hname
      exact hne ((Header.isNamed_iff.1 hname).symm.trans (Header.isNamed_iff.1 hl))
    simp [hl, hname]
  · simp [hl]

theorem HeaderStep.Does.filter_of_ne {step : HeaderStep} {lines new : List Header} (h : step.Does lines new)
    {other : String} (hne : step.name.toLower ≠ other.toLower) :
    new.filter (·.isNamed other) = lines.filter (·.isNamed other) := by
  rw [← filter_isNamed_of_others hne new, h.filter_others, filter_isNamed_of_others hne lines]

theorem isNamed_congr {name other : String} (h : name.toLower = other.toLower) (l : Header) :
    l.isNamed name = l.isNamed other := by
  rw [Header.isNamed, Header.isNamed, h]

theorem Headers.getAll_congr {name other : String} (h : name.toLower = other.toLower) (hs : Headers) :
    hs.getAll name = hs.getAll other := by
  rw [Headers.getAll, Headers.getAll, List.filter_congr fun l _ => isNamed_congr h l]

theorem HeaderStep.getAll_of_ne (hs : Headers) (step : HeaderStep) {other : String}
    (hne : step.name.toLower ≠ other.toLower) : (step.apply hs).getAll other = hs.getAll other := by
  rw [Headers.getAll, Headers.getAll, (step.does hs).filter_of_ne hne]

theorem Headers.getAll_add (hs : Headers) (name value : String) :
    (hs.add name value).getAll name = hs.getAll name ++ [value] := by
  have hnew : (⟨name, value⟩ : Header).isNamed name = true := Header.isNamed_iff.2 rfl
  simp [Headers.getAll, Headers.add, List.filter_append, hnew]

theorem Headers.getAll_erase (hs : Headers) (name : String) : (hs.erase name).getAll name = [] := by
  simp [Headers.getAll, Headers.erase, List.filter_filter]

theorem Headers.getAll_set (hs : Headers) (name value : String) : (hs.set name value).getAll name = [value] := by
  have hdoes := (HeaderStep.set name value).does hs
  rw [Headers.getAll]
  simp only [HeaderStep.apply] at hdoes
  generalize hs.lines = lines at hdoes
  generalize (hs.set name value).lines = new at hdoes
  cases hdoes with
  | setFirst _ _ front h back hfront hh =>
    have hnew : (⟨h.name, value⟩ : Header).isNamed name = true := hh
    simp [List.filter_append, List.filter_filter, filter_isNamed_of_absent hfront, hnew]
  | setAbsent _ _ _ hlines =>
    have hnew : (⟨name, value⟩ : Header).isNamed name = true := Header.isNamed_iff.2 rfl
    simp [List.filter_append, filter_isNamed_of_absent hlines, hnew]

/-! ### History -/

def Headers.Follow (hs : Headers) (m : Multimap) : Prop := ∀ name, hs.getAll name = m name.toLower

theorem Headers.Follow.step {hs : Headers} {m : Multimap} (h : hs.Follow m) (step : HeaderStep) :
    (step.apply hs).Follow (m.step step) := by
  intro name
  by_cases hname : step.name.toLower = name.toLower
  · rw [← Headers.getAll_congr hname]
    cases step with
    | add key value =>
      have hkey : key.toLower = name.toLower := hname
      rw [HeaderStep.apply, HeaderStep.name, Headers.getAll_add, h key, Multimap.step, ← hkey, Function.update_self]
    | set key value =>
      have hkey : key.toLower = name.toLower := hname
      rw [HeaderStep.apply, HeaderStep.name, Headers.getAll_set, Multimap.step, ← hkey, Function.update_self]
    | erase key =>
      have hkey : key.toLower = name.toLower := hname
      rw [HeaderStep.apply, HeaderStep.name, Headers.getAll_erase, Multimap.step, ← hkey, Function.update_self]
  · rw [HeaderStep.getAll_of_ne hs step hname, h name]
    have hne : name.toLower ≠ step.name.toLower := fun h => hname h.symm
    cases step with
    | add key value => exact (Function.update_of_ne hne _ _).symm
    | set key value => exact (Function.update_of_ne hne _ _).symm
    | erase key => exact (Function.update_of_ne hne _ _).symm

theorem Headers.Follow.applyAll {hs : Headers} {m : Multimap} (h : hs.Follow m) (steps : List HeaderStep) :
    (HeaderStep.applyAll hs steps).Follow (steps.foldl Multimap.step m) := by
  induction steps generalizing hs m with
  | nil => exact h
  | cons step steps ih => exact ih (h.step step)

/-- Header lines are what comes of adding them one by one. -/
theorem applyAll_add (front lines : List Header) :
    HeaderStep.applyAll ⟨front⟩ (lines.map fun h => .add h.name h.value) = ⟨front ++ lines⟩ := by
  induction lines generalizing front with
  | nil => simp [HeaderStep.applyAll]
  | cons h lines ih =>
    have hrest := ih (front ++ [h])
    rw [List.append_assoc, List.singleton_append] at hrest
    exact hrest

theorem Headers.follow_ofLines (hs : Headers) : hs.Follow (Multimap.ofLines hs.lines) := by
  have hempty : Headers.empty.Follow Multimap.empty := fun _ => rfl
  have hlines := hempty.applyAll (hs.lines.map fun h => .add h.name h.value)
  have hall : HeaderStep.applyAll .empty (hs.lines.map fun h => .add h.name h.value) = hs := applyAll_add [] hs.lines
  rw [hall] at hlines
  exact hlines

theorem Headers.get?_eq_head? (hs : Headers) (name : String) : hs.get? name = (hs.getAll name).head? := by
  rw [Headers.get?, Headers.getAll, List.head?_map, List.head?_filter]

theorem Headers.contains_eq (hs : Headers) (name : String) : hs.contains name = !(hs.getAll name).isEmpty := by
  rw [Headers.contains, Headers.getAll, List.isEmpty_map]
  cases hany : hs.lines.any (·.isNamed name) with
  | true =>
    obtain ⟨l, hl, hname⟩ := List.any_eq_true.1 hany
    have hmem : l ∈ hs.lines.filter (·.isNamed name) := List.mem_filter.2 ⟨hl, hname⟩
    cases hf : hs.lines.filter (·.isNamed name) with
    | nil => simp [hf] at hmem
    | cons _ _ => rfl
  | false =>
    have hnone : ∀ l ∈ hs.lines, l.isNamed name = false := by simpa using hany
    rw [filter_isNamed_of_absent hnone]
    rfl

/-- **Headers follow their history.** After any steps, the values of a name are those of the multimap, the first of
them is what a look-up gives, and the name is there if it has a value. Every further step leaves the lines of other
names as they are, and does to the lines of its name what it says. -/
theorem getAll_history (hs : Headers) (steps : List HeaderStep) :
    (∀ name,
      (HeaderStep.applyAll hs steps).getAll name = Multimap.history hs steps name.toLower ∧
      (HeaderStep.applyAll hs steps).get? name = (Multimap.history hs steps name.toLower).head? ∧
      (HeaderStep.applyAll hs steps).contains name = !(Multimap.history hs steps name.toLower).isEmpty) ∧
    ∀ step : HeaderStep,
      let old := (HeaderStep.applyAll hs steps).lines
      let new := (HeaderStep.applyAll hs (steps ++ [step])).lines
      new.filter (!·.isNamed step.name) = old.filter (!·.isNamed step.name) ∧ step.Does old new := by
  have hfollow : (HeaderStep.applyAll hs steps).Follow (Multimap.history hs steps) :=
    hs.follow_ofLines.applyAll steps
  constructor
  · intro name
    rw [Headers.get?_eq_head?, Headers.contains_eq, hfollow name]
    exact ⟨rfl, rfl, rfl⟩
  · intro step old new
    have hdoes : step.Does old new := by
      have happly : HeaderStep.applyAll hs (steps ++ [step]) = step.apply (HeaderStep.applyAll hs steps) := by
        simp [HeaderStep.applyAll]
      show step.Does old (HeaderStep.applyAll hs (steps ++ [step])).lines
      rw [happly]
      exact step.does _
    exact ⟨hdoes.filter_others, hdoes⟩

end InterceptAddons.Http
