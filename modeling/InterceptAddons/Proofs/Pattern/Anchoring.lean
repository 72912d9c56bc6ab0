import InterceptAddons.Pattern.Basic
import InterceptAddons.Proofs.Pattern.Prolonging
import InterceptAddons.Proofs.Pattern.Spans

/-!
# Expressions between anchors

A source between anchors stands in a group of its own, after a test for the start of the text and before one
for its end. While the reader goes through the source it does what it does with the source alone, only with
that group at the bottom of its stack: `ReaderState.step_prolonged` says so of a step, `ReaderState.run_inside`
of the whole, which ends with the group closed or, after a comment, with nothing. What a sequence matches does
not depend on how it is simplified (`Form.spans_sequence`), so that the expression between anchors matches just
the texts that the expression alone matches from end to end: `Regex.spans_ofSource?_anchored`.
-/

namespace InterceptAddons.Pattern

open InterceptAddons.Text

/-! ### Reading a source between anchors -/

/-- The group around a source between anchors, as the reader keeps it while it reads the source. -/
def outermost : Frame := .group [.assertion .textStart] false [] false

def Ast.anchored (a : Ast) : Ast :=
  .sequence [.assertion .textStart, .group false [] a, .assertion .textEnd]

theorem closeAlternation_append (last : Ast) (stack : List Frame) :
    closeAlternation last (stack ++ [outermost]) =
      ((closeAlternation last stack).1, (closeAlternation last stack).2 ++ [outermost]) := by
  cases stack with
  | nil => rfl
  | cons frame stack => cases frame <;> rfl

namespace ReaderState

/-- The same state inside the outermost group. -/
def inside (s : ReaderState) : ReaderState := { s with stack := s.stack ++ [outermost] }

theorem inside_branch (s : ReaderState) : s.inside.branch = s.branch.inside := by
  obtain ⟨verbose, names, stack, items⟩ := s
  cases stack with
  | nil => rfl
  | cons frame stack => cases frame <;> rfl

theorem repeatLast_inside (s : ReaderState) (least : Nat) (most : Option Nat) (greedy : Bool) :
    Agrees (fun t t' => t' = t.inside) (s.repeatLast least most greedy)
      (s.inside.repeatLast least most greedy) := by
  obtain ⟨verbose, names, stack, items⟩ := s
  cases items with
  | nil => exact .none _
  | cons a items =>
    simp only [repeatLast, inside]
    split
    · exact .some rfl
    · exact .none _

theorem openGroup_inside (s : ReaderState) (start : GroupStart) :
    Agrees (fun t t' => t' = t.inside) (s.openGroup start) (s.inside.openGroup start) := by
  cases start with
  | flags changes => exact .some rfl
  | group captures changes name =>
    by_cases hname : name.any s.names.contains = true
    · rw [openGroup, if_pos hname]
      exact .none _
    · have hname' : ¬ name.any s.inside.names.contains = true := hname
      rw [openGroup, openGroup, if_neg hname, if_neg hname']
      exact .some rfl

theorem closeGroup_inside (s : ReaderState) :
    Agrees (fun t t' => t' = t.inside) s.closeGroup s.inside.closeGroup := by
  unfold closeGroup
  rw [show s.inside.stack = s.stack ++ [outermost] from rfl, show s.inside.items = s.items from rfl,
    closeAlternation_append]
  generalize closeAlternation (itemsAst s.items) s.stack = x
  obtain ⟨inner, _ | ⟨frame, stack⟩⟩ := x
  · exact .none _
  · cases frame with
    | alternation branches => exact .none _
    | group outer captures changes verbose => exact .some rfl

/-- The second state is the first inside the outermost group, with a prolonged rest. -/
def Inside (x y : ReaderState × List Char) : Prop := y.1 = x.1.inside ∧ Prolongs x.2 y.2

theorem repeat_prolonged (s : ReaderState) (least : Nat) (most : Option Nat) {cs cs' : List Char}
    (h : Prolongs cs cs') :
    Agrees Inside ((s.repeatLast least most (readGreed cs).1).map (·, (readGreed cs).2))
      ((s.inside.repeatLast least most (readGreed cs').1).map (·, (readGreed cs').2)) := by
  obtain ⟨hgreedy, hrest⟩ := readGreed_prolonged h
  rw [hgreedy]
  exact (repeatLast_inside s least most _).map fun _ _ ht => ⟨ht, hrest⟩

/-- **One step inside the outermost group** is the step outside of it, also with `closing` behind. -/
theorem step_prolonged (s : ReaderState) {cs cs' : List Char} (h : Prolongs cs cs') :
    Agrees Inside (s.step cs) (s.inside.step cs') := by
  cases h with
  | same => exact .none _
  | closed => exact .none _
  | @cons c cs cs' h =>
    unfold step
    split
    · exact .none _
    · next heq =>
      obtain ⟨rfl, rfl⟩ := List.cons.inj heq
      refine (readGroupStart_prolonged s.verbose h).bind ?_
      rintro ⟨start, rest⟩ ⟨_, rest'⟩ ⟨rfl, hrest⟩
      exact (openGroup_inside s start).bind fun _ _ ht => .some ⟨ht, hrest⟩
    · next heq =>
      obtain ⟨rfl, rfl⟩ := List.cons.inj heq
      exact (closeGroup_inside s).map fun _ _ ht => ⟨ht, h⟩
    · next heq =>
      obtain ⟨rfl, rfl⟩ := List.cons.inj heq
      exact .some ⟨inside_branch s, h⟩
    · next heq =>
      obtain ⟨rfl, rfl⟩ := List.cons.inj heq
      refine (readClass_prolonged s.verbose h).map ?_
      rintro ⟨negated, inner, rest⟩ ⟨_, _, rest'⟩ ⟨rfl, rfl, hrest⟩
      exact ⟨rfl, hrest⟩
    · next heq =>
      obtain ⟨rfl, rfl⟩ := List.cons.inj heq
      exact repeat_prolonged s 0 (some 1) h
    · next heq =>
      obtain ⟨rfl, rfl⟩ := List.cons.inj heq
      exact repeat_prolonged s 0 none h
    · next heq =>
      obtain ⟨rfl, rfl⟩ := List.cons.inj heq
      exact repeat_prolonged s 1 none h
    · next heq =>
      obtain ⟨rfl, rfl⟩ := List.cons.inj heq
      refine (readBounds_prolonged s.verbose h).bind ?_
      rintro ⟨least, most, greedy, rest⟩ ⟨_, _, _, rest'⟩ ⟨rfl, rfl, rfl, hrest⟩
      exact (repeatLast_inside s least most greedy).bind fun _ _ ht => .some ⟨ht, hrest⟩
    · next heq =>
      obtain ⟨rfl, rfl⟩ := List.cons.inj heq
      refine (readEscape_prolonged s.verbose h).bind ?_
      rintro ⟨p, rest⟩ ⟨_, rest'⟩ ⟨rfl, hrest⟩
      cases p <;> exact .some ⟨rfl, hrest⟩
    · next heq =>
      obtain ⟨rfl, rfl⟩ := List.cons.inj heq
      exact .some ⟨rfl, h⟩
    · next heq =>
      obtain ⟨rfl, rfl⟩ := List.cons.inj heq
      exact .some ⟨rfl, h⟩
    · next heq =>
      obtain ⟨rfl, rfl⟩ := List.cons.inj heq
      exact .some ⟨rfl, h⟩
    · next heq =>
      obtain ⟨rfl, rfl⟩ := List.cons.inj heq
      simp only
      exact .some ⟨rfl, h⟩

variable {s : ReaderState}

theorem finish_eq_some_iff {a : Ast} :
    s.finish = some a ↔ closeAlternation (itemsAst s.items) s.stack = (a, []) := by
  unfold finish
  generalize closeAlternation (itemsAst s.items) s.stack = x
  obtain ⟨b, _ | ⟨frame, stack⟩⟩ := x <;> simp

/-- Where a source ends, the group around it is still open. -/
theorem finish_inside {a : Ast} (h : s.finish = some a) : s.inside.finish = none := by
  rw [finish_eq_some_iff] at h
  unfold finish
  rw [show s.inside.stack = s.stack ++ [outermost] from rfl, show s.inside.items = s.items from rfl,
    closeAlternation_append, h]
  rfl

/-- Where a source ends, `closing` closes the group around it. -/
theorem run_closing {a : Ast} (h : s.finish = some a) (n : Nat) :
    (s.inside.step closing).bind (fun x => run (n + 2) x.1 x.2) = some a.anchored := by
  rw [finish_eq_some_iff] at h
  have hclose : s.inside.closeGroup =
      some { s with verbose := false, stack := [], items := [.group false [] a, .assertion .textStart] } := by
    unfold closeGroup
    rw [show s.inside.stack = s.stack ++ [outermost] from rfl, show s.inside.items = s.items from rfl,
      closeAlternation_append, h]
    rfl
  rw [closing, step, hclose]
  rfl

/-- **Between anchors** a source is read as it is alone, or not at all. -/
theorem run_inside {n m : Nat} (hn : n + 2 ≤ m) {cs cs' : List Char} (h : Prolongs cs cs') {a a' : Ast}
    (hrun : run n s cs = some a) (hrun' : run m s.inside cs' = some a') : a' = a.anchored := by
  induction n generalizing m s cs cs' with
  | zero => exact absurd hrun nofun
  | succ n ih =>
    obtain ⟨m, rfl⟩ : ∃ k, m = k + 3 := ⟨m - 3, by omega⟩
    have hskip := h.skip s.verbose
    simp only [run] at hrun
    rw [run.eq_2, show s.inside.verbose = s.verbose from rfl] at hrun'
    -- the layout before the next step ends the source, opens up `closing` or leaves a character of the source
    generalize skip s.verbose cs = ds at hskip hrun
    generalize skip s.verbose cs' = ds' at hskip hrun'
    cases hskip with
    | same =>
      rw [finish_inside hrun] at hrun'
      exact absurd hrun' nofun
    | closed =>
      exact (Option.some.inj ((run_closing hrun m).symm.trans hrun')).symm
    | cons c hrest =>
      simp only at hrun hrun'
      obtain ⟨⟨t, rest⟩, hstep, hrun⟩ := Option.bind_eq_some_iff.1 hrun
      obtain ⟨⟨_, rest'⟩, hstep', rfl, hrest'⟩ := step_prolonged s (hrest.cons c) _ hstep
      rw [hstep'] at hrun'
      exact ih (by omega) hrest' hrun hrun'

end ReaderState

theorem toList_anchored (source : String) :
    (Pattern.anchored source).toList = '\\' :: 'A' :: '(' :: '?' :: ':' :: (source.toList ++ closing) := by
  have hopen : "\\A(?:".toList = ['\\', 'A', '(', '?', ':'] := by decide +kernel
  have hclose : ")\\z".toList = closing := by decide +kernel
  rw [Pattern.anchored, String.toList_append, String.toList_append, hopen, hclose]
  simp

/-- What is read between anchors is the expression that the source alone is, between two tests. -/
theorem Ast.read?_anchored {source : String} {a a' : Ast} (h : Ast.read? source = some a)
    (h' : Ast.read? (Pattern.anchored source) = some a') : a' = a.anchored := by
  obtain ⟨b, hrun, hdepth⟩ := Option.bind_eq_some_iff.1 h
  obtain ⟨b', hrun', hdepth'⟩ := Option.bind_eq_some_iff.1 h'
  obtain ⟨-, ⟨⟩⟩ := Option.ite_none_right_eq_some.1 hdepth
  obtain ⟨-, ⟨⟩⟩ := Option.ite_none_right_eq_some.1 hdepth'
  rw [toList_anchored] at hrun'
  have hlength : source.toList.length + 1 + 2 ≤ (source.toList ++ closing).length + 4 := by
    simp [closing]
  exact ReaderState.run_inside hlength (.append_closing _) hrun hrun'

/-! ### Matches of sequences -/

section Sequences

variable (text : List Char)

/-- Matches of some expressions one after another lead from one place to another. -/
def Regex.SpansAll : List Regex → Nat → Nat → Prop
  | [], i, j => i = j
  | r :: rs, i, j => ∃ m, r.Spans text i m ∧ SpansAll rs m j

theorem spansAll_append (rs ss : List Regex) (i j : Nat) :
    Regex.SpansAll text (rs ++ ss) i j ↔ ∃ m, Regex.SpansAll text rs i m ∧ Regex.SpansAll text ss m j := by
  induction rs generalizing i with
  | nil => simp [Regex.SpansAll]
  | cons r rs ih =>
    simp only [List.cons_append, Regex.SpansAll, ih]
    constructor
    · rintro ⟨p, hr, m, hrs, hss⟩
      exact ⟨m, ⟨p, hr, hrs⟩, hss⟩
    · rintro ⟨m, ⟨p, hr, hrs⟩, hss⟩
      exact ⟨p, hr, m, hrs, hss⟩

theorem spansAll_singleton (r : Regex) (i j : Nat) : Regex.SpansAll text [r] i j ↔ r.Spans text i j := by
  simp [Regex.SpansAll]

theorem spans_catAll (rs : List Regex) (i j : Nat) :
    (Regex.catAll rs).Spans text i j ↔ Regex.SpansAll text rs i j := by
  induction rs generalizing i with
  | nil => rfl
  | cons r rs ih =>
    cases rs with
    | nil => exact (spansAll_singleton text r i j).symm
    | cons s rs => simp only [Regex.catAll, Regex.Spans, Regex.SpansAll, ih]

namespace Form

theorem regexes_eq_map (fs : List Form) : regexes fs = fs.map regex := by
  induction fs with
  | nil => rfl
  | cons f fs ih => rw [regexes, ih, List.map_cons]

theorem spansAll_items (f : Form) (i j : Nat) :
    Regex.SpansAll text (f.items.map regex) i j ↔ f.regex.Spans text i j := by
  cases f with
  | empty => rfl
  | cat fs => rw [regex, spans_catAll, regexes_eq_map, items]
  | _ => exact spansAll_singleton text _ i j

theorem spansAll_flatMap_items (fs : List Form) (i j : Nat) :
    Regex.SpansAll text ((fs.flatMap items).map regex) i j ↔ Regex.SpansAll text (fs.map regex) i j := by
  induction fs generalizing i with
  | nil => rfl
  | cons f fs ih =>
    rw [List.flatMap_cons, List.map_append, spansAll_append]
    simp only [spansAll_items, ih, List.map_cons, Regex.SpansAll]

/-- Literals that are joined match what they match one after the other. -/
theorem spansAll_joinLiterals (fs : List Form) (i j : Nat) :
    Regex.SpansAll text ((joinLiterals fs).map regex) i j ↔ Regex.SpansAll text (fs.map regex) i j := by
  induction fs using joinLiterals.induct generalizing i with
  | case1 => rfl
  | case2 a fs b more hmore ih =>
    have hliteral (i m : Nat) : (Form.literal (a ++ b)).regex.Spans text i m ↔
        ∃ k, (Form.literal a).regex.Spans text i k ∧ (Form.literal b).regex.Spans text k m := by
      simp only [regex, spans_catAll, List.map_append, spansAll_append]
    simp only [joinLiterals, hmore, List.map_cons, Regex.SpansAll, hliteral]
    simp only [hmore, List.map_cons, Regex.SpansAll] at ih
    constructor
    · rintro ⟨m, ⟨k, ha, hb⟩, hrest⟩
      exact ⟨k, ha, (ih k).1 ⟨m, hb, hrest⟩⟩
    · rintro ⟨k, ha, hfs⟩
      obtain ⟨m, hb, hrest⟩ := (ih k).2 hfs
      exact ⟨m, ⟨k, ha, hb⟩, hrest⟩
  | case3 a fs hmore ih =>
    simp only [joinLiterals, List.map_cons, Regex.SpansAll, ih]
  | case4 f fs hf ih => simp only [joinLiterals, List.map_cons, Regex.SpansAll, ih]

theorem spans_sequence (fs : List Form) (i j : Nat) :
    (sequence fs).regex.Spans text i j ↔ Regex.SpansAll text (fs.map regex) i j := by
  rw [← spansAll_flatMap_items, ← spansAll_joinLiterals, sequence]
  split
  · next hnil =>
    rw [hnil]
    rfl
  · next f hf =>
    rw [hf]
    exact (spansAll_singleton text _ i j).symm
  · rw [regex, spans_catAll, regexes_eq_map]

end Form

end Sequences

/-! ### The expression between anchors -/

/-- No flag changes between anchors. -/
theorem Ast.form?_anchored {a : Ast} {flags flags' : Flags} {f : Form} (h : a.form? flags = some (f, flags')) :
    a.anchored.form? flags = some (.sequence [.look .textStart, f, .look .textEnd], flags) := by
  have hflags : flags.change [] = flags := rfl
  simp [Ast.anchored, Ast.form?, Ast.forms?, hflags, h, Flags.look]

variable {text : List Char}

theorem before?_isNone {i : Nat} (hi : i ≤ text.length) : (before? text i).isNone = true ↔ i = 0 := by
  unfold before?
  split
  · next hzero => simp [hzero]
  · next hpos => simp only [Option.isNone_iff_eq_none, List.getElem?_eq_none_iff]; omega

/-- An expression between tests for the ends of the text matches only the whole text. -/
theorem spans_anchored (f : Form) {i : Nat} (hi : i ≤ text.length) (j : Nat) :
    (Form.sequence [.look .textStart, f, .look .textEnd]).regex.Spans text i j ↔
      i = 0 ∧ j = text.length ∧ f.regex.Spans text 0 text.length := by
  rw [Form.spans_sequence]
  simp only [List.map_cons, List.map_nil, Regex.SpansAll, Form.regex, Regex.Spans, Look.holds, before?_isNone hi]
  constructor
  · rintro ⟨_, ⟨rfl, rfl⟩, m, hf, _, ⟨rfl, hend⟩, rfl⟩
    have hle := (f.regex.spans_forward text).le_length hf hi
    have hm : m = text.length := by
      rw [Option.isNone_iff_eq_none, List.getElem?_eq_none_iff] at hend
      omega
    subst hm
    exact ⟨rfl, rfl, hf⟩
  · rintro ⟨rfl, rfl, hf⟩
    exact ⟨0, ⟨rfl, rfl⟩, text.length, hf, text.length, ⟨rfl, by simp⟩, rfl⟩

namespace Regex

variable {source : String} {r re : Regex}

/-- **Compiled between anchors** a source matches a text exactly from end to end, and there exactly where it
does so alone. -/
theorem spans_ofSource?_anchored (h : ofSource? source = some r)
    (h' : ofSource? (Pattern.anchored source) = some re) {i : Nat} (hi : i ≤ text.length) (j : Nat) :
    re.Spans text i j ↔ i = 0 ∧ j = text.length ∧ r.Spans text 0 text.length := by
  obtain ⟨a, hread, h⟩ := Option.bind_eq_some_iff.1 h
  obtain ⟨⟨f, flags⟩, hform, h⟩ := Option.bind_eq_some_iff.1 h
  obtain ⟨-, ⟨⟩⟩ := Option.ite_none_right_eq_some.1 h
  obtain ⟨a', hread', h'⟩ := Option.bind_eq_some_iff.1 h'
  obtain ⟨⟨f', flags'⟩, hform', h'⟩ := Option.bind_eq_some_iff.1 h'
  obtain ⟨-, ⟨⟩⟩ := Option.ite_none_right_eq_some.1 h'
  obtain rfl := Ast.read?_anchored hread hread'
  obtain ⟨rfl, -⟩ := Prod.mk.inj (Option.some.inj ((Ast.form?_anchored hform).symm.trans hform'))
  exact spans_anchored f hi j

/-- A search for the expression between anchors asks whether the expression alone matches from end to end. -/
theorem matchesPart_anchored (h : ofSource? source = some r)
    (h' : ofSource? (Pattern.anchored source) = some re) (text : List Char) :
    re.matchesPart text = r.matchesAll text := by
  rw [Bool.eq_iff_iff, matchesPart_iff, matchesAll_iff]
  constructor
  · rintro ⟨i, hi, j, hij⟩
    exact ((spans_ofSource?_anchored h h' hi j).1 hij).2.2
  · intro hspans
    exact ⟨0, Nat.zero_le _, text.length, (spans_ofSource?_anchored h h' (Nat.zero_le _) _).2 ⟨rfl, rfl, hspans⟩⟩

end Regex

end InterceptAddons.Pattern
