import InterceptAddons.Pattern.Automaton.SetStates
import InterceptAddons.Pattern.Automaton.WordTree

/-!
# The size of an automaton

A pattern is searched for by two automata over octets, one that reads forward and remembers groups and
one that reads backward. `Form.fits` says whether both stay within the limit.
-/

namespace InterceptAddons.Pattern

open InterceptAddons.Text

/-- The making of a repetition; `takes` says that every match of the part takes a character. -/
def repBuild (part : Build) (takes : Bool) (min : Nat) : Option Nat → Build
  | none =>
    if min = 0 then
      if takes then (Build.states 1 (2 * plainLink)).seq part
      else part.seq (.states 3 (4 * plainLink))
    else (part.times min).seq (.states 1 (2 * plainLink))
  | some max =>
    let optional := (Build.states 1 (2 * plainLink)).seq part
    if min = max then part.times min
    else if min = 0 ∧ max = 1 then optional.seq (.states 1 0)
    else
      (if min = 0 then Build.states 1 0 else part.times min).seq
        ((Build.states 1 0).seq (optional.times (max - min)))

/-- The making of a choice: the branches meet in one state, which is made after the second of them. -/
def altBuild : List Build → Build
  | a :: b :: rest =>
    a.seq (b.seq ((Build.states 2 (plainLink * (rest.length + 2))).seq (.all rest)))
  | parts => .all parts

mutual

/-- The making of a form. An automaton that reads backward makes the last item of a sequence first and
leaves groups out. -/
def Form.build (d : Direction) : Form → Build
  | .empty | .look _ => .states 1 0
  | .literal cs => .states (byteSize cs) 0
  | .set s => setBuild d s
  | .rep f min max _ => repBuild (f.build d) (f.minLength.any (0 < ·)) min max
  | .capture f =>
    match d with
    | .forward => (Build.states 1 0).seq ((f.build d).seq (.states 1 0))
    | .backward => f.build d
  | .cat fs => .all (if d = .forward then Form.builds d fs else (Form.builds d fs).reverse)
  | .alt fs =>
    match fs.mapM Form.word? with
    | some words => wordsBuild d words
    | none => altBuild (Form.builds d fs)

def Form.builds (d : Direction) : List Form → List Build
  | [] => []
  | f :: fs => f.build d :: Form.builds d fs

end

/-- The making of a whole automaton: a loop that skips the text before a match, unless matches start where
the reading does; the form; and the state that accepts. The whole match counts as a group. -/
def Form.buildAll (d : Direction) (f : Form) : Build :=
  let anchored := match d with
    | .forward => f.startsWith .textStart
    | .backward => f.endsWith .textEnd
  (if anchored then Build.states 1 0 else .states 3 (rangeLink + 2 * plainLink)).seq
    (((Form.capture f).build d).seq (.states 1 0))

/-- Whether both automata of a form stay within the limit. -/
def Form.fits (f : Form) : Bool :=
  ((f.buildAll .forward).run {}).isSome && ((f.buildAll .backward).run {}).isSome

end InterceptAddons.Pattern
