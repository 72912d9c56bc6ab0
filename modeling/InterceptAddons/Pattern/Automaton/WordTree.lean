import InterceptAddons.Pattern.Automaton.Build
import InterceptAddons.Pattern.Form
import InterceptAddons.Text.Utf8

/-!
# The states of a choice between words

A choice between literals is a tree in which words that start alike share their start, as far as that
leaves the order in which they are preferred.
-/

namespace InterceptAddons.Pattern

open InterceptAddons.Text

/-- Cuts a list of words after each empty one, which is left out. -/
def wordRuns : List (List UInt8) → List (List (List UInt8))
  | [] => [[]]
  | [] :: ws => [] :: wordRuns ws
  | w :: ws =>
    match wordRuns ws with
    | run :: runs => (w :: run) :: runs
    | [] => [[w]]

/-- The states and the octets of links of a tree of words, the earlier ones preferred. A node has links
for the first octets of each run of words, and one link for each place where a word ends between runs. A
node where words only end needs no state of its own. No word is longer than `depth`. -/
def treeSize : Nat → List (List UInt8) → Nat × Nat
  | 0, _ => (0, 0)
  | depth + 1, words =>
    if words.all List.isEmpty then (0, 0)
    else
      let later := words.dropWhile List.isEmpty
      let runs := wordRuns (if later.length = words.length then words else [] :: later)
      let filled := runs.filter fun run => !run.isEmpty
      let nodeLinks := plainLink * (filled.length + runs.length - 1)
      filled.foldl
        (fun (states, links) run =>
          let firsts := (run.filterMap List.head?).eraseDups
          let sizes := firsts.map fun b =>
            treeSize depth ((run.filter fun w => w.head? == some b).map List.tail)
          (states + 1 + (sizes.map Prod.fst).foldl (· + ·) 0,
            links + (if firsts.length = 1 then 0 else rangeLink * firsts.length) +
              (sizes.map Prod.snd).foldl (· + ·) 0))
        (1, nodeLinks)

def Form.word? : Form → Option (List UInt8)
  | .literal cs => some (encode cs)
  | _ => none

def wordsBuild (d : Direction) (words : List (List UInt8)) : Build :=
  let words := if d = .forward then words else words.map List.reverse
  let depth := (words.map List.length).foldl Nat.max 0 + 1
  let (states, links) := treeSize depth words
  .states (states + 1) links

end InterceptAddons.Pattern
