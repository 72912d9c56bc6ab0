import InterceptAddons.Text.Unicode.Blank

/-!
# White space and comments in patterns

In verbose mode white space is skipped, and so is everything from `#` to the end of its line. Skipping
never makes the rest longer, which bounds the readers.
-/

namespace InterceptAddons.Pattern

open InterceptAddons.Text

/-- Drops white space and comments; the flag says whether the text starts inside a comment. -/
def dropLayout : Bool → List Char → List Char
  | _, [] => []
  | true, c :: cs => dropLayout (c != '\n') cs
  | false, c :: cs =>
    if isBlank c then dropLayout false cs
    else if c = '#' then dropLayout true cs
    else c :: cs

/-- The rest of the pattern after the layout that the mode allows. -/
def skip (verbose : Bool) (cs : List Char) : List Char :=
  if verbose then dropLayout false cs else cs

theorem length_dropLayout_le (inComment : Bool) (cs : List Char) :
    (dropLayout inComment cs).length ≤ cs.length := by
  induction cs generalizing inComment with
  | nil => cases inComment <;> simp [dropLayout]
  | cons c cs ih =>
    cases inComment with
    | true => exact Nat.le_succ_of_le (ih _)
    | false =>
      simp only [dropLayout]
      split
      · exact Nat.le_succ_of_le (ih _)
      · split
        · exact Nat.le_succ_of_le (ih _)
        · exact Nat.le_refl _

theorem length_skip_le (verbose : Bool) (cs : List Char) : (skip verbose cs).length ≤ cs.length := by
  unfold skip
  split
  · exact length_dropLayout_le _ _
  · exact Nat.le_refl _

/-- The next character past white space and one `#`, looked at without moving. -/
def peekPastBlank : Bool → List Char → Option Char
  | _, [] => none
  | seen, c :: cs =>
    if isBlank c then peekPastBlank seen cs
    else if c = '#' && !seen then peekPastBlank true cs
    else some c

/-- The next character that the mode does not skip. -/
def peek (verbose : Bool) (cs : List Char) : Option Char :=
  if verbose then peekPastBlank false cs else cs.head?

/-! ### Numbers -/

/-- Drops white space, and after each piece of it the layout that the mode allows. -/
def dropBlanks (verbose : Bool) : List Char → List Char
  | [] => []
  | c :: cs => if isBlank c then dropBlanks verbose (skip verbose cs) else c :: cs
termination_by cs => cs.length
decreasing_by exact Nat.lt_succ_of_le (length_skip_le _ _)

/-- The leading characters that satisfy `p`, with layout skipped after each, and the rest. -/
def takeSpaced (verbose : Bool) (p : Char → Bool) : List Char → List Char × List Char
  | [] => ([], [])
  | c :: cs =>
    if p c then
      let (taken, rest) := takeSpaced verbose p (skip verbose cs)
      (c :: taken, rest)
    else ([], c :: cs)
termination_by cs => cs.length
decreasing_by exact Nat.lt_succ_of_le (length_skip_le _ _)

def decimalValue (ds : List Char) : Nat := ds.foldl (fun n d => 10 * n + (d.toNat - '0'.toNat)) 0

/-- A decimal number of at most 32 bits, between optional white space; none if no digit is there or the
number is too large. -/
def readDecimal (verbose : Bool) (cs : List Char) : Option Nat × List Char :=
  let (ds, rest) := takeSpaced verbose Char.isDigit (cs.dropWhile isBlank)
  let value := decimalValue ds
  (if ds.isEmpty || value ≥ 0x100000000 then none else some value, dropBlanks verbose rest)

end InterceptAddons.Pattern
