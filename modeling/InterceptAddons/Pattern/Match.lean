import InterceptAddons.Pattern.Regex

/-!
# Matching

A set of places in a text is a number whose bit `i` stands for the place before character `i`. For one
text an expression becomes a `Plan`, in which every set of characters and every test is the set of
places where it holds; `Plan.run` sends the places where a match may start to those where it may end.
-/

namespace InterceptAddons.Pattern

open InterceptAddons.Text

/-! ### Where the tests of an expression hold -/

def allPlaces (text : List Char) : Nat := (1 <<< (text.length + 1)) - 1

/-- The places before a character of the set. -/
def setPlaces (s : CharSet) : List Char → Nat
  | [] => 0
  | c :: cs => (s.contains c).toNat + 2 * setPlaces s cs

/-- The places where a test holds, in a text that follows the character `before`. -/
def lookPlaces (l : Look) (before : Option Char) : List Char → Nat
  | [] => (l.holds before none).toNat
  | c :: cs => (l.holds before (some c)).toNat + 2 * lookPlaces l (some c) cs

/-- An expression laid out over one text. -/
inductive Plan
  | stay (places : Nat)
  | advance (places : Nat)
  | cat (a b : Plan)
  | alt (a b : Plan)
  | rep (p : Plan) (min : Nat) (max : Option Nat)
  deriving Repr

/-- Lays an expression out over a text. -/
def Plan.of (text : List Char) : Regex → Plan
  | .empty => .stay (allPlaces text)
  | .set s => .advance (setPlaces s text)
  | .look l => .stay (lookPlaces l none text)
  | .cat a b => .cat (.of text a) (.of text b)
  | .alt a b => .alt (.of text a) (.of text b)
  | .rep r min max _ => .rep (.of text r) min max

/-! ### Running a plan -/

/-- The result of `k` steps, cut short where a step changes nothing. -/
def exactly (f : Nat → Nat) : Nat → Nat → Nat
  | 0, places => places
  | k + 1, places => if f places = places then places else exactly f k (f places)

/-- All results of at most `k` steps, cut short where a step adds nothing. -/
def upTo (f : Nat → Nat) : Nat → Nat → Nat
  | 0, places => places
  | k + 1, places =>
    if places ||| f places = places then places else upTo f k (places ||| f places)

/-- Sends the places where a match may start to those where it may end. In a text of `n` characters
more than `n` repetitions lead nowhere new. -/
def Plan.run (n : Nat) : Plan → Nat → Nat
  | .stay m, places => places &&& m
  | .advance m, places => (places &&& m) <<< 1
  | .cat a b, places => b.run n (a.run n places)
  | .alt a b, places => a.run n places ||| b.run n places
  | .rep p min max, places =>
    upTo (p.run n) ((max.map (· - min)).getD n) (exactly (p.run n) min places)

/-- The places where a match that starts at one of the given places may end. -/
def Regex.ends (r : Regex) (text : List Char) (places : Nat) : Nat :=
  (Plan.of text r).run text.length places

def Regex.matchesPart (r : Regex) (text : List Char) : Bool := r.ends text (allPlaces text) != 0

def Regex.matchesAll (r : Regex) (text : List Char) : Bool := (r.ends text 1).testBit text.length

end InterceptAddons.Pattern
