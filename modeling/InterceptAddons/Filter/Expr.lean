import InterceptAddons.Pattern.Basic

/-!
# Filter expressions

The syntax tree of the filter language. The empty conjunction is the constant true and the empty
disjunction the constant false. Literals are compared by value, patterns by their source.
-/

namespace InterceptAddons.Filter

/-- An argument of a predicate. -/
inductive Literal
  | str (s : String)
  | regex (p : Pattern)
  | bool (b : Bool)
  | int (n : Int64)
  deriving DecidableEq

/-- A filter expression. -/
inductive Expr
  | all (es : List Expr)
  | any (es : List Expr)
  | not (e : Expr)
  | predicate (name : String) (args : List Literal)

namespace Literal

/-- The text of a string, or the source of a pattern. -/
def str? : Literal → Option String
  | .str s => some s
  | .regex p => some p.source
  | _ => none

def pattern? : Literal → Option Pattern
  | .regex p => some p
  | _ => none

def bool? : Literal → Option Bool
  | .bool b => some b
  | _ => none

def int? : Literal → Option Int64
  | .int n => some n
  | _ => none

/-- What kind of literal it is, for messages. -/
def kindName : Literal → String
  | .str _ => "string"
  | .regex _ => "regex"
  | .bool _ => "boolean"
  | .int _ => "integer"

end Literal

namespace Expr

def always : Expr := .all []

def never : Expr := .any []

def const (b : Bool) : Expr := if b then always else never

/-- A predicate by its name in any letter case. -/
def call (name : String) (args : List Literal) : Expr := .predicate name.toLower args

def isAlways : Expr → Bool
  | .all [] => true
  | _ => false

/-! ### Equality -/

mutual

def beq : Expr → Expr → Bool
  | .all es, .all fs => beqList es fs
  | .any es, .any fs => beqList es fs
  | .not e, .not f => beq e f
  | .predicate n as, .predicate m bs => n == m && as == bs
  | _, _ => false

def beqList : List Expr → List Expr → Bool
  | [], [] => true
  | e :: es, f :: fs => beq e f && beqList es fs
  | _, _ => false

end

mutual

theorem eq_of_beq : ∀ (e f : Expr), beq e f = true → e = f
  | .all es, .all fs, h => by rw [eq_of_beqList es fs (by simpa [beq] using h)]
  | .any es, .any fs, h => by rw [eq_of_beqList es fs (by simpa [beq] using h)]
  | .not e, .not f, h => by rw [eq_of_beq e f (by simpa [beq] using h)]
  | .predicate n as, .predicate m bs, h => by
    obtain ⟨rfl, rfl⟩ := (by simpa [beq] using h : n = m ∧ as = bs)
    rfl
  | .all _, .any _, h | .all _, .not _, h | .all _, .predicate _ _, h
  | .any _, .all _, h | .any _, .not _, h | .any _, .predicate _ _, h
  | .not _, .all _, h | .not _, .any _, h | .not _, .predicate _ _, h
  | .predicate _ _, .all _, h | .predicate _ _, .any _, h | .predicate _ _, .not _, h => by
    simp [beq] at h

theorem eq_of_beqList : ∀ (es fs : List Expr), beqList es fs = true → es = fs
  | [], [], _ => rfl
  | e :: es, f :: fs, h => by
    obtain ⟨h₁, h₂⟩ := (by simpa [beqList] using h : beq e f = true ∧ beqList es fs = true)
    rw [eq_of_beq e f h₁, eq_of_beqList es fs h₂]
  | [], _ :: _, h | _ :: _, [], h => by simp [beqList] at h

end

mutual

theorem beq_refl : ∀ e : Expr, beq e e = true
  | .all es => by simpa [beq] using beqList_refl es
  | .any es => by simpa [beq] using beqList_refl es
  | .not e => by simpa [beq] using beq_refl e
  | .predicate n as => by simp [beq]

theorem beqList_refl : ∀ es : List Expr, beqList es es = true
  | [] => rfl
  | e :: es => by simp [beqList, beq_refl e, beqList_refl es]

end

instance : DecidableEq Expr := fun e f =>
  decidable_of_iff (beq e f = true) ⟨eq_of_beq e f, fun h => h ▸ beq_refl e⟩

end Expr

end InterceptAddons.Filter
