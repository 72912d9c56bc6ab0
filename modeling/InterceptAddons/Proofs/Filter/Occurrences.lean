import InterceptAddons.Filter.Binding
import InterceptAddons.Proofs.Results

/-!
# Predicates in expressions

`Expr.occurrences` lists the predicates that stand in an expression, from left to right, whether or not they are
evaluated. Main statement: `error?_bind`, binding reports the first fault among them.
-/

namespace InterceptAddons.Filter

/-! ### Occurrences -/

/-- A predicate in an expression. Its place tells which branch to take at every level down to it. -/
structure Occurrence where
  place : List Nat
  name : String
  args : List Literal
  deriving DecidableEq

mutual

/-- The predicates of an expression that stands at a place. -/
def Expr.occurrences (place : List Nat) : Expr → List Occurrence
  | .all es | .any es => Expr.occurrencesFrom place 0 es
  | .not e => e.occurrences (place ++ [0])
  | .predicate name args => [⟨place, name, args⟩]

def Expr.occurrencesFrom (place : List Nat) (i : Nat) : List Expr → List Occurrence
  | [] => []
  | e :: es => e.occurrences (place ++ [i]) ++ Expr.occurrencesFrom place (i + 1) es

end

/-! ### Errors -/

section

variable {ε α β : Type}

def error? : Except ε α → Option ε
  | .ok _ => none
  | .error err => some err

theorem error?_eq_some_iff {x : Except ε α} {err : ε} : error? x = some err ↔ x = .error err := by
  cases x <;> simp [error?]

theorem error?_eq_none_iff {x : Except ε α} : error? x = none ↔ ∃ a, x = .ok a := by
  cases x <;> simp [error?]

@[simp] theorem error?_map (f : α → β) (x : Except ε α) : error? (x.map f) = error? x := by
  cases x <;> rfl

theorem error?_bind_map (x : Except ε α) (y : Except ε β) (f : α → β → β) :
    error? (x.bind fun a => y.map (f a)) = (error? x).or (error? y) := by
  cases x with
  | ok a => exact error?_map (f a) y
  | error err => rfl

end

/-! ### Binding -/

def Occurrence.error? (o : Occurrence) : Option EvalError := Filter.error? (bindPredicate o.name o.args)

theorem bindList_cons_eq_ok {e : Expr} {es : List Expr} {bs : List Bound} (h : bindList (e :: es) = .ok bs) :
    ∃ b bs', e.bind = .ok b ∧ bindList es = .ok bs' ∧ bs = b :: bs' := by
  obtain ⟨b, hb, h⟩ := bind_eq_ok h
  obtain ⟨bs', hs, rfl⟩ := map_eq_ok h
  exact ⟨b, bs', hb, hs, rfl⟩

mutual

/-- **Binding reports the first fault** among the predicates of an expression. -/
theorem error?_bind : ∀ (e : Expr) (place : List Nat),
    error? e.bind = (e.occurrences place).findSome? Occurrence.error?
  | .all es, place => by
    rw [Expr.bind, error?_map, Expr.occurrences]
    exact error?_bindList es place 0
  | .any es, place => by
    rw [Expr.bind, error?_map, Expr.occurrences]
    exact error?_bindList es place 0
  | .not e, place => by
    rw [Expr.bind, error?_map, Expr.occurrences]
    exact error?_bind e (place ++ [0])
  | .predicate name args, place => by
    rw [Expr.bind, Expr.occurrences, List.findSome?_singleton, Occurrence.error?]

theorem error?_bindList : ∀ (es : List Expr) (place : List Nat) (i : Nat),
    error? (bindList es) = (Expr.occurrencesFrom place i es).findSome? Occurrence.error?
  | [], _, _ => rfl
  | e :: es, place, i => by
    rw [bindList, error?_bind_map, Expr.occurrencesFrom, List.findSome?_append, error?_bind e,
      error?_bindList es]

end

end InterceptAddons.Filter
