import InterceptAddons.Filter.Binding

/-!
# Evaluation

Evaluates a resolved expression from left to right and stops as soon as the result is known. A predicate
for responses only is an error on a request, unless evaluation stops before it.
-/

namespace InterceptAddons.Filter

def Predicate.eval (p : Predicate) (args : List Literal) (facts : Facts) : Except EvalError Bool :=
  if p.isResponseOnly && facts.kind == .request then .error (.invalidTarget p.name .request)
  else .ok (p.test.run args facts)

mutual

def Bound.eval (facts : Facts) : Bound → Except EvalError Bool
  | .all bs => evalAll facts bs
  | .any bs => evalAny facts bs
  | .not b => (Bound.eval facts b).map (!·)
  | .predicate p args => p.eval args facts

/-- Whether all expressions hold; nothing is evaluated after one that does not. -/
def evalAll (facts : Facts) : List Bound → Except EvalError Bool
  | [] => .ok true
  | b :: bs => (Bound.eval facts b).bind fun r => if r then evalAll facts bs else .ok false

/-- Whether some expression holds; nothing is evaluated after one that does. -/
def evalAny (facts : Facts) : List Bound → Except EvalError Bool
  | [] => .ok false
  | b :: bs => (Bound.eval facts b).bind fun r => if r then .ok true else evalAny facts bs

end

/-- The result of an expression, after all its predicates have been resolved. -/
def Expr.eval (e : Expr) (facts : Facts) : Except EvalError Bool := e.bind.bind (Bound.eval facts)

end InterceptAddons.Filter
