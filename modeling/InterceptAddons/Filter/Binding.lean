import InterceptAddons.Filter.EvalError
import InterceptAddons.Filter.Predicate

/-!
# Binding

Resolves the predicates of an expression and fits their arguments to the parameters. Every predicate is
resolved, also one that evaluation would pass over; the first fault from left to right is reported.
-/

namespace InterceptAddons.Filter

/-- An expression whose predicates are resolved. -/
inductive Bound
  | all (bs : List Bound)
  | any (bs : List Bound)
  | not (b : Bound)
  | predicate (p : Predicate) (args : List Literal)

/-- Fits an argument to a parameter of some kind: a text passes for a pattern if it compiles, and a pattern
for its source. -/
def Kind.fit (k : Kind) (index : Nat) (arg : Literal) : Except ArgumentFault Literal :=
  match k, arg with
  | .str, .str s => .ok (.str s)
  | .str, .regex p => .ok (.str p.source)
  | .pattern, .regex p => .ok (.regex p)
  | .pattern, .str s =>
    match Pattern.compile? s with
    | some p => .ok (.regex p)
    | none => .error (.invalidRegex index)
  | .bool, .bool b => .ok (.bool b)
  | .int, .int n => .ok (.int n)
  | k, arg => .error (.wrongKind index k.name arg.kindName)

/-- Fits the arguments from position `i` on. -/
def Predicate.fitFrom (p : Predicate) (i : Nat) : List Literal → Except ArgumentFault (List Literal)
  | [] => .ok []
  | arg :: args =>
    match p.param? i with
    | none => .error (.unexpected (i + 1))
    | some k => (k.fit (i + 1) arg).bind fun arg => (p.fitFrom (i + 1) args).map (arg :: ·)

/-- Fits all arguments; their number comes first. -/
def Predicate.fitArgs (p : Predicate) (args : List Literal) : Except ArgumentFault (List Literal) :=
  if p.accepts args.length then p.fitFrom 0 args
  else .error (.count p.isVariadic p.params.length args.length)

/-- Resolves a predicate by its name and fits its arguments. -/
def bindPredicate (name : String) (args : List Literal) : Except EvalError Bound :=
  match Predicate.find? name with
  | none => .error (.unknownPredicate name)
  | some p =>
    match p.fitArgs args with
    | .ok args => .ok (.predicate p args)
    | .error fault => .error (.badArguments p.name fault)

mutual

/-- Resolves an expression. -/
def Expr.bind : Expr → Except EvalError Bound
  | .all es => (bindList es).map .all
  | .any es => (bindList es).map .any
  | .not e => (Expr.bind e).map .not
  | .predicate name args => bindPredicate name args

def bindList : List Expr → Except EvalError (List Bound)
  | [] => .ok []
  | e :: es => (Expr.bind e).bind fun b => (bindList es).map (b :: ·)

end

end InterceptAddons.Filter
