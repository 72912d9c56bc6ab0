import InterceptAddons.Http.Traffic

/-!
# Evaluation errors

Why a filter that could be read cannot be applied to a message.
-/

namespace InterceptAddons.Filter

open Http

/-- What is wrong with the arguments of a predicate; arguments are counted from one. -/
inductive ArgumentFault
  | count (atLeast : Bool) (expected found : Nat)
  | unexpected (index : Nat)
  | invalidRegex (index : Nat)
  | wrongKind (index : Nat) (expected found : String)
  | other (message : String)
  deriving Repr, DecidableEq

def ArgumentFault.message : ArgumentFault → String
  | .count atLeast expected found =>
    "expected " ++ (if atLeast then "at least " else "") ++ toString expected ++
      " argument(s), found " ++ toString found
  | .unexpected index => "unexpected argument " ++ toString index
  | .invalidRegex index => "argument " ++ toString index ++ " is not a valid regex"
  | .wrongKind index expected found =>
    "argument " ++ toString index ++ " must be " ++ expected ++ ", found " ++ found
  | .other message => message

/-- Why a filter cannot be applied. -/
inductive EvalError
  | unknownPredicate (name : String)
  | badArguments (name : String) (fault : ArgumentFault)
  | invalidTarget (name : String) (kind : EventKind)
  deriving Repr, DecidableEq

def EvalError.message : EvalError → String
  | .unknownPredicate name => "unknown predicate `" ++ name ++ "`"
  | .badArguments name fault => "bad arguments to `" ++ name ++ "`: " ++ fault.message
  | .invalidTarget name kind => "predicate `" ++ name ++ "` cannot be applied to a " ++ kind.name

end InterceptAddons.Filter
