/-!
# Faults of JSON texts

The three ways in which reading a JSON text can fail.
-/

namespace InterceptAddons.Json

/-- What is wrong with a text: it is no JSON, it ends too early, or a value has the wrong shape. -/
inductive Fault
  | malformed
  | truncated
  | mismatched
  deriving Repr, DecidableEq

def Fault.category : Fault → String
  | .malformed => "syntax"
  | .truncated => "eof"
  | .mismatched => "data"

end InterceptAddons.Json
