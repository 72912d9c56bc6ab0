/-!
# Actions and failures

What a callback wants done with the message it was given, and how a callback can fail. An action other
than `proceed` ends the way of a message through the addons.
-/

namespace InterceptAddons

/-- What is to be done with a message: pass it on, discard it, or hold it as it is given. -/
inductive Action (α : Type)
  | proceed (message : α)
  | drop
  | intercept (message : α)
  deriving Repr, DecidableEq

namespace Action

variable {α : Type}

/-- Whether no later addon sees the message. -/
def isTerminal : Action α → Bool
  | .proceed _ => false
  | _ => true

def isIntercept : Action α → Bool
  | .intercept _ => true
  | _ => false

def message? : Action α → Option α
  | .proceed m | .intercept m => some m
  | .drop => none

end Action

/-- How a callback failed: with an error, or with a panic and the text it left if it left one. -/
inductive Failure
  | returned (text : String)
  | panicked (text : Option String)
  deriving Repr, DecidableEq

namespace Failure

def panicText (text : Option String) : String := text.getD "non-string panic payload"

def message : Failure → String
  | .returned text => text
  | .panicked text => "panicked: " ++ panicText text

end Failure

/-- How a callback for messages of some type ends. -/
abbrev Ending (α : Type) := Except Failure (Action α)

end InterceptAddons
