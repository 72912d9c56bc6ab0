/-!
# Syntax errors

Why a filter text is refused, and at which octet.
-/

namespace InterceptAddons.Filter

/-- What is wrong with a filter text. -/
inductive SyntaxFault
  | unexpectedChar (c : Char)
  | badHexEscape
  | invalidEscape (c : Char)
  | unterminatedString
  | unterminatedRawString
  | invalidNumber (text : String)
  | noExpression
  | trailingInput
  | nestedTooDeeply
  | notAnExpression (word : String)
  | literalAsExpression
  | unexpectedClose
  | emptyForm
  | unclosed
  | badHead
  | negationArity (found : Nat)
  | expressionAsArgument
  | invalidRegex
  | unknownLiteral (word : String)
  | other (message : String)
  deriving Repr, DecidableEq

def SyntaxFault.message : SyntaxFault → String
  | .unexpectedChar c => "unexpected character `" ++ c.toString ++ "`"
  | .badHexEscape => "`\\x` escape needs two hex digits"
  | .invalidEscape c => "invalid escape `\\" ++ c.toString ++ "`"
  | .unterminatedString => "unterminated string"
  | .unterminatedRawString => "unterminated raw string"
  | .invalidNumber text => "invalid number `" ++ text ++ "`"
  | .noExpression => "empty filter expression"
  | .trailingInput => "unexpected input after the expression"
  | .nestedTooDeeply => "expression nested too deeply"
  | .notAnExpression word => "expected an expression, found `" ++ word ++ "`"
  | .literalAsExpression => "only `true` or `false` may stand in for an expression"
  | .unexpectedClose => "unexpected `)`"
  | .emptyForm => "empty form `()`"
  | .unclosed => "unclosed `(`"
  | .badHead => "expected `and`, `or`, `not` or a predicate name"
  | .negationArity found => "`not` takes exactly one expression, found " ++ toString found
  | .expressionAsArgument => "predicate arguments must be literals, not expressions"
  | .invalidRegex => "invalid regex"
  | .unknownLiteral word => "unknown literal form `" ++ word ++ "`"
  | .other message => message

/-- A fault and the octet of the text where it was found. -/
structure SyntaxError where
  position : Nat
  fault : SyntaxFault
  deriving Repr, DecidableEq

namespace SyntaxError

/-- The wording of the fault alone. -/
def message (e : SyntaxError) : String := e.fault.message

def print (e : SyntaxError) : String :=
  "syntax error at offset " ++ toString e.position ++ ": " ++ e.message

end SyntaxError

end InterceptAddons.Filter
