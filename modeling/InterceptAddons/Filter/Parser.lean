import InterceptAddons.Filter.Expr
import InterceptAddons.Filter.Token

/-!
# Reading filters

`Expr.parse` reads the tokens of a text one by one over a stack of unfinished forms. Names of predicates
are not looked up here, so the language does not change when predicates are added.
-/

namespace InterceptAddons.Filter

/-- The nesting of forms that a text may reach. -/
def maxDepth : Nat := 128

/-- The words that join expressions. -/
inductive Connective
  | all | any | not
  deriving Repr, DecidableEq

/-- The connective that a word names, in any letter case. -/
def Connective.ofWord? (word : String) : Option Connective :=
  match word.toLower with
  | "and" => some .all
  | "or" => some .any
  | "not" => some .not
  | _ => none

/-- The truth value that a word names, in any letter case. -/
def constant? (word : String) : Option Bool :=
  match word.toLower with
  | "true" => some true
  | "false" => some false
  | _ => none

/-- A form whose end has not been read: `start` is the octet of its parenthesis, and what it holds comes
last one first. -/
inductive Frame
  | opened (start : Nat)
  | form (start : Nat) (op : Connective) (children : List Expr)
  | call (start : Nat) (name : String) (args : List Literal)

def Frame.start : Frame → Nat
  | .opened start | .form start _ _ | .call start _ _ => start

/-- What has been read: the unfinished forms, innermost first, or the whole expression. -/
inductive Progress
  | reading (stack : List Frame)
  | done (e : Expr)

/-- Adds a complete expression to the form around it. -/
def deliver (e : Expr) : List Frame → Progress
  | .form start op children :: stack => .reading (.form start op (e :: children) :: stack)
  | _ => .done e

def Connective.build (start : Nat) : Connective → List Expr → Except SyntaxError Expr
  | .all, es => .ok (.all es)
  | .any, es => .ok (.any es)
  | .not, [e] => .ok (.not e)
  | .not, es => .error ⟨start, .negationArity es.length⟩

/-- The first token after an opening parenthesis. -/
def readHead (start : Nat) (stack : List Frame) : Lexeme → Except SyntaxError Progress
  | ⟨.ident word, _⟩ =>
    match Connective.ofWord? word with
    | some op => .ok (.reading (.form start op [] :: stack))
    | none => .ok (.reading (.call start word.toLower [] :: stack))
  | ⟨.rightParen, _⟩ => .error ⟨start, .emptyForm⟩
  | ⟨_, position⟩ => .error ⟨position, .badHead⟩

/-- A token among the arguments of a predicate. -/
def readArgument (start : Nat) (name : String) (args : List Literal) (stack : List Frame) :
    Lexeme → Except SyntaxError Progress
  | ⟨.rightParen, _⟩ => .ok (deliver (.predicate name args.reverse) stack)
  | ⟨.leftParen, position⟩ => .error ⟨position, .expressionAsArgument⟩
  | ⟨.str s, _⟩ => .ok (.reading (.call start name (.str s :: args) :: stack))
  | ⟨.raw source, position⟩ =>
    match Pattern.compile? source with
    | some p => .ok (.reading (.call start name (.regex p :: args) :: stack))
    | none => .error ⟨position, .invalidRegex⟩
  | ⟨.int n, _⟩ => .ok (.reading (.call start name (.int n :: args) :: stack))
  | ⟨.ident word, position⟩ =>
    match constant? word with
    | some b => .ok (.reading (.call start name (.bool b :: args) :: stack))
    | none => .error ⟨position, .unknownLiteral word⟩

/-- A token where an expression or the end of a form may stand. -/
def readOperand (stack : List Frame) : Lexeme → Except SyntaxError Progress
  | ⟨.leftParen, position⟩ =>
    if stack.length < maxDepth then .ok (.reading (.opened position :: stack))
    else .error ⟨position, .nestedTooDeeply⟩
  | ⟨.ident word, position⟩ =>
    match constant? word with
    | some b => .ok (deliver (.const b) stack)
    | none => .error ⟨position, .notAnExpression word⟩
  | ⟨.rightParen, position⟩ =>
    match stack with
    | .form start op children :: outer =>
      (op.build start children.reverse).map fun e => deliver e outer
    | _ => .error ⟨position, .unexpectedClose⟩
  | ⟨_, position⟩ => .error ⟨position, .literalAsExpression⟩

def Progress.step (p : Progress) (t : Lexeme) : Except SyntaxError Progress :=
  match p with
  | .done _ => .error ⟨t.start, .trailingInput⟩
  | .reading (.opened start :: stack) => readHead start stack t
  | .reading (.call start name args :: stack) => readArgument start name args stack t
  | .reading stack => readOperand stack t

def Progress.run : Progress → List Lexeme → Except SyntaxError Progress
  | p, [] => .ok p
  | p, t :: ts => (p.step t).bind (·.run ts)

/-- The expression read, once the text has ended. -/
def Progress.finish : Progress → Except SyntaxError Expr
  | .done e => .ok e
  | .reading [] => .error ⟨0, .noExpression⟩
  | .reading (frame :: _) => .error ⟨frame.start, .unclosed⟩

def Expr.ofLexemes (ts : List Lexeme) : Except SyntaxError Expr :=
  ((Progress.reading []).run ts).bind Progress.finish

def Expr.parse (text : String) : Except SyntaxError Expr := (lex text).bind Expr.ofLexemes

end InterceptAddons.Filter
