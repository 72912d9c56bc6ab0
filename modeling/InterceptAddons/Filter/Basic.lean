import InterceptAddons.Filter.Eval
import InterceptAddons.Filter.Parser
import InterceptAddons.Filter.Printer

/-!
# Filters

A filter selects the messages that an addon sees: an expression, with the text that it was read from if
there was one. It is shown by that text, or by the printed expression.
-/

namespace InterceptAddons

open InterceptAddons.Filter in
/-- A filter. -/
structure Filter where
  source : Option String
  expr : Expr
  reads : ∀ text ∈ source, Expr.parse text = .ok expr

namespace Filter

def parse (text : String) : Except SyntaxError Filter :=
  match h : Expr.parse text with
  | .ok e => .ok ⟨some text, e, fun _ ht => Option.mem_some.1 ht ▸ h⟩
  | .error e => .error e

/-- The filter with an expression that was not read. -/
def ofExpr (e : Expr) : Filter := ⟨none, e, nofun⟩

def always : Filter := ofExpr .always

def isAlways (f : Filter) : Bool := f.expr.isAlways

/-- Resolves every predicate and evaluates nothing. -/
def check (f : Filter) : Except EvalError Unit := f.expr.bind.map fun _ => ()

def selects (f : Filter) (facts : Facts) : Except EvalError Bool := f.expr.eval facts

def print (f : Filter) : String :=
  match f.source with
  | some text => String.ofList (Text.trim text.toList)
  | none => f.expr.print

end Filter

end InterceptAddons
