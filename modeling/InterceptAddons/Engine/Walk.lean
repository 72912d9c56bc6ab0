import InterceptAddons.Registry

/-!
# Walks

A message on its way through addons. Each addon with a callback for its kind, and with a filter that
selects it, is called with the message as the addons before it left it. A filter that cannot be evaluated
selects nothing, and a callback that fails changes nothing. The first action other than `proceed` ends
the walk.
-/

namespace InterceptAddons

open Http

/-- How a walk in states of type `σ` evaluates the filter of an addon, calls its callback, and takes
records. -/
structure Walker (ν σ : Type) (k : EventKind) where
  select : Addon ν → Traffic k → σ → Except Filter.EvalError Bool × σ
  call : Addon ν → Callback ν k → Traffic k → σ → Ending (Traffic k) × σ
  write : Record ν → σ → σ

/-- What a walk does after an addon: it goes on with a message, or ends with an action. -/
inductive Visit (α : Type)
  | continue (message : α)
  | stop (action : Action α)
  deriving Repr, DecidableEq

namespace Walker

variable {ν σ : Type} {k : EventKind}

/-- Takes in how a callback ended. -/
def settle (w : Walker ν σ k) (a : Addon ν) (m : Traffic k) (s : σ) :
    Ending (Traffic k) → Visit (Traffic k) × σ
  | .ok (.proceed m') => (.continue m', s)
  | .ok .drop => (.stop .drop, w.write (.dropped a.id) s)
  | .ok (.intercept m') => (.stop (.intercept m'), w.write (.intercepted a.id) s)
  | .error f => (.continue m, w.write (.callbackFailed a.id k m.message.id f) s)

def visit (w : Walker ν σ k) (a : Addon ν) (m : Traffic k) (s : σ) : Visit (Traffic k) × σ :=
  match a.callback? k with
  | none => (.continue m, s)
  | some f =>
    match w.select a m s with
    | (.ok true, s) =>
      let (ending, s) := w.call a f m s
      w.settle a m s ending
    | (.ok false, s) => (.continue m, w.write (.filterMissed a.id) s)
    | (.error e, s) => (.continue m, w.write (.filterFailed a.id e) s)

def walk (w : Walker ν σ k) : List (Addon ν) → Traffic k → σ → Action (Traffic k) × σ
  | [], m, s => (.proceed m, s)
  | a :: as, m, s =>
    match w.visit a m s with
    | (.continue m', s') => w.walk as m' s'
    | (.stop action, s') => (action, s')

end Walker

end InterceptAddons
