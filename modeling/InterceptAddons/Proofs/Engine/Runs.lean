import InterceptAddons.Engine.Dispatch
import InterceptAddons.Proofs.Registry

/-!
# Runs of programs and walks

Programs and walks run in states of any type. `Program.run_map` and `Walker.Maps.walk`: a function between two
types of states carries runs over if it carries over what is asked, said and written. `Program.run_preserves` and
`Walker.Preserves.walk`: what holds between the states before and after each of these holds of a whole run.
-/

namespace InterceptAddons

open Http

variable {ν σ τ : Type} {k : EventKind} (φ : σ → τ)

/-! ### States of different types -/

/-- Programs agree along a function between states if what they ask and say does. -/
theorem Program.run_map {ask : Operation ν → σ → Answer × σ} {ask' : Operation ν → τ → Answer × τ}
    {say : Remark ν → σ → σ} {say' : Remark ν → τ → τ}
    (hask : ∀ op s, ask' op (φ s) = ((ask op s).1, φ (ask op s).2))
    (hsay : ∀ r s, say' r (φ s) = φ (say r s)) :
    ∀ (p : Program ν k) (s : σ),
      p.run ask' say' (φ s) = ((p.run ask say s).1, φ (p.run ask say s).2)
  | .finish ending, s => rfl
  | .say remark next, s => by
    rw [run, run, hsay]
    exact run_map hask hsay next _
  | .ask op next, s => by
    rw [run, run, hask]
    exact run_map hask hsay (next _) _

/-- Walkers agree along a function between their states. -/
structure Walker.Maps (w : Walker ν σ k) (v : Walker ν τ k) : Prop where
  select : ∀ a m s, v.select a m (φ s) = ((w.select a m s).1, φ (w.select a m s).2)
  call : ∀ a f m s, v.call a f m (φ s) = ((w.call a f m s).1, φ (w.call a f m s).2)
  write : ∀ r s, v.write r (φ s) = φ (w.write r s)

variable {φ}

namespace Walker.Maps

variable {w : Walker ν σ k} {v : Walker ν τ k}

theorem settle (h : w.Maps φ v) (a : Addon ν) (m : Traffic k) (s : σ) (e : Ending (Traffic k)) :
    v.settle a m (φ s) e = ((w.settle a m s e).1, φ (w.settle a m s e).2) := by
  match e with
  | .ok (.proceed m') => rfl
  | .ok .drop | .ok (.intercept m') | .error f => simp only [Walker.settle, h.write]

theorem visit (h : w.Maps φ v) (a : Addon ν) (m : Traffic k) (s : σ) :
    v.visit a m (φ s) = ((w.visit a m s).1, φ (w.visit a m s).2) := by
  unfold Walker.visit
  cases a.callback? k with
  | none => rfl
  | some f =>
    simp only [h.select]
    match w.select a m s with
    | (.ok true, s) => simp only [h.call, h.settle]
    | (.ok false, s) | (.error e, s) => simp only [h.write]

theorem walk (h : w.Maps φ v) (as : List (Addon ν)) (m : Traffic k) (s : σ) :
    v.walk as m (φ s) = ((w.walk as m s).1, φ (w.walk as m s).2) := by
  induction as generalizing m s with
  | nil => rfl
  | cons a as ih =>
    rw [Walker.walk, Walker.walk, h.visit]
    match w.visit a m s with
    | (.continue m', s') => exact ih m' s'
    | (.stop action, s') => rfl

end Walker.Maps

/-! ### What runs preserve -/

/-- What holds of whatever a program asks and says, from the state before to the state after, holds of the
program. -/
theorem Program.run_preserves {R : σ → σ → Prop} (refl : ∀ s, R s s)
    (trans : ∀ {s t u}, R s t → R t u → R s u) {ask : Operation ν → σ → Answer × σ} {say : Remark ν → σ → σ}
    (hask : ∀ op s, R s (ask op s).2) (hsay : ∀ r s, R s (say r s)) :
    ∀ (p : Program ν k) (s : σ), R s (p.run ask say s).2
  | .finish ending, s => refl s
  | .say remark next, s => by
    rw [run]
    exact trans (hsay remark s) (run_preserves refl trans hask hsay next _)
  | .ask op next, s => by
    rw [run]
    exact trans (hask op s) (run_preserves refl trans hask hsay (next _) _)

def Record.ofVisit : Record ν → Bool
  | .filterMissed _ | .filterFailed _ _ | .dropped _ | .intercepted _ | .callbackFailed _ _ _ _ => true
  | _ => false

theorem Record.ofLifecycle_of_ofVisit {r : Record ν} (h : r.ofVisit = true) : r.ofLifecycle = false := by
  cases r <;> first | rfl | cases h

/-- What holds from the state before to the state after whatever a walker does. What it writes is about visits. -/
structure Walker.Preserves (w : Walker ν σ k) (R : σ → σ → Prop) : Prop where
  refl : ∀ s, R s s
  trans : ∀ {s t u}, R s t → R t u → R s u
  select : ∀ a m s, R s (w.select a m s).2
  call : ∀ a f m s, R s (w.call a f m s).2
  write : ∀ r s, r.ofVisit = true → R s (w.write r s)

namespace Walker.Preserves

variable {w : Walker ν σ k} {R : σ → σ → Prop}

theorem settle (h : w.Preserves R) (a : Addon ν) (m : Traffic k) (s : σ) (e : Ending (Traffic k)) :
    R s (w.settle a m s e).2 := by
  match e with
  | .ok (.proceed m') => exact h.refl s
  | .ok .drop => exact h.write (.dropped a.id) s rfl
  | .ok (.intercept m') => exact h.write (.intercepted a.id) s rfl
  | .error f => exact h.write (.callbackFailed a.id k m.message.id f) s rfl

theorem visit (h : w.Preserves R) (a : Addon ν) (m : Traffic k) (s : σ) : R s (w.visit a m s).2 := by
  unfold Walker.visit
  cases a.callback? k with
  | none => exact h.refl s
  | some f =>
    have hs := h.select a m s
    match hv : w.select a m s with
    | (.ok true, t) =>
      rw [hv] at hs
      exact h.trans hs (h.trans (h.call a f m t) (h.settle a m _ _))
    | (.ok false, t) =>
      rw [hv] at hs
      exact h.trans hs (h.write (.filterMissed a.id) t rfl)
    | (.error e, t) =>
      rw [hv] at hs
      exact h.trans hs (h.write (.filterFailed a.id e) t rfl)

theorem walk (h : w.Preserves R) (as : List (Addon ν)) (m : Traffic k) (s : σ) : R s (w.walk as m s).2 := by
  induction as generalizing m s with
  | nil => exact h.refl s
  | cons a as ih =>
    rw [Walker.walk]
    have hs := h.visit a m s
    match hv : w.visit a m s with
    | (.continue m', t) =>
      rw [hv] at hs
      exact h.trans hs (ih m' t)
    | (.stop action, t) =>
      rw [hv] at hs
      exact hs

end Walker.Preserves

end InterceptAddons
