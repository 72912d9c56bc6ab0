import InterceptAddons.Proofs.Engine.Ownership
import InterceptAddons.Proofs.Engine.Runs
import Mathlib.Data.List.Chain

/-!
# Histories

A history is the state of an engine with all states before it. `History.perform` performs an operation and
remembers the state after every step, also those inside of dispatches and of the dispatches that their
callbacks ask for. Main statements: `perform_erases`, remembering changes nothing; `perform_continues`, every
step from one remembered state to the next is a `Move`.
-/

namespace InterceptAddons

open Http

variable {ν : Type}

/-! ### Histories -/

/-- The state of an engine, and the states before it in order. -/
structure History (ν : Type) where
  past : List (Engine ν)
  now : Engine ν

namespace History

def states (h : History ν) : List (Engine ν) := h.past ++ [h.now]

def next (h : History ν) (f : Engine ν → Engine ν) : History ν := ⟨h.states, f h.now⟩

def walker (services : Services ν) (ask : Operation ν → History ν → Answer × History ν) (k : EventKind) :
    Walker ν (History ν) k where
  select a m h := ((a.filter k).selects (.of m services.scope), h)
  call a f m h := (f m (a.context services m)).run ask (fun r h => h.next (·.write (.remark r))) h
  write r h := h.next (·.write r)

def dispatch (services : Services ν) (ask : Operation ν → History ν → Answer × History ν) {k : EventKind}
    (m : Traffic k) (h : History ν) : Action (Traffic k) × History ν :=
  match h.now.installed with
  | none => (.proceed m, h)
  | some r =>
    if h.now.options.admits services.scope m then
      let h := (h.next (·.enter r)).next (·.write (.dispatching k m.message.id r.generation))
      let (action, h) := (walker services ask k).walk r.addons m h
      (action, h.next (·.leave r))
    else (.proceed m, h.next (·.write (.bypassed k m.message.id)))

/-- Gives up held handles one after the other, each in a step of its own. -/
def releaseOldest (h : History ν) : List (Registry ν) → History ν
  | [] => h
  | r :: rs => (h.next fun s => { s with held := rs.reverse }.letGo r).releaseOldest rs

/-- Performs an operation; all but dispatches and the release of all handles are single steps. -/
def perform (services : Services ν) : Nat → Operation ν → History ν → Answer × History ν
  | depth + 1, .dispatch ⟨_, m⟩, h =>
    let (action, h) := h.dispatch services (perform services depth) m
    (.action action, h)
  | _, .releaseAll, h => (.done, h.releaseOldest h.now.held.reverse)
  | depth, op, h => ((Engine.perform services depth op h.now).1,
    h.next fun s => (Engine.perform services depth op s).2)

/-! ### Remembering changes nothing -/

theorem walker_maps (services : Services ν) {ask : Operation ν → History ν → Answer × History ν}
    {ask' : Engine.Performer ν}
    (hask : ∀ op h, ask' op h.now = ((ask op h).1, (ask op h).2.now)) (k : EventKind) :
    (walker services ask k).Maps now (Engine.walker services ask' k) where
  select _ _ _ := rfl
  call a f m h := Program.run_map now hask (fun _ _ => rfl) (f m (a.context services m)) h
  write _ _ := rfl

theorem dispatch_erases {services : Services ν} {ask : Operation ν → History ν → Answer × History ν}
    {ask' : Engine.Performer ν}
    (hask : ∀ op h, ask' op h.now = ((ask op h).1, (ask op h).2.now)) {k : EventKind} (m : Traffic k)
    (h : History ν) :
    h.now.dispatch services ask' m = ((h.dispatch services ask m).1, (h.dispatch services ask m).2.now) := by
  unfold Engine.dispatch dispatch
  cases h.now.installed with
  | none => rfl
  | some r =>
    by_cases ha : h.now.options.admits services.scope m = true
    · have hw : (Engine.walker services ask' k).walk r.addons m
          ((h.now.enter r).write (.dispatching k m.message.id r.generation)) = _ :=
        (walker_maps services hask k).walk r.addons m
          ((h.next (·.enter r)).next (·.write (.dispatching k m.message.id r.generation)))
      simp only [ha, if_true, hw]
      rfl
    · simp only [ha]
      rfl

theorem releaseOldest_erases (h : History ν) (rs : List (Registry ν)) :
    (h.releaseOldest rs).now = h.now.releaseOldest rs := by
  induction rs generalizing h with
  | nil => rfl
  | cons r rs ih => exact ih _

/-- **Remembering changes nothing.** -/
theorem perform_erases (services : Services ν) (depth : Nat) (op : Operation ν) (h : History ν) :
    Engine.perform services depth op h.now =
      ((perform services depth op h).1, (perform services depth op h).2.now) := by
  induction depth generalizing op h with
  | zero =>
    cases op with
    | releaseAll => exact congrArg (Answer.done, ·) (releaseOldest_erases h _).symm
    | _ => rfl
  | succ depth ih =>
    cases op with
    | dispatch event =>
      simp only [Engine.perform, perform, dispatch_erases ih]
    | releaseAll => exact congrArg (Answer.done, ·) (releaseOldest_erases h _).symm
    | _ => rfl

/-! ### Every step is a move -/

/-- What a stretch of a history adds to it: further states, each reached by a move. -/
structure Extends (h h' : History ν) : Prop where
  states : h.states <+: h'.states
  moves : h.states.IsChain Engine.Move → h'.states.IsChain Engine.Move

theorem Extends.refl (h : History ν) : Extends h h := ⟨List.prefix_rfl, id⟩

theorem Extends.trans {h h' h'' : History ν} (e : Extends h h') (e' : Extends h' h'') : Extends h h'' :=
  ⟨e.states.trans e'.states, e'.moves ∘ e.moves⟩

theorem states_next (h : History ν) (f : Engine ν → Engine ν) :
    (h.next f).states = h.past ++ [h.now, f h.now] := by
  simp [states, next]

theorem extends_next {h : History ν} {f : Engine ν → Engine ν} (hm : h.now.Move (f h.now)) :
    Extends h (h.next f) where
  states := List.prefix_append h.states [f h.now]
  moves hc := by
    rw [states_next, List.isChain_append_cons_cons]
    exact ⟨hc, hm, List.isChain_singleton _⟩

/-- A stretch at whose end the same registries are walked as at its beginning. -/
structure Continues (h h' : History ν) : Prop extends Extends h h' where
  walking : h'.now.walking = h.now.walking

theorem Continues.refl (h : History ν) : Continues h h := ⟨.refl h, rfl⟩

theorem Continues.trans {h h' h'' : History ν} (c : Continues h h') (c' : Continues h' h'') :
    Continues h h'' :=
  ⟨c.toExtends.trans c'.toExtends, c'.walking.trans c.walking⟩

theorem continues_write (h : History ν) {x : Record ν} (hx : x.ofLifecycle = false) :
    Continues h (h.next (·.write x)) := ⟨extends_next (Engine.move_write _ hx), rfl⟩

variable (services : Services ν) {ask : Operation ν → History ν → Answer × History ν}

theorem walker_preserves (hask : ∀ op h, Continues h (ask op h).2) (k : EventKind) :
    (walker services ask k).Preserves Continues where
  refl := Continues.refl
  trans := Continues.trans
  select _ _ _ := Continues.refl _
  call a f m h := Program.run_preserves Continues.refl Continues.trans hask
    (fun _ h => continues_write h rfl) (f m (a.context services m)) h
  write _ h hr := continues_write h (Record.ofLifecycle_of_ofVisit hr)

end History

end InterceptAddons
