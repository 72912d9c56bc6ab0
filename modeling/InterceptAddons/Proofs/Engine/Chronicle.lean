import InterceptAddons.Proofs.Engine.Dispatch
import InterceptAddons.Proofs.Engine.Ownership
import InterceptAddons.Proofs.Engine.Runs

/-!
# Chronicles

A chronicle is an engine with what has happened to it, in order: which registries have been installed, which switches
have been set, and which dispatches have ended. `Chronicle.perform` performs an operation and writes down all that
happens, also inside of dispatches and of the dispatches that their callbacks ask for. An account of a dispatch tells
how much had happened when it began, the registry and the switches that it found, and whom it contacted. Main
statements: `perform_erases`, writing down changes nothing; `Engine.Runs.perform`, of the operations other than
dispatches only those that install a registry or set the switches change what a dispatch will find.
-/

namespace InterceptAddons

open Http

variable {ν : Type}

/-! ### Settings -/

/-- What a dispatch finds when it begins. -/
structure Settings (ν : Type) where
  registry : Registry ν
  options : DispatchOptions

/-- An account of a dispatch. -/
structure Account (ν : Type) (k : EventKind) where
  /-- How much had happened when it began. -/
  since : Nat
  /-- What it found when it began. -/
  settings : Settings ν
  message : Traffic k
  contacts : List (Contact ν k)
  action : Action (Traffic k)

/-- Something that happens to an engine. A dispatch happens when it ends. -/
inductive Happening (ν : Type)
  | installed (r : Registry ν)
  | switched (o : DispatchOptions)
  | dispatched (k : EventKind) (d : Account ν k)

def Settings.after (x : Settings ν) : Happening ν → Settings ν
  | .installed r => { x with registry := r }
  | .switched o => { x with options := o }
  | .dispatched _ _ => x

/-- The settings in force after all that has happened. -/
def Settings.inForce (x : Settings ν) (hs : List (Happening ν)) : Settings ν := hs.foldl Settings.after x

theorem Settings.inForce_append (x : Settings ν) (hs hs' : List (Happening ν)) :
    x.inForce (hs ++ hs') = (x.inForce hs).inForce hs' := List.foldl_append

/-- As long as nothing else is installed, a registry that has been installed is the one in force. -/
theorem Settings.inForce_installed (x : Settings ν) (before between : List (Happening ν)) {r : Registry ν}
    (h : ∀ r', .installed r' ∉ between) : (x.inForce (before ++ .installed r :: between)).registry = r := by
  suffices hb : ∀ y : Settings ν, (y.inForce between).registry = y.registry by
    rw [inForce_append]
    exact hb _
  induction between with
  | nil => exact fun _ => rfl
  | cons happening between ih =>
    intro y
    have hy : (y.after happening).registry = y.registry := by
      cases happening with
      | installed r' => exact absurd List.mem_cons_self (h r')
      | switched | dispatched => rfl
    exact (ih (fun r' hr => h r' (List.mem_cons_of_mem _ hr)) _).trans hy

/-- What an operation other than a dispatch makes happen. -/
def Operation.happenings (s : Engine ν) : Operation ν → List (Happening ν)
  | .reload specs overrides | .replace specs overrides _ => [.installed (s.load specs overrides).1]
  | .install i => (s.held[i]?.map .installed).toList
  | .setOptions o => [.switched o]
  | _ => []

/-! ### Chronicles -/

/-- An engine, and what has happened to it. -/
structure Chronicle (ν : Type) where
  happenings : List (Happening ν)
  now : Engine ν

namespace Chronicle

def act (c : Chronicle ν) (f : Engine ν → Engine ν) : Chronicle ν := { c with now := f c.now }

def tell (c : Chronicle ν) (h : Happening ν) : Chronicle ν := { c with happenings := c.happenings ++ [h] }

def walker (services : Services ν) (ask : Operation ν → Chronicle ν → Answer × Chronicle ν) (k : EventKind) :
    Walker ν (Chronicle ν) k where
  select a m c := ((a.filter k).selects (.of m services.scope), c)
  call a f m c := (f m (a.context services m)).run ask (fun r c => c.act (·.write (.remark r))) c
  write r c := c.act (·.write r)

/-- Runs a message through the addons of the installed registry, and gives an account of it. -/
def dispatch (services : Services ν) (ask : Operation ν → Chronicle ν → Answer × Chronicle ν) {k : EventKind}
    (m : Traffic k) (c : Chronicle ν) : Action (Traffic k) × Chronicle ν :=
  match c.now.installed with
  | none => (.proceed m, c)
  | some r =>
    let begun (contacts : List (Contact ν k)) (action : Action (Traffic k)) : Account ν k :=
      ⟨c.happenings.length, ⟨r, c.now.options⟩, m, contacts, action⟩
    if c.now.options.admits services.scope m then
      let c := c.act fun s => (s.enter r).write (.dispatching k m.message.id r.generation)
      let (action, c, contacts) := (walker services ask k).noting.walk r.addons m (c, [])
      (action, (c.act (·.leave r)).tell (.dispatched k (begun contacts action)))
    else
      (.proceed m, (c.act (·.write (.bypassed k m.message.id))).tell (.dispatched k (begun [] (.proceed m))))

def perform (services : Services ν) : Nat → Operation ν → Chronicle ν → Answer × Chronicle ν
  | depth + 1, .dispatch ⟨_, m⟩, c =>
    let (action, c) := c.dispatch services (perform services depth) m
    (.action action, c)
  | depth, op, c =>
    let (answer, s) := Engine.perform services depth op c.now
    (answer, ⟨c.happenings ++ op.happenings c.now, s⟩)

/-! ### Writing down changes nothing -/

section Erasure

variable {services : Services ν} {ask : Operation ν → Chronicle ν → Answer × Chronicle ν} {ask' : Engine.Performer ν}

theorem run_erases (hask : ∀ op c, ask' op c.now = ((ask op c).1, (ask op c).2.now)) {k : EventKind}
    (p : Program ν k) (c : Chronicle ν) :
    p.run ask' (fun r s => s.write (.remark r)) c.now =
      ((p.run ask (fun r c => c.act (·.write (.remark r))) c).1,
        (p.run ask (fun r c => c.act (·.write (.remark r))) c).2.now) :=
  Program.run_map now hask (fun _ _ => rfl) p c

theorem walker_maps (hask : ∀ op c, ask' op c.now = ((ask op c).1, (ask op c).2.now)) (k : EventKind) :
    (walker services ask k).Maps now (Engine.walker services ask' k) where
  select _ _ _ := rfl
  call a f m c := run_erases hask (f m (a.context services m)) c
  write _ _ := rfl

theorem dispatch_erases (hask : ∀ op c, ask' op c.now = ((ask op c).1, (ask op c).2.now)) {k : EventKind}
    (m : Traffic k) (c : Chronicle ν) :
    c.now.dispatch services ask' m = ((c.dispatch services ask m).1, (c.dispatch services ask m).2.now) := by
  unfold Engine.dispatch dispatch
  cases c.now.installed with
  | none => rfl
  | some r =>
    by_cases ha : c.now.options.admits services.scope m = true
    · obtain ⟨u, -, -, hn⟩ := (walker services ask k).walk_noting r.addons m
        (c.act fun s => (s.enter r).write (.dispatching k m.message.id r.generation)) []
      have hw : (Engine.walker services ask' k).walk r.addons m
          ((c.now.enter r).write (.dispatching k m.message.id r.generation)) = _ :=
        (walker_maps hask k).walk r.addons m
          (c.act fun s => (s.enter r).write (.dispatching k m.message.id r.generation))
      simp only [ha, if_true, hw, hn]
      rfl
    · simp only [ha]
      rfl

/-- **Writing down changes nothing.** -/
theorem perform_erases (services : Services ν) (depth : Nat) (op : Operation ν) (c : Chronicle ν) :
    Engine.perform services depth op c.now =
      ((perform services depth op c).1, (perform services depth op c).2.now) := by
  induction depth generalizing op c with
  | zero => cases op <;> rfl
  | succ depth ih =>
    cases op with
    | dispatch event => simp only [Engine.perform, perform, dispatch_erases ih]
    | _ => rfl

end Erasure

end Chronicle

/-! ### Operations other than dispatches -/

def Record.beginsDispatch : Record ν → Bool
  | .dispatching _ _ _ | .bypassed _ _ => true
  | _ => false

theorem beginsDispatch_of_ofCallback {x : Record ν} (h : x.ofCallback = true) : x.beginsDispatch = false := by
  cases x <;> first | rfl | cases h

theorem beginsDispatch_of_ofVisit {x : Record ν} (h : x.ofVisit = true) : x.beginsDispatch = false := by
  cases x <;> first | rfl | cases h

theorem beginsDispatch_records {d : Sorted ν} {x : Record ν} (h : x ∈ d.records) : x.beginsDispatch = false := by
  cases d with
  | disabled id | rejected e =>
    obtain rfl := List.mem_singleton.1 h
    rfl
  | loaded a =>
    rcases List.mem_append.1 h with h | h
    · exact beginsDispatch_of_ofCallback (ofCallback_of_mem_runStage h)
    · obtain rfl := List.mem_singleton.1 h
      rfl

theorem beginsDispatch_loadRecords {g : Nat} {specs : List (AddonSpec ν)} {overrides : List AddonOverride}
    {x : Record ν} (h : x ∈ Registry.loadRecords g specs overrides) : x.beginsDispatch = false := by
  simp only [Registry.loadRecords, List.mem_append, List.mem_singleton, List.mem_flatMap, List.mem_map] at h
  rcases h with ((rfl | ⟨d, -, h⟩) | ⟨o, -, rfl⟩) | rfl
  · rfl
  · exact beginsDispatch_records h
  · rfl
  · rfl

theorem beginsDispatch_unloadRecords {r : Registry ν} {x : Record ν} (h : x ∈ r.unloadRecords) :
    x.beginsDispatch = false := by
  simp only [Registry.unloadRecords, List.mem_append, List.mem_singleton, List.mem_flatMap] at h
  rcases h with ⟨a, -, h⟩ | rfl
  · exact beginsDispatch_of_ofCallback (ofCallback_of_mem_runStage h)
  · rfl

/-- An engine with settings, of which the dispatches with the given records have begun. -/
structure Engine.Runs (s : Engine ν) (x : Settings ν) (begun : List (Record ν)) : Prop where
  installed : s.installed = some x.registry
  options : s.options = x.options
  log : s.log.filter Record.beginsDispatch = begun

namespace Engine.Runs

variable {s : Engine ν} {x : Settings ν} {begun : List (Record ν)}

theorem writeAll (h : s.Runs x begun) {rs : List (Record ν)} (hrs : ∀ r ∈ rs, r.beginsDispatch = false) :
    (s.writeAll rs).Runs x begun where
  installed := h.installed
  options := h.options
  log := by
    have hnil : rs.filter Record.beginsDispatch = [] := List.filter_eq_nil_iff.2 (by simpa using hrs)
    rw [Engine.writeAll, List.filter_append, h.log, hnil, List.append_nil]

theorem write (h : s.Runs x begun) {r : Record ν} (hr : r.beginsDispatch = false) : (s.write r).Runs x begun :=
  h.writeAll (List.forall_mem_singleton.2 hr)

/-- A dispatch begins. -/
theorem write_begins (h : s.Runs x begun) {r : Record ν} (hr : r.beginsDispatch = true) :
    (s.write r).Runs x (begun ++ [r]) where
  installed := h.installed
  options := h.options
  log := by rw [Engine.write, List.filter_append, h.log, List.filter_cons_of_pos hr, List.filter_nil]

theorem letGo (h : s.Runs x begun) (r : Registry ν) : (s.letGo r).Runs x begun := by
  unfold Engine.letGo
  split
  · exact h
  · exact h.writeAll fun _ => beginsDispatch_unloadRecords

theorem withHeld (h : s.Runs x begun) (held : List (Registry ν)) : { s with held }.Runs x begun :=
  ⟨h.installed, h.options, h.log⟩

theorem withWalking (h : s.Runs x begun) (walking : List (Registry ν)) : { s with walking }.Runs x begun :=
  ⟨h.installed, h.options, h.log⟩

theorem releaseOldest (h : s.Runs x begun) (rs : List (Registry ν)) : (s.releaseOldest rs).Runs x begun := by
  induction rs generalizing s with
  | nil => exact h
  | cons r rs ih => exact ih ((h.withHeld rs.reverse).letGo r)

theorem load (h : s.Runs x begun) (specs : List (AddonSpec ν)) (overrides : List AddonOverride) :
    (s.load specs overrides).2.Runs x begun := by
  have hg : { s with generation := s.generation + 1 }.Runs x begun := ⟨h.installed, h.options, h.log⟩
  exact hg.writeAll fun _ => beginsDispatch_loadRecords

theorem install (h : s.Runs x begun) (r : Registry ν) : (s.install r).Runs { x with registry := r } begun := by
  have hr : { s with installed := some r }.Runs { x with registry := r } begun := ⟨rfl, h.options, h.log⟩
  unfold Engine.install
  rw [h.installed]
  exact hr.write rfl

theorem replace (h : s.Runs x begun) (r : Registry ν) : (s.replace r).Runs { x with registry := r } begun := by
  unfold Engine.replace
  rw [h.installed]
  exact (h.install r).letGo _

theorem setOptions (h : s.Runs x begun) (o : DispatchOptions) :
    (s.setOptions o).Runs { x with options := o } begun := by
  have ho : { s with options := o }.Runs { x with options := o } begun := ⟨h.installed, rfl, h.log⟩
  exact ho.write rfl

/-- **Operations other than dispatches.** Only those that install a registry or set the switches change what a
dispatch will find, and none begins a dispatch. -/
theorem perform (services : Services ν) (depth : Nat) {op : Operation ν} (hd : ∀ e, op ≠ .dispatch e)
    (h : s.Runs x begun) : (Engine.perform services depth op s).2.Runs (x.inForce (op.happenings s)) begun := by
  cases op with
  | reload specs overrides =>
    simp only [Engine.perform]
    exact (h.load specs overrides).replace _
  | replace specs overrides keep =>
    have hl := h.load specs overrides
    simp only [Engine.perform]
    cases keep with
    | true => exact (hl.install _).withHeld _
    | false => exact hl.replace _
  | load specs overrides =>
    simp only [Engine.perform]
    exact (h.load specs overrides).withHeld _
  | hold =>
    simp only [Engine.perform, Engine.hold, h.installed]
    exact h.withHeld _
  | share i =>
    simp only [Engine.perform, Engine.shareHeld]
    cases s.held[i]? with
    | none => exact h
    | some r => exact h.withHeld _
  | install i =>
    simp only [Engine.perform, Engine.installHeld, Operation.happenings]
    cases s.held[i]? with
    | none => exact h
    | some r => exact (h.withHeld _).replace r
  | release i =>
    simp only [Engine.perform, Engine.releaseHeld]
    cases s.held[i]? with
    | none => exact h
    | some r => exact (h.withHeld _).letGo r
  | releaseAll =>
    simp only [Engine.perform]
    exact h.releaseOldest _
  | setOptions o =>
    simp only [Engine.perform]
    exact h.setOptions o
  | dispatch event => exact absurd rfl (hd event)

end Engine.Runs

end InterceptAddons
