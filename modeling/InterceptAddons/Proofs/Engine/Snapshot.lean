import InterceptAddons.Proofs.Engine.Chronicle
import InterceptAddons.Proofs.Engine.Endings

/-!
# Dispatches keep to what they found

Callbacks may install registries, set the switches and dispatch further messages. Main statement: `dispatch_snapshot`.
All through a run, at any depth of nesting, a dispatch is gated by the switches that were set when it began and
consults the addons of the registry that was installed when it began, whatever is installed and set before it ends.
Two dispatches that begin alike and whose callbacks end alike have the same result, whatever else happens during them.
`perform_grows` is the induction: an operation adds to a chronicle only accounts of dispatches that kept to what they
found.
-/

namespace InterceptAddons

open Http

variable {ν : Type} {k : EventKind}

/-! ### Accounts -/

namespace Account

/-- A dispatch is gated by the switches that it found, and goes through the addons of the registry that it found. -/
structure Consults (services : Services ν) (d : Account ν k) : Prop where
  /-- A message that the switches refuse is passed on, and nobody is contacted. -/
  refused : d.settings.options.Refuses services.scope d.message → d.contacts = [] ∧ d.action = .proceed d.message
  /-- Any other message goes through the addons with a callback for it, in order and up to the first action that ends
  the walk. -/
  admitted : ¬ d.settings.options.Refuses services.scope d.message →
    Route (d.settings.registry.addons.filter (·.handles k)) d.message d.contacts d.action
  /-- The contacts tell the verdicts of the filters and the endings of the callbacks. -/
  faithful : ∃ depth, ∀ c ∈ d.contacts, Engine.Faithful services (Engine.perform services depth) c

/-- What an account tells, of all that has happened to an engine that started with some settings. -/
structure Told (services : Services ν) (x : Settings ν) (hs : List (Happening ν)) (d : Account ν k) : Prop where
  since : d.since ≤ hs.length
  /-- The dispatch found the settings that were in force when it began. -/
  settings : d.settings = x.inForce (hs.take d.since)
  consults : d.Consults services

theorem Told.mono {services : Services ν} {x : Settings ν} {hs hs' : List (Happening ν)} {d : Account ν k}
    (h : d.Told services x hs) (hp : hs <+: hs') : d.Told services x hs' where
  since := Nat.le_trans h.since hp.length_le
  settings := by
    obtain ⟨rest, rfl⟩ := hp
    rw [h.settings, List.take_append_of_le_length h.since]
  consults := h.consults

/-- An account of what has just ended. -/
theorem told_last {services : Services ν} {x : Settings ν} {before hs : List (Happening ν)} {d : Account ν k}
    (hsince : d.since = before.length) (hx : d.settings = x.inForce before) (hc : d.Consults services) :
    d.Told services x (before ++ hs) where
  since := by simp [hsince]
  settings := by rw [hsince, List.take_left, hx]
  consults := hc

/-- The record that is written when the dispatch begins. -/
def record (services : Services ν) (d : Account ν k) : Record ν :=
  if d.settings.options.admits services.scope d.message then
    .dispatching k d.message.message.id d.settings.registry.generation
  else .bypassed k d.message.message.id

end Account

/-- The record of the beginning of a dispatch that has ended. -/
def Happening.record? (services : Services ν) : Happening ν → Option (Record ν)
  | .dispatched _ d => some (d.record services)
  | _ => none

/-! ### What operations add to a chronicle -/

namespace Chronicle

/-- What a stretch of a chronicle adds to it, if the engine started with settings and the given dispatches had begun
before the stretch. -/
structure Adds (services : Services ν) (x : Settings ν) (begun : List (Record ν)) (c c' : Chronicle ν)
    (hs : List (Happening ν)) : Prop where
  happenings : c'.happenings = c.happenings ++ hs
  /-- The settings are those of the chronicle, and the dispatches that have begun in the stretch are those of which it
  gives an account. -/
  runs : ∃ begun', c'.now.Runs (x.inForce c'.happenings) begun' ∧
    begun'.Perm (begun ++ hs.filterMap (Happening.record? services))
  accounts : ∀ {k : EventKind} (d : Account ν k), .dispatched k d ∈ hs → d.Told services x c'.happenings

/-- A stretch that adds only accounts of dispatches that kept to what they found. -/
def Grows (services : Services ν) (x : Settings ν) (c c' : Chronicle ν) : Prop :=
  ∀ begun, c.now.Runs (x.inForce c.happenings) begun → ∃ hs, Adds services x begun c c' hs

variable {services : Services ν} {x : Settings ν} {c c' c'' : Chronicle ν}

/-- A stretch in which no dispatch ends. -/
theorem Grows.ofRuns {hs : List (Happening ν)} (hc : c'.happenings = c.happenings ++ hs)
    (hr : hs.filterMap (Happening.record? services) = [])
    (h : ∀ begun, c.now.Runs (x.inForce c.happenings) begun → c'.now.Runs (x.inForce c'.happenings) begun) :
    Grows services x c c' := by
  refine fun begun hb => ⟨hs, hc, ⟨begun, h begun hb, by rw [hr, List.append_nil]⟩, fun d hd => ?_⟩
  have hn := List.filterMap_eq_nil_iff.1 hr _ hd
  cases hn

theorem Grows.act {f : Engine ν → Engine ν}
    (hf : ∀ {y begun}, c.now.Runs y begun → (f c.now).Runs y begun) : Grows services x c (c.act f) :=
  .ofRuns (List.append_nil _).symm rfl fun _ h => hf h

theorem Grows.refl (c : Chronicle ν) : Grows services x c c :=
  .ofRuns (List.append_nil _).symm rfl fun _ h => h

theorem Grows.trans (g : Grows services x c c') (g' : Grows services x c' c'') : Grows services x c c'' := by
  intro begun hr
  obtain ⟨hs, a⟩ := g begun hr
  obtain ⟨begun', hr', hp⟩ := a.runs
  obtain ⟨hs', a'⟩ := g' begun' hr'
  obtain ⟨begun'', hr'', hp'⟩ := a'.runs
  refine ⟨hs ++ hs', by rw [a'.happenings, a.happenings, List.append_assoc], ⟨begun'', hr'', ?_⟩, fun d hd => ?_⟩
  · rw [List.filterMap_append, ← List.append_assoc]
    exact hp'.trans (hp.append_right _)
  · rcases List.mem_append.1 hd with hd | hd
    · exact (a.accounts d hd).mono ⟨hs', a'.happenings.symm⟩
    · exact a'.accounts d hd

variable {ask : Operation ν → Chronicle ν → Answer × Chronicle ν} {ask' : Engine.Performer ν}

theorem walker_preserves (hask : ∀ op c, Grows services x c (ask op c).2) (k : EventKind) :
    (walker services ask k).Preserves (Grows services x) where
  refl := Grows.refl
  trans := Grows.trans
  select _ _ _ := Grows.refl _
  call a f m c := Program.run_preserves Grows.refl Grows.trans hask
    (fun _ _ => Grows.act fun h => h.write rfl) (f m (a.context services m)) c
  write r _ hr := Grows.act (f := (·.write r)) fun h => h.write (beginsDispatch_of_ofVisit hr)

/-- A contact in a chronicle tells what it tells without one. -/
theorem faithful_of_reports (hask : ∀ op c, ask' op c.now = ((ask op c).1, (ask op c).2.now))
    {contact : Contact ν k} (h : (walker services ask k).Reports contact) :
    Engine.Faithful services ask' contact := by
  cases contact with
  | asked a m v =>
    obtain ⟨c, hv⟩ := h
    exact hv
  | called a m e =>
    obtain ⟨f, c, hf, he⟩ := h
    refine ⟨f, c.now, hf, ?_⟩
    rw [he, run_erases hask]
    rfl

/-- A dispatch begins and writes its record, its walk adds what it adds, and it ends with an account. -/
theorem grows_dispatched {d : Account ν k} {f : Engine ν → Engine ν}
    (hf : ∀ {y begun}, c.now.Runs y begun → (f c.now).Runs y (begun ++ [d.record services]))
    (hw : Grows services x (c.act f) c') (hsince : d.since = c.happenings.length)
    (hx : ∀ {y begun}, c.now.Runs y begun → d.settings = y) (hc : d.Consults services) :
    Grows services x c (c'.tell (.dispatched k d)) := by
  intro begun hr
  obtain ⟨hs, a⟩ := hw _ (hf hr)
  obtain ⟨begun', hr', hp⟩ := a.runs
  have hh : (c'.tell (.dispatched k d)).happenings = c.happenings ++ (hs ++ [.dispatched k d]) := by
    rw [tell, a.happenings, List.append_assoc]
    rfl
  refine ⟨hs ++ [.dispatched k d], hh, ⟨begun', ?_, hp.trans ?_⟩, fun d' hd => ?_⟩
  · -- the account itself changes no settings
    have hi : x.inForce (c'.tell (.dispatched k d)).happenings = x.inForce c'.happenings := x.inForce_append _ _
    rw [hi]
    exact hr'
  · rw [List.filterMap_append, List.append_assoc]
    exact List.perm_append_comm.append_left begun
  · rcases List.mem_append.1 hd with hd | hd
    · exact (a.accounts d' hd).mono (List.prefix_append _ _)
    · cases List.mem_singleton.1 hd
      rw [hh]
      exact Account.told_last hsince (hx hr) hc

theorem dispatch_grows {depth : Nat} (hask : ∀ op c, Grows services x c (ask op c).2)
    (herase : ∀ op c, Engine.perform services depth op c.now = ((ask op c).1, (ask op c).2.now)) (m : Traffic k)
    (c : Chronicle ν) : Grows services x c (c.dispatch services ask m).2 := by
  unfold dispatch
  cases hi : c.now.installed with
  | none => exact .refl c
  | some r =>
    have hx : ∀ {y begun}, c.now.Runs y begun → ⟨r, c.now.options⟩ = y := fun {y _} h => by
      rw [h.options, Option.some.inj (hi.symm.trans h.installed)]
    by_cases ha : c.now.options.admits services.scope m = true
    · let c₁ := c.act fun s => (s.enter r).write (.dispatching k m.message.id r.generation)
      obtain ⟨contacts, hroute, hreports, hwalk⟩ := (walker services ask k).walk_noting r.addons m c₁ []
      have hw := (walker_preserves hask k).walk r.addons m c₁
      have hn : ¬ c.now.options.Refuses services.scope m := by simp [DispatchOptions.refuses_iff, ha]
      simp only [ha, if_true]
      rw [hwalk]
      refine grows_dispatched (fun h => ?_) (hw.trans (Grows.act fun h => (h.withWalking _).letGo r)) rfl hx ?_
      · rw [Account.record, if_pos ha]
        exact (h.withWalking _).write_begins rfl
      · exact ⟨fun hr => absurd hr hn, fun _ => hroute, depth, fun contact hc =>
          faithful_of_reports herase (hreports contact hc)⟩
    · have hr : c.now.options.Refuses services.scope m := by simpa [DispatchOptions.refuses_iff] using ha
      simp only [ha]
      refine grows_dispatched (fun h => ?_) (.refl _) rfl hx ?_
      · rw [Account.record, if_neg ha]
        exact h.write_begins rfl
      · exact ⟨fun _ => ⟨rfl, rfl⟩, fun hn => absurd hr hn, depth, by simp⟩

/-- An operation other than a dispatch makes no dispatch happen. -/
theorem record_happenings (s : Engine ν) (op : Operation ν) :
    (op.happenings s).filterMap (Happening.record? services) = [] := by
  cases op with
  | install i =>
    rw [Operation.happenings]
    cases s.held[i]? <;> rfl
  | _ => rfl

theorem single_grows (services : Services ν) (x : Settings ν) (depth : Nat) {op : Operation ν} (c : Chronicle ν)
    (hd : ∀ e, op ≠ .dispatch e) : Grows services x c
      ⟨c.happenings ++ op.happenings c.now, (Engine.perform services depth op c.now).2⟩ := by
  refine .ofRuns rfl (record_happenings c.now op) fun begun h => ?_
  rw [Settings.inForce_append]
  exact h.perform services depth hd

/-- **What an operation adds to a chronicle.** -/
theorem perform_grows (services : Services ν) (x : Settings ν) (depth : Nat) (op : Operation ν) (c : Chronicle ν) :
    Grows services x c (perform services depth op c).2 := by
  induction depth generalizing op c with
  | zero =>
    cases op with
    | dispatch event =>
      -- too deep: the message is passed on, and nothing happens
      have hc : (perform services 0 (.dispatch event) c).2 = c := by
        simp [perform, Engine.perform, Operation.happenings]
      rw [hc]
      exact .refl c
    | _ => exact single_grows services x 0 c (by simp)
  | succ depth ih =>
    cases op with
    | dispatch event =>
      obtain ⟨k, m⟩ := event
      rw [perform]
      exact dispatch_grows ih (perform_erases services depth) m c
    | _ => exact single_grows services x (depth + 1) c (by simp)

end Chronicle

/-! ### Dispatches that begin and end alike -/

/-- Two dispatches of one message that begin with the same switches and with addons that differ at most in their
callbacks, and whose callbacks end alike where they are called in the same place with the same message. -/
structure Account.Alike (d d' : Account ν k) : Prop where
  message : d.message = d'.message
  options : d.settings.options = d'.settings.options
  addons : (d.settings.registry.addons.filter (·.handles k)).map Addon.bare =
    (d'.settings.registry.addons.filter (·.handles k)).map Addon.bare
  endings : EndAlike (d.contacts.map Contact.bare) (d'.contacts.map Contact.bare)

theorem Account.Consults.judged {services : Services ν} {d : Account ν k} (h : d.Consults services) :
    JudgedByFilters services.scope d.contacts := by
  obtain ⟨depth, hf⟩ := h.faithful
  exact fun a m v hm => hf _ hm

/-- **Dispatches that begin alike**, and whose callbacks end alike, have the same result, by the same contacts. -/
theorem Account.Alike.result {services : Services ν} {d d' : Account ν k} (h : d.Alike d')
    (hd : d.Consults services) (hd' : d'.Consults services) :
    d.contacts.map Contact.bare = d'.contacts.map Contact.bare ∧ d.action = d'.action := by
  by_cases hr : d.settings.options.Refuses services.scope d.message
  · have hr' : d'.settings.options.Refuses services.scope d'.message := h.message ▸ h.options ▸ hr
    obtain ⟨hc, ha⟩ := hd.refused hr
    obtain ⟨hc', ha'⟩ := hd'.refused hr'
    rw [hc, hc', ha, ha', h.message]
    exact ⟨rfl, rfl⟩
  · have hr' : ¬ d'.settings.options.Refuses services.scope d'.message := h.message ▸ h.options ▸ hr
    have hroute := hd.admitted hr
    rw [h.message] at hroute
    exact hroute.alike (hd'.admitted hr') h.addons hd.judged hd'.judged h.endings

/-! ### Runs -/

def Engine.withSettings (s : Engine ν) (x : Settings ν) : Engine ν :=
  { s with installed := some x.registry, options := x.options }

def Engine.performAll (services : Services ν) (depth : Nat) (s : Engine ν) (ops : List (Operation ν)) : Engine ν :=
  ops.foldl (fun s op => (perform services depth op s).2) s

namespace Chronicle

def performAll (services : Services ν) (depth : Nat) (c : Chronicle ν) (ops : List (Operation ν)) : Chronicle ν :=
  ops.foldl (fun c op => (perform services depth op c).2) c

/-- The chronicle of operations that an engine performs, from settings on. -/
def ofRun (services : Services ν) (depth : Nat) (x : Settings ν) (s : Engine ν) (ops : List (Operation ν)) :
    Chronicle ν :=
  performAll services depth ⟨[], s.withSettings x⟩ ops

variable (services : Services ν) (depth : Nat) (x : Settings ν)

/-- The induction over the operations of a run. -/
theorem performAll_grows (c : Chronicle ν) (ops : List (Operation ν)) :
    (c.performAll services depth ops).now = c.now.performAll services depth ops ∧
      Grows services x c (c.performAll services depth ops) := by
  induction ops generalizing c with
  | nil => exact ⟨rfl, .refl c⟩
  | cons op ops ih =>
    obtain ⟨hn, hg⟩ := ih (perform services depth op c).2
    refine ⟨?_, (perform_grows services x depth op c).trans hg⟩
    rw [Engine.performAll, List.foldl_cons, perform_erases]
    exact hn

theorem ofRun_adds (s : Engine ν) (ops : List (Operation ν)) :
    Adds services x (s.log.filter Record.beginsDispatch) ⟨[], s.withSettings x⟩ (ofRun services depth x s ops)
      (ofRun services depth x s ops).happenings := by
  obtain ⟨hs, a⟩ := (performAll_grows services depth x ⟨[], s.withSettings x⟩ ops).2
    (s.log.filter Record.beginsDispatch) ⟨rfl, rfl, rfl⟩
  obtain rfl : (ofRun services depth x s ops).happenings = hs := a.happenings
  exact a

end Chronicle

/-- **Dispatches keep to what they found**, in every run of an engine with any registry installed, and with callbacks
that ask for whatever they like, at any depth. -/
theorem dispatch_snapshot (services : Services ν) (depth : Nat) (x : Settings ν) (s : Engine ν)
    (ops : List (Operation ν)) :
    let c := Chronicle.ofRun services depth x s ops
    -- the chronicle is that of the run, its settings are those of the engine, and no dispatch is missing in it
    c.now = (s.withSettings x).performAll services depth ops ∧
    c.now.installed = some (x.inForce c.happenings).registry ∧ c.now.options = (x.inForce c.happenings).options ∧
    (c.now.log.filter Record.beginsDispatch).Perm
      (s.log.filter Record.beginsDispatch ++ c.happenings.filterMap (Happening.record? services)) ∧
    -- every dispatch finds the settings that are in force when it begins, and keeps to them
    (∀ {k : EventKind} (d : Account ν k), .dispatched k d ∈ c.happenings → d.Told services x c.happenings) ∧
    -- a dispatch that begins after a registry has been installed, and before another one is, finds this registry
    (∀ {k : EventKind} (d : Account ν k) (r : Registry ν) (before between : List (Happening ν)),
      .dispatched k d ∈ c.happenings → c.happenings.take d.since = before ++ .installed r :: between →
      (∀ r', .installed r' ∉ between) → d.settings.registry = r) ∧
    -- what else happens during a dispatch does not change its result, here or in any other run
    (∀ (depth' : Nat) (x' : Settings ν) (s' : Engine ν) (ops' : List (Operation ν)) {k : EventKind}
      (d d' : Account ν k), .dispatched k d ∈ c.happenings →
      .dispatched k d' ∈ (Chronicle.ofRun services depth' x' s' ops').happenings → d.Alike d' →
      d.contacts.map Contact.bare = d'.contacts.map Contact.bare ∧ d.action = d'.action) := by
  intro c
  have a := Chronicle.ofRun_adds services depth x s ops
  obtain ⟨begun, hr, hp⟩ := a.runs
  refine ⟨(Chronicle.performAll_grows services depth x _ ops).1, hr.installed, hr.options, hr.log ▸ hp,
    fun d hd => a.accounts d hd, fun d r before between hd ht hb => ?_,
    fun depth' x' s' ops' k d d' hd hd' h => ?_⟩
  · rw [(a.accounts d hd).settings, ht, x.inForce_installed before between hb]
  · have a' := Chronicle.ofRun_adds services depth' x' s' ops'
    exact h.result (a.accounts d hd).consults (a'.accounts d' hd').consults

/-- The first addon of two installs another registry and dispatches the message again: the inner dispatch, which ends
first, consults the new registry, and the outer one goes on to the second addon. -/
example :
    let m : Request := .new ⟨"GET", by decide⟩ (.origin .asterisk)
    let calm : AddonSpec Unit := { AddonSpec.empty with onRequest := some fun m _ => .finish (.ok (.proceed m)) }
    let swapping (m : Request) : Program Unit .request :=
      .ask (.reload [calm] []) fun _ => .ask (.dispatch ⟨.request, m⟩) fun _ => .finish (.ok (.proceed m))
    let swap : AddonSpec Unit := { AddonSpec.empty with onRequest := some fun m _ => swapping m }
    let c := Chronicle.ofRun {} 2 ⟨.load 1 [swap, calm] [], {}⟩ {} [.dispatch ⟨.request, m⟩]
    c.happenings.map (fun
      | .dispatched _ d => some (d.since, d.settings.registry.generation, d.contacts.length)
      | _ => none) = [none, some (1, 1, 2), some (0, 1, 4)] := by
  rfl

end InterceptAddons
