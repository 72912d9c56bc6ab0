import InterceptAddons.Proofs.Engine.Inert
import InterceptAddons.Proofs.Engine.Ownership

/-!
# The events of a dispatch

`Journal` gives the events that belong to the way of a message through addons: one for every addon that is visited and
does not just pass the message on. Main statement: `dispatch_journal`. If the callbacks that are called ask for nothing,
the engine writes these events and no others; a message that the switches refuse leaves one event.
-/

namespace InterceptAddons

open Http

variable {ν : Type} {k : EventKind}

/-! ### Programs that ask for nothing -/

/-- A program makes just these remarks, asks for nothing, and ends in this way. -/
inductive Program.Says : Program ν k → List (Remark ν) → Ending (Traffic k) → Prop
  | finish (ending : Ending (Traffic k)) : Says (.finish ending) [] ending
  | say (remark : Remark ν) {next : Program ν k} {remarks : List (Remark ν)} {ending : Ending (Traffic k)}
    (h : Says next remarks ending) : Says (.say remark next) (remark :: remarks) ending

theorem Program.Says.run_eq {p : Program ν k} {remarks : List (Remark ν)} {ending : Ending (Traffic k)}
    (h : p.Says remarks ending) (ask : Engine.Performer ν) (s : Engine ν) :
    p.run ask (fun r s => s.write (.remark r)) s = (ending, s.writeAll (remarks.map .remark)) := by
  induction h generalizing s with
  | finish ending =>
    rw [run, List.map_nil, Engine.writeAll, List.append_nil]
  | say remark h ih =>
    rw [run, ih, Engine.writeAll, Engine.writeAll, Engine.write, List.append_assoc]
    rfl

/-- The callback of a contact asks for nothing, if the contact is a call. -/
def Contact.AsksNothing (services : Services ν) : Contact ν k → Prop
  | .asked _ _ _ => True
  | .called a m _ => ∀ f, a.callback? k = some f → ∃ remarks ending, (f m (a.context services m)).Says remarks ending

/-! ### Events -/

/-- The event that a record of the engine is, if it is one; remarks are of others, and spans are no events. -/
def Record.event? (r : Record ν) : Option (Entry ν) :=
  match r, r.entry with
  | .remark _, _ => none
  | _, .event level message fields => some (.event level message fields)
  | _, _ => none

/-- The events of a message on its way through addons, and the action at its end. -/
inductive Journal (services : Services ν) :
    List (Addon ν) → Traffic k → List (Entry ν) → Action (Traffic k) → Prop
  /-- No addon is left. -/
  | done (m : Traffic k) : Journal services [] m [] (.proceed m)
  /-- An addon without a callback is not visited. -/
  | unvisited {a : Addon ν} {as : List (Addon ν)} {m : Traffic k} {es : List (Entry ν)} {action : Action (Traffic k)}
    (hf : a.callback? k = none) (h : Journal services as m es action) : Journal services (a :: as) m es action
  /-- The filter does not select the message. -/
  | missed {a : Addon ν} {as : List (Addon ν)} {m : Traffic k} {es : List (Entry ν)} {action : Action (Traffic k)}
    (hf : a.callback? k ≠ none) (hv : (a.filter k).selects (.of m services.scope) = .ok false)
    (h : Journal services as m es action) :
    Journal services (a :: as) m (.event .trace "filter did not match" [("addon", .text a.id.print)] :: es) action
  /-- The filter cannot be evaluated. -/
  | unevaluated {a : Addon ν} {as : List (Addon ν)} {m : Traffic k} {es : List (Entry ν)}
    {action : Action (Traffic k)} {e : Filter.EvalError} (hf : a.callback? k ≠ none)
    (hv : (a.filter k).selects (.of m services.scope) = .error e) (h : Journal services as m es action) :
    Journal services (a :: as) m
      (.event .warn "filter failed, treated as no match" [("addon", .text a.id.print), ("error", .text e.message)] :: es)
      action
  /-- The callback passes a message on. -/
  | proceeded {a : Addon ν} {as : List (Addon ν)} {m m' : Traffic k} {es : List (Entry ν)}
    {action : Action (Traffic k)} {f : Callback ν k} {remarks : List (Remark ν)} (hf : a.callback? k = some f)
    (hv : (a.filter k).selects (.of m services.scope) = .ok true)
    (hp : (f m (a.context services m)).Says remarks (.ok (.proceed m'))) (h : Journal services as m' es action) :
    Journal services (a :: as) m es action
  /-- The callback drops the message. -/
  | dropped {a : Addon ν} {as : List (Addon ν)} {m : Traffic k} {f : Callback ν k} {remarks : List (Remark ν)}
    (hf : a.callback? k = some f) (hv : (a.filter k).selects (.of m services.scope) = .ok true)
    (hp : (f m (a.context services m)).Says remarks (.ok .drop)) :
    Journal services (a :: as) m [.event .debug "dropped" [("addon", .text a.id.print)]] .drop
  /-- The callback holds a message. -/
  | intercepted {a : Addon ν} {as : List (Addon ν)} {m m' : Traffic k} {f : Callback ν k}
    {remarks : List (Remark ν)} (hf : a.callback? k = some f)
    (hv : (a.filter k).selects (.of m services.scope) = .ok true)
    (hp : (f m (a.context services m)).Says remarks (.ok (.intercept m'))) :
    Journal services (a :: as) m [.event .debug "intercepted" [("addon", .text a.id.print)]] (.intercept m')
  /-- The callback fails; the event names the message as it was given to the addon. -/
  | failed {a : Addon ν} {as : List (Addon ν)} {m : Traffic k} {es : List (Entry ν)} {action : Action (Traffic k)}
    {f : Callback ν k} {remarks : List (Remark ν)} {failure : Failure} (hf : a.callback? k = some f)
    (hv : (a.filter k).selects (.of m services.scope) = .ok true)
    (hp : (f m (a.context services m)).Says remarks (.error failure)) (h : Journal services as m es action) :
    Journal services (a :: as) m
      (.event .error "addon callback failed, continuing with the previous message"
        [("addon", .text a.id.print), ("event", .text k.name),
          ("message_id", .text (toString m.message.id.toNat)), ("error", .text failure.message)] :: es)
      action

theorem filterMap_event?_remarks (remarks : List (Remark ν)) :
    (remarks.map Record.remark).filterMap Record.event? = [] := by
  rw [List.filterMap_eq_nil_iff]
  intro x hx
  obtain ⟨r, -, rfl⟩ := List.mem_map.1 hx
  rfl

theorem filterMap_event?_append_singleton (remarks : List (Remark ν)) (r : Record ν) :
    (remarks.map Record.remark ++ [r]).filterMap Record.event? = r.event?.toList := by
  rw [List.filterMap_append, filterMap_event?_remarks, List.nil_append, List.filterMap_cons]
  cases r.event? <;> rfl

theorem Walker.called_mem_contacts {σ : Type} (w : Walker ν σ k) {a : Addon ν} {m : Traffic k} {s s' : σ}
    {f : Callback ν k} (hf : a.callback? k = some f) (hv : w.select a m s = (.ok true, s')) :
    .called a m (w.call a f m s').1 ∈ w.contacts a m s := by
  rcases he : w.call a f m s' with ⟨f' | (m' | _ | m'), s''⟩ <;>
    simp [contacts, visit, noting, settle, hf, hv, he]

namespace Engine

/-! ### Visits and walks -/

theorem writeAll_writeAll (s : Engine ν) (rs rs' : List (Record ν)) :
    (s.writeAll rs).writeAll rs' = s.writeAll (rs ++ rs') := by
  rw [writeAll, writeAll, writeAll, List.append_assoc]

theorem writeAll_nil (s : Engine ν) : s.writeAll [] = s := by
  rw [writeAll, List.append_nil]

variable (services : Services ν) (ask : Performer ν)

/-- The records of a visit, and what they add to the journal of the addons after it. -/
inductive Notes (a : Addon ν) (m : Traffic k) (added : List (Record ν)) : Visit (Traffic k) → Prop
  | continue (m' : Traffic k)
    (h : ∀ as es action, Journal services as m' es action →
      Journal services (a :: as) m (added.filterMap Record.event? ++ es) action) : Notes a m added (.continue m')
  | stop (action : Action (Traffic k))
    (h : ∀ as, Journal services (a :: as) m (added.filterMap Record.event?) action) : Notes a m added (.stop action)

/-- What a visit to an addon writes, if its callback asks for nothing. -/
theorem visit_notes (a : Addon ν) (m : Traffic k) (s : Engine ν)
    (hquiet : ∀ c ∈ (walker services ask k).contacts a m s, c.AsksNothing services) :
    ∃ added, ((walker services ask k).visit a m s).2 = s.writeAll added ∧
      Notes services a m added ((walker services ask k).visit a m s).1 := by
  cases hf : a.callback? k with
  | none =>
    rw [Walker.visit_of_not_handles _ (by simp [Addon.handles, hf])]
    exact ⟨[], (writeAll_nil s).symm, .continue m fun _ _ _ h => .unvisited hf h⟩
  | some f =>
    have hne : a.callback? k ≠ none := by simp [hf]
    have hselect : (walker services ask k).select a m s = ((a.filter k).selects (.of m services.scope), s) := rfl
    rcases hv : (a.filter k).selects (.of m services.scope) with e | (_ | _)
    · rw [hv] at hselect
      rw [Walker.visit, hf]
      simp only [hselect]
      exact ⟨[.filterFailed a.id e], rfl, .continue m fun _ _ _ h => .unevaluated hne hv h⟩
    · rw [hv] at hselect
      rw [Walker.visit, hf]
      simp only [hselect]
      exact ⟨[.filterMissed a.id], rfl, .continue m fun _ _ _ h => .missed hne hv h⟩
    · rw [hv] at hselect
      obtain ⟨remarks, ending, hp⟩ := hquiet _ ((walker services ask k).called_mem_contacts hf hselect) f hf
      have hcall : (walker services ask k).call a f m s = (ending, s.writeAll (remarks.map .remark)) :=
        hp.run_eq ask s
      have hvisit : (walker services ask k).visit a m s =
          (walker services ask k).settle a m (s.writeAll (remarks.map .remark)) ending := by
        rw [Walker.visit, hf]
        simp only [hselect, hcall]
      have hwrite (x : Record ν) : (s.writeAll (remarks.map .remark)).write x = s.writeAll (remarks.map .remark ++ [x]) :=
        writeAll_writeAll s _ [x]
      rw [hvisit]
      rcases ending with failure | (m' | _ | m')
      · refine ⟨_, hwrite (.callbackFailed a.id k m.message.id failure), .continue m fun _ _ _ h => ?_⟩
        rw [filterMap_event?_append_singleton]
        exact .failed hf hv hp h
      · refine ⟨remarks.map .remark, rfl, .continue m' fun _ _ _ h => ?_⟩
        rw [filterMap_event?_remarks]
        exact .proceeded hf hv hp h
      · refine ⟨_, hwrite (.dropped a.id), .stop .drop fun _ => ?_⟩
        rw [filterMap_event?_append_singleton]
        exact .dropped hf hv hp
      · refine ⟨_, hwrite (.intercepted a.id), .stop (.intercept m') fun _ => ?_⟩
        rw [filterMap_event?_append_singleton]
        exact .intercepted hf hv hp

/-- What a walk writes, if the callbacks that it calls ask for nothing. -/
theorem walk_journal (as : List (Addon ν)) (m : Traffic k) (s : Engine ν) (t : List (Contact ν k))
    (hquiet : ∀ c ∈ ((walker services ask k).noting.walk as m (s, t)).2.2, c.AsksNothing services) :
    ∃ added, ((walker services ask k).walk as m s).2 = s.writeAll added ∧
      Journal services as m (added.filterMap Record.event?) ((walker services ask k).walk as m s).1 := by
  induction as generalizing m s t with
  | nil => exact ⟨[], (writeAll_nil s).symm, .done m⟩
  | cons a as ih =>
    rw [Walker.walk, Walker.visit_noting_eq] at hquiet
    rw [Walker.walk]
    rcases hv : (walker services ask k).visit a m s with ⟨m' | action, s'⟩
    · rw [hv] at hquiet
      -- the contacts of the visit are among those of the walk, for the rest of the walk only adds to them
      have hfirst : ∀ c ∈ (walker services ask k).contacts a m s, c.AsksNothing services := fun c hc => by
        obtain ⟨u, -, -, hu⟩ :=
          (walker services ask k).walk_noting as m' s' (t ++ (walker services ask k).contacts a m s)
        refine hquiet c ?_
        simp only [hu]
        exact List.mem_append_left _ (List.mem_append_right _ hc)
      obtain ⟨first, hs', hnotes⟩ := visit_notes services ask a m s hfirst
      rw [hv] at hs' hnotes
      obtain ⟨rest, hrest, hjournal⟩ := ih m' s' _ hquiet
      cases hnotes with
      | «continue» _ h =>
        refine ⟨first ++ rest, ?_, ?_⟩
        · rw [← writeAll_writeAll, ← hs', ← hrest]
        · rw [List.filterMap_append]
          exact h _ _ _ hjournal
    · rw [hv] at hquiet
      have hfirst : ∀ c ∈ (walker services ask k).contacts a m s, c.AsksNothing services := fun c hc =>
        hquiet c (List.mem_append_right _ hc)
      obtain ⟨first, hs', hnotes⟩ := visit_notes services ask a m s hfirst
      rw [hv] at hs' hnotes
      cases hnotes with
      | stop _ h => exact ⟨first, hs', h as⟩

/-! ### Dispatches -/

/-- A walk that only writes leaves its registry installed, so that nothing is unloaded at its end. -/
theorem log_leave {s : Engine ν} {r : Registry ν} (hr : s.installed = some r) : (s.leave r).log = s.log := by
  have howns : { s with walking := s.walking.tail }.owns r = true := owns_of_mem (mem_owners.2 (.inl hr))
  rw [leave, letGo_of_owns howns]

/-- **The events of a dispatch**, in any state and with any registry installed, if the callbacks that it calls ask for
nothing. A message that the switches refuse leaves the one event that it is bypassed. Any other leaves the events of its
way through the addons of the registry, and no others. -/
theorem dispatch_journal (services : Services ν) (ask : Performer ν) (m : Traffic k) (s : Engine ν) (r : Registry ν)
    (hquiet : ∀ c ∈ ({ s with installed := some r }.dispatchNoting services ask m).2, c.AsksNothing services) :
    let s := { s with installed := some r }
    ∃ added, (s.dispatch services ask m).2.log = s.log ++ added ∧
      (s.options.Refuses services.scope m →
        added.filterMap Record.event? = [.event .trace "event bypassed by dispatch options"
          [("event", .text k.name), ("message_id", .text (toString m.message.id.toNat))]]) ∧
      (¬ s.options.Refuses services.scope m →
        Journal services r.addons m (added.filterMap Record.event?) (s.dispatch services ask m).1) := by
  intro s
  have hr : s.installed = some r := rfl
  by_cases ha : s.options.admits services.scope m = true
  · have hn : ¬ s.options.Refuses services.scope m := by
      rw [DispatchOptions.refuses_iff, ha]
      exact Bool.noConfusion
    let begin : Record ν := .dispatching k m.message.id r.generation
    have hcontacts : (s.dispatchNoting services ask m).2 =
        ((walker services ask k).noting.walk r.addons m ((s.enter r).write begin, [])).2.2 := by
      simp only [dispatchNoting, hr, if_pos ha, begin]
    have hquiet' : ∀ c ∈ (s.dispatchNoting services ask m).2, c.AsksNothing services := hquiet
    rw [hcontacts] at hquiet'
    obtain ⟨added, hwalk, hjournal⟩ := walk_journal services ask r.addons m _ [] hquiet'
    have hdispatch : s.dispatch services ask m =
        (((walker services ask k).walk r.addons m ((s.enter r).write begin)).1,
          (((s.enter r).write begin).writeAll added).leave r) := by
      rw [← hwalk]
      simp only [dispatch, hr, if_pos ha, begin]
    refine ⟨begin :: added, ?_, fun hf => absurd hf hn, fun _ => ?_⟩
    · have hlog : (((s.enter r).write begin).writeAll added).log = s.log ++ [begin] ++ added := rfl
      have hinstalled : (((s.enter r).write begin).writeAll added).installed = some r := rfl
      rw [hdispatch, log_leave hinstalled, hlog, List.append_assoc, List.singleton_append]
    · rw [hdispatch]
      exact hjournal
  · have hf : s.options.Refuses services.scope m := by
      rw [DispatchOptions.refuses_iff]
      simpa using ha
    have hdispatch := (dispatch_of_refuses ask hr hf).2.1
    exact ⟨[.bypassed k m.message.id], by rw [hdispatch]; rfl, fun _ => rfl, fun hn => absurd hf hn⟩

/-- An addon changes the id of the message, the next one makes a remark and fails, and the last one drops it. -/
theorem dispatch_journal_failed :
    let marking : Addon Unit := ⟨.named "marking", 0, .always, .always,
      some fun m _ => .finish (.ok (.proceed (m.modify (·.setId 7)))), none, none, none⟩
    let failing : Addon Unit := ⟨.named "failing", 1, .always, .always,
      some fun _ ctx => .say (ctx.remark .info "seen" none) (.finish (.error (.returned "no"))), none, none, none⟩
    let dropping : Addon Unit :=
      ⟨.index 2, 2, .always, .always, some fun _ _ => .finish (.ok .drop), none, none, none⟩
    let m : Traffic .request := Request.new ⟨"GET", by decide⟩ (.origin .asterisk)
    let s : Engine Unit := { installed := some ⟨1, [marking, failing, dropping], []⟩ }
    (∀ c ∈ (s.dispatchNoting {} (perform {} 0) m).2, c.AsksNothing {}) ∧
      Journal {} [marking, failing, dropping] m
        [.event .error "addon callback failed, continuing with the previous message"
          [("addon", .text "failing"), ("event", .text "request"), ("message_id", .text "7"), ("error", .text "no")],
          .event .debug "dropped" [("addon", .text "addon#2")]] .drop := by
  intro marking failing dropping m s
  have hcontacts : (s.dispatchNoting {} (perform {} 0) m).2 =
      [.asked marking m (.ok true), .called marking m (.ok (.proceed (m.modify (·.setId 7)))),
        .asked failing (m.modify (·.setId 7)) (.ok true),
        .called failing (m.modify (·.setId 7)) (.error (.returned "no")),
        .asked dropping (m.modify (·.setId 7)) (.ok true), .called dropping (m.modify (·.setId 7)) (.ok .drop)] := rfl
  have hquiet : ∀ c ∈ (s.dispatchNoting {} (perform {} 0) m).2, c.AsksNothing {} := by
    rw [hcontacts]
    refine List.forall_mem_cons.2 ⟨trivial, List.forall_mem_cons.2 ⟨fun f hf => ?_, List.forall_mem_cons.2 ⟨trivial,
      List.forall_mem_cons.2 ⟨fun f hf => ?_, List.forall_mem_cons.2 ⟨trivial,
        List.forall_mem_singleton.2 fun f hf => ?_⟩⟩⟩⟩⟩
    · obtain rfl := Option.some.inj hf
      exact ⟨_, _, .finish _⟩
    · obtain rfl := Option.some.inj hf
      exact ⟨_, _, .say _ (.finish _)⟩
    · obtain rfl := Option.some.inj hf
      exact ⟨_, _, .finish _⟩
  obtain ⟨added, hlog, -, hjournal⟩ :=
    dispatch_journal {} (perform {} 0) m {} ⟨1, [marking, failing, dropping], []⟩ hquiet
  have hadmits : ¬ ({} : DispatchOptions).Refuses Scope.none m := by
    rw [DispatchOptions.refuses_iff]
    exact Bool.noConfusion
  have hadded : added = (s.dispatch {} (perform {} 0) m).2.log := hlog.symm
  have hevents : (s.dispatch {} (perform {} 0) m).2.log.filterMap Record.event? =
      [.event .error "addon callback failed, continuing with the previous message"
          [("addon", .text "failing"), ("event", .text "request"), ("message_id", .text "7"), ("error", .text "no")],
        .event .debug "dropped" [("addon", .text "addon#2")]] := by decide +kernel
  have haction : (s.dispatch {} (perform {} 0) m).1 = .drop := rfl
  have h := hjournal hadmits
  rw [hadded, hevents] at h
  exact ⟨hquiet, haction ▸ h⟩

end Engine

end InterceptAddons
