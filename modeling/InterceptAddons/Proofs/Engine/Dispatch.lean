import InterceptAddons.Engine.Dispatch
import InterceptAddons.Proofs.Engine.Walk

/-!
# The contacts of a dispatch

`Engine.dispatchNoting` is a dispatch with the contacts of its walk. Main statement: `dispatch_route`. A message
that the switches refuse is passed on at once, and no filter or callback is contacted; the contacts of any
other dispatch are a route through the addons of the installed registry that have a callback for the message.
-/

namespace InterceptAddons

open Http

variable {ν : Type} {k : EventKind}

/-! ### The gate -/

/-- Whether the switches keep a message from all addons. -/
def DispatchOptions.Refuses (o : DispatchOptions) (scope : Scope) (m : Traffic k) : Prop :=
  o.isActive = false ∨ (o.proxyOnly = true ∧ m.message.tool.isProxy = false) ∨
    (o.inScopeOnly = true ∧ scope m.request.url = false)

theorem DispatchOptions.refuses_iff {o : DispatchOptions} {scope : Scope} {m : Traffic k} :
    o.Refuses scope m ↔ o.admits scope m = false := by
  unfold Refuses admits
  cases o.isActive <;> cases o.proxyOnly <;> cases o.inScopeOnly <;>
    cases m.message.tool.isProxy <;> simp

namespace Engine

/-! ### Dispatches that note their contacts -/

/-- A dispatch, with the contacts of its walk. -/
def dispatchNoting (services : Services ν) (ask : Performer ν) (m : Traffic k) (s : Engine ν) :
    (Action (Traffic k) × Engine ν) × List (Contact ν k) :=
  match s.installed with
  | none => ((.proceed m, s), [])
  | some r =>
    if s.options.admits services.scope m then
      let s := (s.enter r).write (.dispatching k m.message.id r.generation)
      let (action, s, contacts) := (walker services ask k).noting.walk r.addons m (s, [])
      ((action, s.leave r), contacts)
    else ((.proceed m, s.write (.bypassed k m.message.id)), [])

/-- Whether a contact tells the verdict of the addon's filter on its message, or how the program of the
addon's callback for its message ends. -/
def Faithful (services : Services ν) (ask : Performer ν) : Contact ν k → Prop
  | .asked a m v => v = (a.filter k).selects (.of m services.scope)
  | .called a m e => ∃ f s, a.callback? k = some f ∧
    e = ((f m (a.context services m)).run ask (fun r s => s.write (.remark r)) s).1

variable {services : Services ν} (ask : Performer ν) {m : Traffic k} {s : Engine ν} {r : Registry ν}

theorem faithful_of_reports {c : Contact ν k} (h : (walker services ask k).Reports c) :
    Faithful services ask c := by
  cases c with
  | asked a m v =>
    obtain ⟨s, hv⟩ := h
    exact hv
  | called a m e => exact h

theorem dispatch_of_refuses (hr : s.installed = some r) (h : s.options.Refuses services.scope m) :
    (s.dispatchNoting services ask m).1 = s.dispatch services ask m ∧
      s.dispatch services ask m = (.proceed m, s.write (.bypassed k m.message.id)) ∧
      (s.dispatchNoting services ask m).2 = [] := by
  have ha := DispatchOptions.refuses_iff.1 h
  simp [dispatch, dispatchNoting, hr, ha]

theorem dispatch_of_admits (hr : s.installed = some r) (h : s.options.admits services.scope m = true) :
    (s.dispatchNoting services ask m).1 = s.dispatch services ask m ∧
      Route (r.addons.filter (·.handles k)) m (s.dispatchNoting services ask m).2
        (s.dispatch services ask m).1 ∧
      ∀ c ∈ (s.dispatchNoting services ask m).2, Faithful services ask c := by
  obtain ⟨u, hu, hc, hn⟩ := (walker services ask k).walk_noting r.addons m
    ((s.enter r).write (.dispatching k m.message.id r.generation)) []
  simp only [dispatch, dispatchNoting, hr, h, if_true, hn, List.nil_append]
  exact ⟨trivial, hu, fun c hcu => faithful_of_reports ask (hc c hcu)⟩

theorem faithful_of_mem_dispatchNoting {c : Contact ν k} (h : c ∈ (s.dispatchNoting services ask m).2) :
    Faithful services ask c := by
  cases hr : s.installed with
  | none => simp [dispatchNoting, hr] at h
  | some r =>
    by_cases ha : s.options.admits services.scope m = true
    · exact (dispatch_of_admits ask hr ha).2.2 c h
    · have hf : s.options.Refuses services.scope m := by
        rw [DispatchOptions.refuses_iff]
        simpa using ha
      rw [(dispatch_of_refuses ask hr hf).2.2] at h
      cases h

/-- **Contacts of a dispatch**, in any state and with any registry installed. A message that the switches
refuse is passed on, and nobody is contacted. Any other message goes on a route through the addons that have a
callback for it, and the contacts tell the verdicts of their filters and the endings of their callbacks. -/
theorem dispatch_route (services : Services ν) (ask : Performer ν) (m : Traffic k) (s : Engine ν)
    (r : Registry ν) :
    let s := { s with installed := some r }
    let contacts := (s.dispatchNoting services ask m).2
    let action := (s.dispatch services ask m).1
    (s.dispatchNoting services ask m).1 = s.dispatch services ask m ∧
    (s.options.Refuses services.scope m →
      s.dispatch services ask m = (.proceed m, s.write (.bypassed k m.message.id)) ∧ contacts = []) ∧
    (¬ s.options.Refuses services.scope m →
      Route (r.addons.filter (·.handles k)) m contacts action ∧
      ∀ c ∈ contacts, Faithful services ask c) := by
  intro s contacts action
  have hr : s.installed = some r := rfl
  by_cases h : s.options.admits services.scope m = true
  · have hn : ¬ s.options.Refuses services.scope m := by
      rw [DispatchOptions.refuses_iff, h]
      simp
    have hd := dispatch_of_admits ask hr h
    exact ⟨hd.1, fun hf => absurd hf hn, fun _ => hd.2⟩
  · have hf : s.options.Refuses services.scope m := by
      rw [DispatchOptions.refuses_iff]
      simpa using h
    have hd := dispatch_of_refuses ask hr hf
    exact ⟨hd.1, fun _ => hd.2, fun hn => absurd hf hn⟩

end Engine

end InterceptAddons
