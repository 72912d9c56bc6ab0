import InterceptAddons.Proofs.Engine.Walk

/-!
# Endings of callbacks

What a walk learns from outside is how its callbacks end. Main statement: `Route.alike`. Two routes through addons
that differ at most in their callbacks, with the same first message and the verdicts that their filters have, are the
same but for the callbacks and have the same result, if callbacks that are called in the same place with the same
message end alike.
`Route.begins` takes a route apart into its first visit and the rest; the proofs are by induction over the addons.
-/

namespace InterceptAddons

open Http

variable {ν ν' : Type} {k : EventKind}

/-! ### Beginnings of routes -/

/-- What a walk does after a callback that has been called with a message. -/
def visitOf (m : Traffic k) : Ending (Traffic k) → Visit (Traffic k)
  | .ok (.proceed m') => .continue m'
  | .ok .drop => .stop .drop
  | .ok (.intercept m') => .stop (.intercept m')
  | .error _ => .continue m

theorem Visited.of_called (a : Addon ν) (m : Traffic k) (e : Ending (Traffic k)) :
    Visited a m [.asked a m (.ok true), .called a m e] (visitOf m e) := by
  rcases e with f | (m' | _ | m')
  · exact .failed f
  · exact .proceeded m'
  · exact .dropped
  · exact .intercepted m'

/-- How a route through an addon and further ones begins, and what is left of it after the addon. -/
inductive Begins (a : Addon ν) (as : List (Addon ν)) (m : Traffic k) (action : Action (Traffic k)) :
    List (Contact ν k) → Prop
  | passedOver {v : Except Filter.EvalError Bool} {t : List (Contact ν k)} (hv : v ≠ .ok true)
    (h : Route as m t action) : Begins a as m action (.asked a m v :: t)
  | continued {e : Ending (Traffic k)} {m' : Traffic k} {t : List (Contact ν k)} (he : visitOf m e = .continue m')
    (h : Route as m' t action) : Begins a as m action (.asked a m (.ok true) :: .called a m e :: t)
  | stopped {e : Ending (Traffic k)} (he : visitOf m e = .stop action) :
    Begins a as m action [.asked a m (.ok true), .called a m e]

namespace Route

variable {a : Addon ν} {as : List (Addon ν)} {m m' : Traffic k} {t u : List (Contact ν k)}
  {action : Action (Traffic k)}

/-- A route begins with the filter of its first addon. -/
theorem head {c : Contact ν k} (h : Route as m (c :: t) action) :
    ∃ a v as', as = a :: as' ∧ c = .asked a m v := by
  have hc := h.placed [] c t rfl
  obtain ⟨rest, has, -⟩ := h.asked
  cases c with
  | asked a m₁ v =>
    obtain rfl : m₁ = m := hc.message
    exact ⟨a, v, t.filterMap Contact.asked? ++ rest, has, rfl⟩
  | called a m₁ e =>
    -- no callback comes without a filter before it
    obtain ⟨rest, hrest⟩ := hc.paired
    simp at hrest

theorem of_nil (h : Route ([] : List (Addon ν)) m t action) : t = [] ∧ action = .proceed m := by
  cases t with
  | nil => exact ⟨rfl, h.action⟩
  | cons c t =>
    obtain ⟨a, v, as', has, -⟩ := h.head
    cases has

/-- The rest of a route after a visit is a route. -/
theorem tail (h : Route (a :: as) m (u ++ t) action) (hu : Visited a m u (.continue m')) :
    Route as m' t action := by
  have hl : ∀ a m, Contact.asked a m (.ok true) ∉ u.getLast? := by cases hu <;> simp_all
  refine ⟨?_, fun before c after ht => ?_, ?_⟩
  · obtain ⟨rest, has, hend⟩ := h.asked
    rw [List.filterMap_append, hu.asked_eq] at has
    refine ⟨rest, (List.cons.inj has).2, fun hne => ?_⟩
    obtain ⟨c, hc, hstop⟩ := hend hne
    rw [List.getLast?_append, Option.mem_def, Option.or_eq_some_iff] at hc
    rcases hc with hc | ⟨-, hc⟩
    · exact ⟨c, hc, hstop⟩
    · rw [hu.stop_eq_none c (List.mem_of_getLast? hc)] at hstop
      cases hstop
  · have hp := h.placed (u ++ before) c after (by rw [ht, List.append_assoc])
    refine ⟨by rw [hp.message, latest_append, hu.latest_eq], ?_, hp.stops⟩
    cases c with
    | asked a' m₁ v => exact hp.paired
    | called a' m₁ e =>
      -- the filter before the call is not the last contact of the visit, so it comes after the visit
      obtain ⟨rest, hrest⟩ := hp.paired
      have hlast := List.getLast?_eq_some_iff.2 ⟨rest, hrest⟩
      rw [List.getLast?_append, Option.or_eq_some_iff] at hlast
      rcases hlast with hb | ⟨-, hb⟩
      · exact List.getLast?_eq_some_iff.1 hb
      · exact absurd hb (hl a' m₁)
  · rw [h.action, List.findSome?_append, List.findSome?_eq_none_iff.2 hu.stop_eq_none, Option.none_or,
      latest_append, hu.latest_eq]

/-- **The beginning of a route.** -/
theorem begins (h : Route (a :: as) m t action) : Begins a as m action t := by
  cases t with
  | nil =>
    obtain ⟨rest, has, hend⟩ := h.asked
    have hne : rest ≠ [] := by
      rintro rfl
      cases has
    obtain ⟨c, hc, -⟩ := hend hne
    cases hc
  | cons c t =>
    obtain ⟨a', v, as', has, rfl⟩ := h.head
    obtain ⟨rfl, rfl⟩ := List.cons.inj has
    have hv : v = .ok true ↔ ∃ e rest, t = .called a m e :: rest := (h.placed [] _ t rfl).paired
    by_cases htrue : v = .ok true
    · subst htrue
      obtain ⟨e, t, rfl⟩ := hv.1 rfl
      have hstop := (h.placed [.asked a m (.ok true)] _ t rfl).stops
      have haction := h.action
      rcases e with f | (m' | _ | m')
      · exact .continued rfl (tail (u := [_, _]) h (.failed f))
      · exact .continued rfl (tail (u := [_, _]) h (.proceeded m'))
      · obtain rfl := hstop rfl
        obtain rfl : action = .drop := haction
        exact .stopped rfl
      · obtain rfl := hstop rfl
        obtain rfl : action = .intercept m' := haction
        exact .stopped rfl
    · exact .passedOver htrue (tail (u := [_]) h (.passedOver htrue))

end Route

/-! ### Routes with the same endings -/

/-- A call: the addon, the message that its callback is given, and how the callback ends. -/
def Contact.call? : Contact ν k → Option (Addon ν × Traffic k × Ending (Traffic k))
  | .asked _ _ _ => none
  | .called a m e => some (a, m, e)

/-- The filters give the verdicts of a function. -/
def Judged (verdict : Addon ν → Traffic k → Except Filter.EvalError Bool) (t : List (Contact ν k)) : Prop :=
  ∀ a m v, .asked a m v ∈ t → v = verdict a m

theorem Judged.of_append {verdict : Addon ν → Traffic k → Except Filter.EvalError Bool} {u t : List (Contact ν k)}
    (h : Judged verdict (u ++ t)) : Judged verdict t :=
  fun a m v hm => h a m v (List.mem_append_right u hm)

/-- Calls in the same place, of the same addon and with the same message, end alike. -/
def EndAlike (t t' : List (Contact ν k)) : Prop :=
  ∀ (i : Nat) (a : Addon ν) (m : Traffic k) (e e' : Ending (Traffic k)),
    (t.filterMap Contact.call?)[i]? = some (a, m, e) → (t'.filterMap Contact.call?)[i]? = some (a, m, e') → e = e'

theorem EndAlike.of_called {a : Addon ν} {m : Traffic k} {v v' : Except Filter.EvalError Bool}
    {e e' : Ending (Traffic k)} {t t' : List (Contact ν k)}
    (h : EndAlike (.asked a m v :: .called a m e :: t) (.asked a m v' :: .called a m e' :: t')) :
    e = e' ∧ EndAlike t t' :=
  ⟨h 0 a m e e' rfl rfl, fun i b n f f' hf hf' => h (i + 1) b n f f' hf hf'⟩

section

variable {verdict : Addon ν → Traffic k → Except Filter.EvalError Bool} {t t' : List (Contact ν k)} {m : Traffic k}
  {action action' : Action (Traffic k)}

/-- Two routes through the same addons make their first visit in the same way. With it both of them end, or they go on
with the same message. -/
theorem Begins.alike {a : Addon ν} {as : List (Addon ν)} (h : Begins a as m action t) (h' : Begins a as m action' t')
    (hv : Judged verdict t) (hv' : Judged verdict t') (he : EndAlike t t') :
    (t = t' ∧ action = action') ∨ ∃ u m' r r', t = u ++ r ∧ t' = u ++ r' ∧ Route as m' r action ∧
      Route as m' r' action' ∧ EndAlike r r' := by
  cases h with
  | @passedOver v r hn hr =>
    obtain rfl := hv a m v List.mem_cons_self
    cases h' with
    | @passedOver v' r' hn' hr' =>
      obtain rfl := hv' a m v' List.mem_cons_self
      exact .inr ⟨[_], m, r, r', rfl, rfl, hr, hr', he⟩
    | continued | stopped => exact absurd (hv' a m _ List.mem_cons_self).symm hn
  | @continued e m' r hm hr =>
    have htrue := hv a m _ List.mem_cons_self
    cases h' with
    | @passedOver v' r' hn' hr' => exact absurd ((hv' a m v' List.mem_cons_self).trans htrue.symm) hn'
    | @continued e' m'' r' hm' hr' =>
      obtain ⟨rfl, hrest⟩ := he.of_called
      obtain rfl : m' = m'' := Visit.continue.inj (hm.symm.trans hm')
      exact .inr ⟨[_, _], m', r, r', rfl, rfl, hr, hr', hrest⟩
    | stopped hm' =>
      obtain ⟨rfl, -⟩ := he.of_called
      cases hm.symm.trans hm'
  | @stopped e hm =>
    have htrue := hv a m _ List.mem_cons_self
    cases h' with
    | @passedOver v' r' hn' hr' => exact absurd ((hv' a m v' List.mem_cons_self).trans htrue.symm) hn'
    | continued hm' =>
      obtain ⟨rfl, -⟩ := he.of_called
      cases hm.symm.trans hm'
    | stopped hm' =>
      obtain ⟨rfl, -⟩ := he.of_called
      exact .inl ⟨rfl, Visit.stop.inj (hm.symm.trans hm')⟩

/-- **A route is determined** by its addons and its first message, the verdicts of the filters, and how the callbacks
end that it calls. -/
theorem Route.unique {as : List (Addon ν)} (h : Route as m t action) (h' : Route as m t' action')
    (hv : Judged verdict t) (hv' : Judged verdict t') (he : EndAlike t t') : t = t' ∧ action = action' := by
  induction as generalizing m t t' with
  | nil =>
    obtain ⟨rfl, rfl⟩ := h.of_nil
    obtain ⟨rfl, rfl⟩ := h'.of_nil
    exact ⟨rfl, rfl⟩
  | cons a as ih =>
    rcases h.begins.alike h'.begins hv hv' he with hends | ⟨u, m', r, r', rfl, rfl, hr, hr', hrest⟩
    · exact hends
    · obtain ⟨rfl, rfl⟩ := ih hr hr' hv.of_append hv'.of_append hrest
      exact ⟨rfl, rfl⟩

end

/-! ### Other callbacks -/

def Contact.map (f : Addon ν → Addon ν') : Contact ν k → Contact ν' k
  | .asked a m v => .asked (f a) m v
  | .called a m e => .called (f a) m e

/-- Putting other addons in the place of all addons of a route gives a route through them. -/
theorem Route.map (f : Addon ν → Addon ν') {as : List (Addon ν)} {m : Traffic k} {t : List (Contact ν k)}
    {action : Action (Traffic k)} (h : Route as m t action) :
    Route (as.map f) m (t.map (Contact.map f)) action := by
  induction as generalizing m t with
  | nil =>
    obtain ⟨rfl, rfl⟩ := h.of_nil
    exact .nil m
  | cons a as ih =>
    cases h.begins with
    | passedOver hv hr => exact .ofContinue (.passedOver hv) (ih hr)
    | continued he hr => exact .ofContinue (he ▸ Visited.of_called (f a) _ _) (ih hr)
    | stopped he => exact .ofStop (he ▸ Visited.of_called (f a) _ _)

/-- The addon with its filters but without its callbacks. -/
def Addon.bare (a : Addon ν) : Addon ν :=
  { a with onRequest := none, onResponse := none, onInit := none, onCleanup := none }

def Contact.bare : Contact ν k → Contact ν k := Contact.map Addon.bare

/-- The filter of every addon gives the verdict that it has on the message. -/
def JudgedByFilters (scope : Scope) (t : List (Contact ν k)) : Prop :=
  Judged (fun a m => (a.filter k).selects (.of m scope)) t

theorem JudgedByFilters.bare {scope : Scope} {t : List (Contact ν k)} (h : JudgedByFilters scope t) :
    JudgedByFilters scope (t.map Contact.bare) := by
  intro a m v hm
  obtain ⟨c, hc, hb⟩ := List.mem_map.1 hm
  cases c with
  | asked a' m' v' =>
    cases hb
    rw [h a' m v hc]
    cases k <;> rfl
  | called a' m' e => cases hb

/-- **Routes that end alike.** The callbacks themselves, and whatever they did besides, make no difference. -/
theorem Route.alike {scope : Scope} {as as' : List (Addon ν)} {m : Traffic k} {t t' : List (Contact ν k)}
    {action action' : Action (Traffic k)} (h : Route as m t action) (h' : Route as' m t' action')
    (ha : as.map Addon.bare = as'.map Addon.bare) (hv : JudgedByFilters scope t) (hv' : JudgedByFilters scope t')
    (he : EndAlike (t.map Contact.bare) (t'.map Contact.bare)) :
    t.map Contact.bare = t'.map Contact.bare ∧ action = action' := by
  have hb : Route (as'.map Addon.bare) m (t.map Contact.bare) action := ha ▸ h.map Addon.bare
  exact hb.unique (h'.map Addon.bare) hv.bare hv'.bare he

end InterceptAddons
