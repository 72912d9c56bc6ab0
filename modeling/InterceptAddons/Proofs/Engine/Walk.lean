import InterceptAddons.Engine.Walk

/-!
# The contacts of a walk

A walk evaluates filters and calls callbacks. `Walker.noting` is the same walk with a list of these contacts
beside its state, in the order in which they happen. Main statement: `Walker.walk_noting`, the noting walk is
the walk itself, and its contacts are a `Route`: they go through the addons that have a callback, in order and
up to the first action that ends the walk, and each contact is about the message that the latest callback
before it passed on.
-/

namespace InterceptAddons

open Http

variable {ν σ : Type} {k : EventKind}

/-! ### Contacts -/

/-- What a walk does with an addon: it evaluates the filter on a message, or calls the callback with one. -/
inductive Contact (ν : Type) (k : EventKind)
  | asked (a : Addon ν) (m : Traffic k) (verdict : Except Filter.EvalError Bool)
  | called (a : Addon ν) (m : Traffic k) (ending : Ending (Traffic k))

namespace Contact

def message : Contact ν k → Traffic k
  | .asked _ m _ | .called _ m _ => m

/-- The addon whose filter is evaluated. -/
def asked? : Contact ν k → Option (Addon ν)
  | .asked a _ _ => some a
  | .called _ _ _ => none

/-- The message that a callback passes on. -/
def passed? : Contact ν k → Option (Traffic k)
  | .called _ _ (.ok (.proceed m)) => some m
  | _ => none

/-- The action by which a callback ends the walk. -/
def stop? : Contact ν k → Option (Action (Traffic k))
  | .called _ _ (.ok .drop) => some .drop
  | .called _ _ (.ok (.intercept m)) => some (.intercept m)
  | _ => none

end Contact

/-- The message after some contacts: the one that the latest callback passed on, or else the first one. -/
def latest (m : Traffic k) (t : List (Contact ν k)) : Traffic k :=
  (t.filterMap Contact.passed?).getLastD m

theorem latest_cons (m : Traffic k) (c : Contact ν k) (t : List (Contact ν k)) :
    latest m (c :: t) = latest (c.passed?.getD m) t := by
  unfold latest
  cases h : c.passed? with
  | none => rw [List.filterMap_cons_none h]; rfl
  | some m' => rw [List.filterMap_cons_some h, List.getLastD_cons]; rfl

theorem latest_append (m : Traffic k) (t u : List (Contact ν k)) :
    latest m (t ++ u) = latest (latest m t) u := by
  induction t generalizing m with
  | nil => rfl
  | cons c t ih => rw [List.cons_append, latest_cons, latest_cons, ih]

def Addon.handles (a : Addon ν) (k : EventKind) : Bool := (a.callback? k).isSome

/-! ### Routes -/

/-- Whether a filter is followed by a call exactly if it selects the message, and a call comes right after
the filter has selected its message. -/
def Paired (before : List (Contact ν k)) (c : Contact ν k) (after : List (Contact ν k)) : Prop :=
  match c with
  | .asked a m v => v = .ok true ↔ ∃ e rest, after = .called a m e :: rest
  | .called a m _ => ∃ rest, before = rest ++ [.asked a m (.ok true)]

/-- What holds of a contact between those before it and those after it, on a walk that starts with `m`. -/
structure Placed (m : Traffic k) (before : List (Contact ν k)) (c : Contact ν k)
    (after : List (Contact ν k)) : Prop where
  /-- It is about the message that the latest callback before it passed on. -/
  message : c.message = latest m before
  /-- Filters that select and calls go together. -/
  paired : Paired before c after
  /-- Nothing comes after an action that ends the walk. -/
  stops : c.stop?.isSome → after = []

/-- The contacts of a walk through addons with callbacks, which starts with a message and ends with an
action. -/
structure Route (as : List (Addon ν)) (m : Traffic k) (t : List (Contact ν k))
    (action : Action (Traffic k)) : Prop where
  /-- Filters are evaluated in the order of the addons, up to the addon that ends the walk. -/
  asked : ∃ rest, as = t.filterMap Contact.asked? ++ rest ∧
    (rest ≠ [] → ∃ c ∈ t.getLast?, c.stop?.isSome)
  /-- Every contact is in its place. -/
  placed : ∀ before c after, t = before ++ c :: after → Placed m before c after
  /-- The result is the action that ends the walk, or else to pass the message on as it is in the end. -/
  action : action = (t.findSome? Contact.stop?).getD (.proceed (latest m t))

/-- The contacts of a visit to an addon with a callback, and what the walk does after it. -/
inductive Visited (a : Addon ν) (m : Traffic k) : List (Contact ν k) → Visit (Traffic k) → Prop
  | passedOver {v : Except Filter.EvalError Bool} (h : v ≠ .ok true) :
    Visited a m [.asked a m v] (.continue m)
  | failed (f : Failure) :
    Visited a m [.asked a m (.ok true), .called a m (.error f)] (.continue m)
  | proceeded (m' : Traffic k) :
    Visited a m [.asked a m (.ok true), .called a m (.ok (.proceed m'))] (.continue m')
  | dropped : Visited a m [.asked a m (.ok true), .called a m (.ok .drop)] (.stop .drop)
  | intercepted (m' : Traffic k) :
    Visited a m [.asked a m (.ok true), .called a m (.ok (.intercept m'))] (.stop (.intercept m'))

namespace Visited

variable {a : Addon ν} {m m' : Traffic k} {u : List (Contact ν k)}

theorem latest_eq (h : Visited a m u (.continue m')) : latest m u = m' := by
  cases h <;> rfl

theorem asked_eq (h : Visited a m u (.continue m')) : u.filterMap Contact.asked? = [a] := by
  cases h <;> rfl

theorem stop_eq_none (h : Visited a m u (.continue m')) : ∀ c ∈ u, c.stop? = none := by
  cases h <;> simp [Contact.stop?]

end Visited

/-- A contact stays in its place when the contacts that led to its first message come before it. -/
theorem Placed.append {m : Traffic k} {u before after : List (Contact ν k)} {c : Contact ν k}
    (h : Placed (latest m u) before c after) : Placed m (u ++ before) c after where
  message := by rw [latest_append, h.message]
  paired := by
    cases c with
    | asked a m' v => exact h.paired
    | called a m' e =>
      obtain ⟨rest, hrest⟩ := h.paired
      exact ⟨u ++ rest, by rw [hrest, List.append_assoc]⟩
  stops := h.stops

namespace Route

theorem nil (m : Traffic k) : Route ([] : List (Addon ν)) m [] (.proceed m) where
  asked := ⟨[], rfl, fun h => absurd rfl h⟩
  placed := by simp
  action := rfl

/-- A place in a list is its head or a place in its tail. -/
theorem place_cons {P : List (Contact ν k) → Contact ν k → List (Contact ν k) → Prop} {x : Contact ν k}
    {t : List (Contact ν k)} (hx : P [] x t)
    (ht : ∀ before c after, t = before ++ c :: after → P (x :: before) c after) :
    ∀ before c after, x :: t = before ++ c :: after → P before c after := by
  intro before c after h
  rcases before with _ | ⟨y, before⟩
  · obtain ⟨rfl, rfl⟩ := List.cons.inj h
    exact hx
  · obtain ⟨rfl, h'⟩ := List.cons.inj h
    exact ht before c after h'

variable {a : Addon ν} {as : List (Addon ν)} {m m' : Traffic k} {t u : List (Contact ν k)}
  {action : Action (Traffic k)}

/-- The first filter is in its place. -/
theorem placed_asked {v : Except Filter.EvalError Bool} {after : List (Contact ν k)}
    (h : v = .ok true ↔ ∃ e rest, after = .called a m e :: rest) :
    Placed m [] (.asked a m v) after where
  message := rfl
  paired := h
  stops := nofun

/-- The first callback is in its place. -/
theorem placed_called {e : Ending (Traffic k)} {after : List (Contact ν k)}
    (h : (Contact.called a m e).stop?.isSome → after = []) :
    Placed m [.asked a m (.ok true)] (.called a m e) after where
  message := rfl
  paired := ⟨[], rfl⟩
  stops := h

/-- A visit that ends the walk. -/
theorem ofStop (h : Visited a m u (.stop action)) : Route (a :: as) m u action := by
  cases h <;> exact {
    asked := ⟨as, rfl, fun _ => ⟨_, rfl, rfl⟩⟩
    placed := place_cons (placed_asked (by simp)) (place_cons (placed_called fun _ => rfl) (by simp))
    action := rfl }

/-- A visit after which the walk goes on. -/
theorem ofContinue (h : Visited a m u (.continue m')) (hr : Route as m' t action) :
    Route (a :: as) m (u ++ t) action := by
  have hp : ∀ before c after, t = before ++ c :: after → Placed m (u ++ before) c after :=
    fun before c after ht => .append (h.latest_eq ▸ hr.placed before c after ht)
  refine ⟨?_, ?_, ?_⟩
  · obtain ⟨rest, has, hend⟩ := hr.asked
    refine ⟨rest, by rw [List.filterMap_append, h.asked_eq, has]; rfl, fun hne => ?_⟩
    obtain ⟨c, hc, hstop⟩ := hend hne
    exact ⟨c, by rw [List.getLast?_append, Option.mem_def.1 hc]; rfl, hstop⟩
  · cases h with
    | @passedOver v hv =>
      -- a callback cannot come first in the rest, because no filter comes before it
      have hne : ¬ ∃ e rest, t = .called a m e :: rest := by
        rintro ⟨e, rest, rfl⟩
        obtain ⟨rest', hrest⟩ := (hr.placed [] _ rest rfl).paired
        simp at hrest
      exact place_cons (placed_asked (iff_of_false hv hne)) hp
    | failed f =>
      exact place_cons (placed_asked (by simp)) (place_cons (placed_called nofun) hp)
    | proceeded m' =>
      exact place_cons (placed_asked (by simp)) (place_cons (placed_called nofun) hp)
  · rw [List.findSome?_append, List.findSome?_eq_none_iff.2 h.stop_eq_none, Option.none_or, latest_append,
      h.latest_eq]
    exact hr.action

end Route

/-! ### Walks that note their contacts -/

namespace Walker

/-- The same walk with the contacts so far beside its state. -/
def noting (w : Walker ν σ k) : Walker ν (σ × List (Contact ν k)) k where
  select a m p :=
    let (verdict, s) := w.select a m p.1
    (verdict, s, p.2 ++ [.asked a m verdict])
  call a f m p :=
    let (ending, s) := w.call a f m p.1
    (ending, s, p.2 ++ [.called a m ending])
  write r p := (w.write r p.1, p.2)

/-- A contact that tells what the filter or the callback of its addon really gives. -/
def Reports (w : Walker ν σ k) : Contact ν k → Prop
  | .asked a m v => ∃ s, v = (w.select a m s).1
  | .called a m e => ∃ f s, a.callback? k = some f ∧ e = (w.call a f m s).1

variable (w : Walker ν σ k)

/-- The verdict on an addon without a callback is never asked for. -/
theorem visit_of_not_handles {a : Addon ν} (h : a.handles k = false) (m : Traffic k) (s : σ) :
    w.visit a m s = (.continue m, s) := by
  have hc : a.callback? k = none := by simpa [Addon.handles] using h
  rw [visit, hc]

theorem visit_noting {a : Addon ν} (h : a.handles k = true) (m : Traffic k) (s : σ)
    (t : List (Contact ν k)) : ∃ u, Visited a m u (w.visit a m s).1 ∧ (∀ c ∈ u, w.Reports c) ∧
      w.noting.visit a m (s, t) = ((w.visit a m s).1, (w.visit a m s).2, t ++ u) := by
  obtain ⟨f, hf⟩ := Option.isSome_iff_exists.1 h
  have hask : ∀ v s', w.select a m s = (v, s') → w.Reports (.asked a m v) :=
    fun v s' hv => ⟨s, by rw [hv]⟩
  cases hv : w.select a m s with
  | mk v s' =>
    match v, hv with
    | .error e, hv =>
      refine ⟨[.asked a m (.error e)], ?_, by simpa using hask _ _ hv, ?_⟩
      · rw [visit, hf, hv]
        exact .passedOver (by simp)
      · simp [visit, noting, hf, hv]
    | .ok false, hv =>
      refine ⟨[.asked a m (.ok false)], ?_, by simpa using hask _ _ hv, ?_⟩
      · rw [visit, hf, hv]
        exact .passedOver (by simp)
      · simp [visit, noting, hf, hv]
    | .ok true, hv =>
      cases he : w.call a f m s' with
      | mk e s'' =>
        refine ⟨[.asked a m (.ok true), .called a m e], ?_, ?_, ?_⟩
        · simp only [visit, hf, hv, he]
          rcases e with f' | (m' | _ | m')
          · exact .failed f'
          · exact .proceeded m'
          · exact .dropped
          · exact .intercepted m'
        · simpa using ⟨hask _ _ hv, f, s', hf, by rw [he]⟩
        · rcases e with f' | (m' | _ | m') <;> simp [visit, noting, settle, hf, hv, he]

/-- **Contacts of a walk.** Noting the contacts changes nothing, and they make up a route through the addons
that have a callback. -/
theorem walk_noting (as : List (Addon ν)) (m : Traffic k) (s : σ) (t : List (Contact ν k)) :
    ∃ u, Route (as.filter (·.handles k)) m u (w.walk as m s).1 ∧ (∀ c ∈ u, w.Reports c) ∧
      w.noting.walk as m (s, t) = ((w.walk as m s).1, (w.walk as m s).2, t ++ u) := by
  induction as generalizing m s t with
  | nil => exact ⟨[], by simpa [walk] using Route.nil m, by simp, by simp [walk]⟩
  | cons a as ih =>
    by_cases ha : a.handles k = true
    · have has : (a :: as).filter (·.handles k) = a :: as.filter (·.handles k) := by simp [ha]
      obtain ⟨u, hu, hr, hn⟩ := w.visit_noting ha m s t
      rw [has]
      rcases hv : w.visit a m s with ⟨m' | action, s'⟩
      · rw [hv] at hu hn
        obtain ⟨u', hu', hr', hn'⟩ := ih m' s' (t ++ u)
        refine ⟨u ++ u', ?_, ?_, ?_⟩
        · rw [walk, hv]
          exact .ofContinue hu hu'
        · simpa [or_imp, forall_and] using ⟨hr, hr'⟩
        · simp [walk, hv, hn, hn']
      · rw [hv] at hu hn
        refine ⟨u, ?_, hr, ?_⟩
        · rw [walk, hv]
          exact .ofStop hu
        · simp [walk, hv, hn]
    · have ha' : a.handles k = false := by simpa using ha
      have has : (a :: as).filter (·.handles k) = as.filter (·.handles k) := by simp [ha']
      obtain ⟨u, hu⟩ := ih m s t
      rw [has]
      refine ⟨u, ?_⟩
      simpa [walk, visit_of_not_handles _ ha'] using hu

end Walker

end InterceptAddons
