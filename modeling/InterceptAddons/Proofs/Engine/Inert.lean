import InterceptAddons.Proofs.Engine.Dispatch
import InterceptAddons.Proofs.Engine.Runs

/-!
# Inert addons

An addon is inert on a message if it is not called with it, or fails, or passes the same message on. Main
statement: `dispatch_kept`. If callbacks are functions of message and context, a dispatch through addons of which
some are inert on what is brought to them ends like a dispatch through the others alone, and the others are
contacted in the same way.

To tell the addons of a list apart they carry labels, and `Walker.trace` gives every contact of a walk the label
of its addon.
-/

namespace InterceptAddons

open Http

variable {ν σ τ : Type} {k : EventKind}

/-! ### Contacts with labels -/

namespace Walker

def contacts (w : Walker ν σ k) (a : Addon ν) (m : Traffic k) (s : σ) : List (Contact ν k) :=
  (w.noting.visit a m (s, [])).2.2

/-- The contacts of a walk through addons with labels, each with the label of its addon. -/
def trace (w : Walker ν σ k) : List (τ × Addon ν) → Traffic k → σ → List (τ × Contact ν k)
  | [], _, _ => []
  | (l, a) :: xs, m, s =>
    (w.contacts a m s).map (fun c => (l, c)) ++
      match w.visit a m s with
      | (.continue m', s') => w.trace xs m' s'
      | (.stop _, _) => []

variable (w : Walker ν σ k)

theorem noting_maps_fst : w.noting.Maps Prod.fst w where
  select _ _ _ := rfl
  call _ _ _ _ := rfl
  write _ _ := rfl

/-- What has been noted before makes no difference. -/
theorem noting_maps_append (t : List (Contact ν k)) :
    w.noting.Maps (fun p => (p.1, t ++ p.2)) w.noting where
  select a m p := by simp [noting]
  call a f m p := by simp [noting]
  write _ _ := rfl

theorem visit_noting_eq (a : Addon ν) (m : Traffic k) (s : σ) (t : List (Contact ν k)) :
    w.noting.visit a m (s, t) = ((w.visit a m s).1, (w.visit a m s).2, t ++ w.contacts a m s) := by
  have happ := (w.noting_maps_append t).visit a m (s, [])
  have hfst := w.noting_maps_fst.visit a m (s, [])
  rw [List.append_nil] at happ
  rw [happ, hfst]
  rfl

/-- Without their labels, the contacts are those that the noting walk notes. -/
theorem map_trace (xs : List (τ × Addon ν)) (m : Traffic k) (s : σ) (t : List (Contact ν k)) :
    (w.noting.walk (xs.map Prod.snd) m (s, t)).2.2 = t ++ (w.trace xs m s).map Prod.snd := by
  induction xs generalizing m s t with
  | nil => simp [walk, trace]
  | cons x xs ih =>
    obtain ⟨l, a⟩ := x
    rw [List.map_cons, walk, visit_noting_eq, trace]
    rcases w.visit a m s with ⟨m' | action, s'⟩
    · simp [ih, Function.comp_def]
    · simp [Function.comp_def]

/-! ### Addons whose answers do not hang on the state -/

/-- The walker's answers about an addon are the same in all states. -/
structure Steady (a : Addon ν) : Prop where
  select : ∀ m s s', (w.select a m s).1 = (w.select a m s').1
  call : ∀ f ∈ a.callback? k, ∀ m s s', (w.call a f m s).1 = (w.call a f m s').1

variable {w}

theorem Steady.visit {a : Addon ν} (h : w.Steady a) (m : Traffic k) (s s' : σ) :
    (∃ v t t', w.visit a m s = (v, t) ∧ w.visit a m s' = (v, t')) ∧ w.contacts a m s = w.contacts a m s' := by
  cases hf : a.callback? k with
  | none => simp [Walker.visit, contacts, hf]
  | some f =>
    have hv := h.select m s s'
    rcases hs : w.select a m s with ⟨v, t⟩
    rcases hs' : w.select a m s' with ⟨v', t'⟩
    rw [hs, hs'] at hv
    obtain rfl : v = v' := hv
    rcases v with e | (_ | _)
    · simp [Walker.visit, contacts, noting, hf, hs, hs']
    · simp [Walker.visit, contacts, noting, hf, hs, hs']
    · have he := h.call f hf m t t'
      rcases hc : w.call a f m t with ⟨e, u⟩
      rcases hc' : w.call a f m t' with ⟨e', u'⟩
      rw [hc, hc'] at he
      obtain rfl : e = e' := he
      rcases e with f' | (m' | _ | m') <;>
        simp [Walker.visit, contacts, noting, settle, hf, hs, hs', hc, hc']

/-- The action that ends a walk does not hang on the state. -/
theorem Steady.walk {as : List (Addon ν)} (h : ∀ a ∈ as, w.Steady a) (m : Traffic k) (s s' : σ) :
    (w.walk as m s).1 = (w.walk as m s').1 := by
  induction as generalizing m s s' with
  | nil => rfl
  | cons a as ih =>
    obtain ⟨⟨v, t, t', hv, hv'⟩, -⟩ := (h a List.mem_cons_self).visit m s s'
    rw [Walker.walk, Walker.walk, hv, hv']
    rcases v with m' | action
    · exact ih (fun b hb => h b (List.mem_cons_of_mem a hb)) m' t t'
    · rfl

/-! ### Leaving addons out -/

variable {kept : τ → Bool}

/-- The contacts of a kept addon are all kept. -/
theorem filter_map_of_kept {l : τ} (h : kept l = true) (t : List (Contact ν k)) :
    (t.map fun c => (l, c)).filter (kept ·.1) = t.map fun c => (l, c) :=
  List.filter_eq_self.2 fun p hp => by
    obtain ⟨c, -, rfl⟩ := List.mem_map.1 hp
    exact h

/-- No contact of an addon that is left out is kept. -/
theorem filter_map_of_not_kept {l : τ} (h : kept l = false) (t : List (Contact ν k)) :
    (t.map fun c => (l, c)).filter (kept ·.1) = [] :=
  List.filter_eq_nil_iff.2 fun p hp => by
    obtain ⟨c, -, rfl⟩ := List.mem_map.1 hp
    simp [h]

/-- **Addons left out of a walk.** If each addon that is left out passes on the message that is brought to it,
the walk through the others ends with the same action, with the contacts that they had before, in any state. -/
theorem walk_kept (xs : List (τ × Addon ν)) (hs : ∀ x ∈ xs, w.Steady x.2) (m : Traffic k) (s s' : σ)
    (hi : ∀ before x after, xs = before ++ x :: after → kept x.1 = false →
      ∀ m', (w.walk (before.map Prod.snd) m s).1 = .proceed m' → ∀ t, (w.visit x.2 m' t).1 = .continue m') :
    (w.walk (xs.map Prod.snd) m s).1 = (w.walk ((xs.filter (kept ·.1)).map Prod.snd) m s').1 ∧
      (w.trace xs m s).filter (kept ·.1) = w.trace (xs.filter (kept ·.1)) m s' := by
  induction xs generalizing m s s' with
  | nil => simp [walk, trace]
  | cons x xs ih =>
    obtain ⟨l, a⟩ := x
    have hxs : ∀ x ∈ xs, w.Steady x.2 := fun x hx => hs x (List.mem_cons_of_mem _ hx)
    -- what is brought to a later addon is what the walk from the next state brings to it
    have hnext : ∀ m₁ s₁, w.visit a m s = (.continue m₁, s₁) →
        ∀ before x after, xs = before ++ x :: after → kept x.1 = false →
          ∀ m', (w.walk (before.map Prod.snd) m₁ s₁).1 = .proceed m' →
            ∀ t, (w.visit x.2 m' t).1 = .continue m' := by
      intro m₁ s₁ hv before x after hx hk m' hw
      refine hi ((l, a) :: before) x after (by rw [hx, List.cons_append]) hk m' ?_
      rw [List.map_cons, walk, hv]
      exact hw
    cases hk : kept l with
    | false =>
      have hv : (w.visit a m s).1 = .continue m := hi [] (l, a) xs rfl hk m rfl s
      rcases hw : w.visit a m s with ⟨v, s₁⟩
      rw [hw] at hv
      obtain rfl : v = .continue m := hv
      have hrest := ih hxs m s₁ s' (hnext m s₁ hw)
      simpa [walk, trace, hw, hk, filter_map_of_not_kept hk] using hrest
    | true =>
      obtain ⟨⟨v, s₁, s₁', hw, hw'⟩, hc⟩ := (hs (l, a) List.mem_cons_self).visit m s s'
      rcases v with m₁ | action
      · have hrest := ih hxs m₁ s₁ s₁' (hnext m₁ s₁ hw)
        simpa [walk, trace, hw, hw', hk, hc, filter_map_of_kept hk] using hrest
      · simp [walk, trace, hw, hw', hk, hc, filter_map_of_kept hk]

end Walker

/-! ### Callbacks as functions -/

/-- A program that ends in the same way in every state. -/
def Program.EndsWith (ask : Engine.Performer ν) (p : Program ν k) (e : Ending (Traffic k)) : Prop :=
  ∀ s, (p.run ask (fun r s => s.write (.remark r)) s).1 = e

/-- An addon whose callback ends in a way that hangs only on the message and the context it is given. -/
def Addon.IsFunction (services : Services ν) (ask : Engine.Performer ν) (k : EventKind) (a : Addon ν) : Prop :=
  ∀ f ∈ a.callback? k, ∀ m, ∃ e, (f m (a.context services m)).EndsWith ask e

namespace Engine

/-- The reasons why an addon is inert on a message. -/
inductive Inert (services : Services ν) (ask : Performer ν) (a : Addon ν) (m : Traffic k) : Prop
  /-- It has no callback for messages of this kind. -/
  | noCallback (h : a.callback? k = none)
  /-- Its filter does not select the message. -/
  | missed (h : (a.filter k).selects (.of m services.scope) = .ok false)
  /-- Its filter does not bind. -/
  | unbound (e : Filter.EvalError) (h : (a.filter k).check = .error e)
  /-- Its filter cannot be evaluated on the message. -/
  | unevaluated (e : Filter.EvalError) (h : (a.filter k).selects (.of m services.scope) = .error e)
  /-- Its callback returns an error. -/
  | returned (f : Callback ν k) (hf : a.callback? k = some f) (text : String)
    (h : (f m (a.context services m)).EndsWith ask (.error (.returned text)))
  /-- Its callback panics. -/
  | panicked (f : Callback ν k) (hf : a.callback? k = some f) (text : Option String)
    (h : (f m (a.context services m)).EndsWith ask (.error (.panicked text)))
  /-- Its callback passes on the message that it was given. -/
  | same (f : Callback ν k) (hf : a.callback? k = some f)
    (h : (f m (a.context services m)).EndsWith ask (.ok (.proceed m)))

/-- The message that a dispatch brings to an addon after those before it, unless its switches refuse it or one
of these ends the walk. -/
def Brings (services : Services ν) (ask : Performer ν) (s : Engine ν) (before : List (Addon ν))
    (m m' : Traffic k) : Prop :=
  s.options.admits services.scope m = true ∧ ((walker services ask k).walk before m s).1 = .proceed m'

/-- The contacts of a dispatch, when the addons of the installed registry are given with labels. -/
def dispatchTrace (services : Services ν) (ask : Performer ν) (xs : List (τ × Addon ν)) (m : Traffic k)
    (s : Engine ν) : List (τ × Contact ν k) :=
  match s.installed with
  | none => []
  | some r =>
    if s.options.admits services.scope m then
      (walker services ask k).trace xs m ((s.enter r).write (.dispatching k m.message.id r.generation))
    else []

variable {services : Services ν} {ask : Performer ν}

theorem steady_of_isFunction {a : Addon ν} (h : a.IsFunction services ask k) :
    (walker services ask k).Steady a where
  select _ _ _ := rfl
  call f hf m s s' := by
    obtain ⟨e, he⟩ := h f hf m
    exact (he s).trans (he s').symm

theorem selects_of_check {f : Filter} {e : Filter.EvalError} (h : f.check = .error e) (facts : Facts) :
    f.selects facts = .error e := by
  unfold Filter.check at h
  unfold Filter.selects Filter.Expr.eval
  cases hb : f.expr.bind with
  | error e' =>
    rw [hb] at h
    obtain rfl : e' = e := Except.error.inj h
    rfl
  | ok b =>
    rw [hb] at h
    cases h

/-- A message goes on from an addon whose callback passes it on or fails, if the filter selects it at all. -/
theorem visit_of_endsWith {a : Addon ν} {f : Callback ν k} {m : Traffic k} {e : Ending (Traffic k)}
    (hf : a.callback? k = some f) (he : (f m (a.context services m)).EndsWith ask e)
    (hsettle : ∀ s, ((walker services ask k).settle a m s e).1 = .continue m) (s : Engine ν) :
    ((walker services ask k).visit a m s).1 = .continue m := by
  unfold Walker.visit
  rw [hf]
  simp only [walker]
  rcases (a.filter k).selects (.of m services.scope) with _ | (_ | _)
  · rfl
  · rfl
  · simp only [he s]
    exact hsettle _

/-- The walk goes on from an inert addon with the message that was brought to it. -/
theorem Inert.visit {a : Addon ν} {m : Traffic k} (h : Inert services ask a m) (s : Engine ν) :
    ((walker services ask k).visit a m s).1 = .continue m := by
  have herror : ∀ e, (a.filter k).selects (.of m services.scope) = .error e →
      ((walker services ask k).visit a m s).1 = .continue m := by
    intro e he
    unfold Walker.visit
    cases a.callback? k <;> simp [walker, he]
  cases h with
  | noCallback hf => simp [Walker.visit, hf]
  | missed hm =>
    unfold Walker.visit
    cases a.callback? k <;> simp [walker, hm]
  | unbound e he => exact herror e (selects_of_check he _)
  | unevaluated e he => exact herror e he
  | returned f hf text he => exact visit_of_endsWith hf he (fun _ => rfl) s
  | panicked f hf text he => exact visit_of_endsWith hf he (fun _ => rfl) s
  | same f hf he => exact visit_of_endsWith hf he (fun _ => rfl) s

/-- Without their labels, the contacts are those that the noting dispatch notes. -/
theorem map_dispatchTrace {xs : List (τ × Addon ν)} {m : Traffic k} {s : Engine ν} {r : Registry ν}
    (hr : s.installed = some r) (hx : r.addons = xs.map Prod.snd) :
    (s.dispatchTrace services ask xs m).map Prod.snd = (s.dispatchNoting services ask m).2 := by
  unfold dispatchTrace dispatchNoting
  rw [hr]
  by_cases h : s.options.admits services.scope m = true
  · simp [h, hx, Walker.map_trace]
  · simp [h]

/-- **Inert addons are invisible**, for any list of addons and any choice of those to keep. If callbacks are
functions of the message and the context they are given, and each addon that is left out is inert on the message
brought to it, the dispatch ends with the same action without them. The addons that are kept have the same contacts
in the same order: the same filters are asked about the same messages, and the same callbacks are called with them.
What else the two engines hold makes no difference. -/
theorem dispatch_kept (services : Services ν) (ask : Performer ν) (kept : τ → Bool)
    (xs : List (τ × Addon ν)) (m : Traffic k) (o : DispatchOptions) (s s' : Engine ν) (r r' : Registry ν)
    (hf : ∀ x ∈ xs, x.2.IsFunction services ask k)
    (hi : ∀ before x after, xs = before ++ x :: after → kept x.1 = false →
      ∀ m', Brings services ask { s with options := o } (before.map Prod.snd) m m' →
        Inert services ask x.2 m') :
    let ys := xs.filter (kept ·.1)
    let t := { s with options := o, installed := some { r with addons := xs.map Prod.snd } }
    let t' := { s' with options := o, installed := some { r' with addons := ys.map Prod.snd } }
    (t.dispatch services ask m).1 = (t'.dispatch services ask m).1 ∧
    (t.dispatchTrace services ask xs m).filter (kept ·.1) = t'.dispatchTrace services ask ys m ∧
    (t.dispatchTrace services ask xs m).map Prod.snd = (t.dispatchNoting services ask m).2 ∧
    (t'.dispatchTrace services ask ys m).map Prod.snd = (t'.dispatchNoting services ask m).2 := by
  intro ys t t'
  refine and_assoc.1 ⟨?_, map_dispatchTrace rfl rfl, map_dispatchTrace rfl rfl⟩
  by_cases h : o.admits services.scope m = true
  · have hs : ∀ x ∈ xs, (walker services ask k).Steady x.2 := fun x hx => steady_of_isFunction (hf x hx)
    -- the walk does not start in the state that the hypothesis speaks of, but this makes no difference
    have hvisit : ∀ u before x after, xs = before ++ x :: after → kept x.1 = false →
        ∀ m', ((walker services ask k).walk (before.map Prod.snd) m u).1 = .proceed m' →
          ∀ v, ((walker services ask k).visit x.2 m' v).1 = .continue m' := by
      intro u before x after hx hk m' hw
      have hb : ∀ a ∈ before.map Prod.snd, (walker services ask k).Steady a := by
        rintro a ha
        obtain ⟨y, hy, rfl⟩ := List.mem_map.1 ha
        exact hs y (hx ▸ List.mem_append_left _ hy)
      exact (hi before x after hx hk m' ⟨h, (Walker.Steady.walk hb m _ u).trans hw⟩).visit
    have hwalk := Walker.walk_kept xs hs m
      ((t.enter { r with addons := xs.map Prod.snd }).write (.dispatching k m.message.id r.generation))
      ((t'.enter { r' with addons := ys.map Prod.snd }).write (.dispatching k m.message.id r'.generation))
      (hvisit _)
    simpa [dispatch, dispatchTrace, t, t', ys, h] using hwalk
  · simp [dispatch, dispatchTrace, t, t', h]

/-- A dispatch through an addon without callbacks, one that fails, one that drops, and one that fails again. -/
theorem dispatch_kept_drop :
    let idle : Addon Unit := ⟨.named "idle", 0, .always, .always, none, none, none, none⟩
    let failing : Addon Unit :=
      ⟨.named "failing", 1, .always, .always, some fun _ _ => .finish (.error (.returned "no")), none, none, none⟩
    let dropping : Addon Unit :=
      ⟨.named "dropping", 2, .always, .always, some fun _ _ => .finish (.ok .drop), none, none, none⟩
    let m : Traffic .request := Request.new ⟨"GET", by decide⟩ (.origin .asterisk)
    let s (as : List (Addon Unit)) : Engine Unit := { installed := some ⟨1, as, []⟩ }
    let xs := [(false, idle), (false, failing), (true, dropping), (false, failing)]
    ((s [idle, failing, dropping, failing]).dispatch {} (perform {} 0) m).1 = .drop ∧
      ((s [idle, failing, dropping, failing]).dispatchTrace {} (perform {} 0) xs m).filter Prod.fst =
        [(true, .asked dropping m (.ok true)), (true, .called dropping m (.ok .drop))] := by
  intro idle failing dropping m s xs
  have hfailing : failing.IsFunction {} (perform {} 0) .request := by
    rintro f hf m'
    obtain rfl := Option.some.inj hf
    exact ⟨.error (.returned "no"), fun _ => rfl⟩
  have hdropping : dropping.IsFunction {} (perform {} 0) .request := by
    rintro f hf m'
    obtain rfl := Option.some.inj hf
    exact ⟨.ok .drop, fun _ => rfl⟩
  have hf : ∀ x ∈ xs, x.2.IsFunction {} (perform {} 0) .request := by
    simp [xs, hfailing, hdropping]
    exact nofun
  have hi : ∀ before x after, xs = before ++ x :: after → x.1 = false →
      ∀ m', Brings {} (perform {} 0) {} (before.map Prod.snd) m m' → Inert {} (perform {} 0) x.2 m' := by
    intro before x after hx hk m' _
    have hmem : x ∈ xs := hx ▸ by simp
    have hx' : x = (false, idle) ∨ x = (false, failing) ∨ x = (true, dropping) ∨ x = (false, failing) := by
      simpa [xs] using hmem
    rcases hx' with rfl | rfl | rfl | rfl
    · exact .noCallback rfl
    · exact .returned _ rfl "no" fun _ => rfl
    · cases hk
    · exact .returned _ rfl "no" fun _ => rfl
  have h := dispatch_kept {} (perform {} 0) (fun l => l) xs m {} {} {} ⟨1, [], []⟩ ⟨1, [], []⟩ hf hi
  exact ⟨h.1.trans rfl, h.2.1.trans rfl⟩

end Engine

end InterceptAddons
