import InterceptAddons.Filter.Memo
import Mathlib.Logic.Function.Basic

/-!
# Remembering changes no answer

A `Desk` has any number of filters and views with their slots, and answers questions about them in any order.
Main statement: `replies_afresh`. If all slots are empty at first, each reply is what the filter's expression gives
when it is resolved and evaluated afresh, because a slot that is filled holds what computing it again would give.
-/

namespace InterceptAddons.Filter

/-! ### Slots -/

def Slot.Holds {α : Type} (slot : Slot α) (value : α) : Prop := ∀ a ∈ slot, a = value

theorem Slot.holds_none {α : Type} (value : α) : Slot.Holds none value := nofun

theorem Slot.get_of_holds {α : Type} {slot : Slot α} (compute : Unit → α) (h : slot.Holds (compute ())) :
    slot.get compute = (compute (), some (compute ())) := by
  cases slot with
  | none => rfl
  | some a =>
    obtain rfl : a = compute () := h a rfl
    rfl

theorem Slot.holds_some {α : Type} (value : α) : Slot.Holds (some value) value :=
  fun _ h => (Option.mem_some.1 h).symm

/-! ### Views -/

/-- A view of a message, whose slots hold what its body decodes to if they are filled. -/
structure View.Remembers (f : Facts) (v : View) : Prop where
  facts : v.facts = f
  text : v.text.Holds f.text
  json : v.json.Holds f.json?

/-- A view of which nothing has been asked. -/
theorem View.remembers_new (facts : Facts) : View.Remembers facts { facts } :=
  ⟨rfl, Slot.holds_none _, Slot.holds_none _⟩

variable {facts : Facts} {v : View}

theorem View.Remembers.getText (h : v.Remembers facts) :
    v.getText.1 = facts.text ∧ v.getText.2.Remembers facts := by
  obtain ⟨rfl, ht, hj⟩ := h
  rw [View.getText, Slot.get_of_holds (fun _ => v.facts.text) ht]
  exact ⟨rfl, rfl, Slot.holds_some _, hj⟩

theorem View.Remembers.getJson (h : v.Remembers facts) :
    v.getJson.1 = facts.json? ∧ v.getJson.2.Remembers facts := by
  obtain ⟨rfl, ht, hj⟩ := h
  rw [View.getJson, Slot.get_of_holds (fun _ => v.facts.json?) hj]
  exact ⟨rfl, rfl, ht, Slot.holds_some _⟩

/-! ### Evaluation -/

theorem Test.ask_of_remembers (t : Test) (args : List Literal) (h : v.Remembers facts) :
    (t.ask args v).1 = t.run args facts ∧ (t.ask args v).2.Remembers facts := by
  cases t with
  | facts test => exact ⟨congrArg (test args) h.facts, h⟩
  | text test => exact ⟨congrArg (test args) h.getText.1, h.getText.2⟩
  | json test => exact ⟨congrArg (test args) h.getJson.1, h.getJson.2⟩

theorem Predicate.ask_of_remembers (p : Predicate) (args : List Literal) (h : v.Remembers facts) :
    (p.ask args v).1 = p.eval args facts ∧ (p.ask args v).2.Remembers facts := by
  rw [Predicate.ask, Predicate.eval, h.facts]
  split
  · exact ⟨rfl, h⟩
  · obtain ⟨hb, hv⟩ := p.test.ask_of_remembers args h
    exact ⟨congrArg Except.ok hb, hv⟩

mutual

theorem Bound.ask_of_remembers : ∀ (b : Bound) {v : View}, v.Remembers facts →
    (b.ask v).1 = b.eval facts ∧ (b.ask v).2.Remembers facts
  | .all bs, v, h => by
    rw [Bound.ask, Bound.eval]
    exact askAll_of_remembers bs h
  | .any bs, v, h => by
    rw [Bound.ask, Bound.eval]
    exact askAny_of_remembers bs h
  | .not b, v, h => by
    obtain ⟨hr, hv⟩ := b.ask_of_remembers h
    rw [Bound.ask, Bound.eval]
    exact ⟨congrArg (Except.map (!·)) hr, hv⟩
  | .predicate p args, v, h => by
    rw [Bound.ask, Bound.eval]
    exact p.ask_of_remembers args h

theorem askAll_of_remembers : ∀ (bs : List Bound) {v : View}, v.Remembers facts →
    (askAll bs v).1 = evalAll facts bs ∧ (askAll bs v).2.Remembers facts
  | [], v, h => ⟨rfl, h⟩
  | b :: bs, v, h => by
    obtain ⟨hr, hv⟩ := b.ask_of_remembers h
    rw [askAll, evalAll, ← hr]
    generalize b.ask v = answer at hv ⊢
    obtain ⟨err | (_ | _), v'⟩ := answer
    · exact ⟨rfl, hv⟩
    · exact ⟨rfl, hv⟩
    · exact askAll_of_remembers bs hv

theorem askAny_of_remembers : ∀ (bs : List Bound) {v : View}, v.Remembers facts →
    (askAny bs v).1 = evalAny facts bs ∧ (askAny bs v).2.Remembers facts
  | [], v, h => ⟨rfl, h⟩
  | b :: bs, v, h => by
    obtain ⟨hr, hv⟩ := b.ask_of_remembers h
    rw [askAny, evalAny, ← hr]
    generalize b.ask v = answer at hv ⊢
    obtain ⟨err | (_ | _), v'⟩ := answer
    · exact ⟨rfl, hv⟩
    · exact askAny_of_remembers bs hv
    · exact ⟨rfl, hv⟩

end

/-! ### Filters -/

/-- A filter whose slot holds what its expression resolves to if it is filled. -/
structure Prepared.Remembers (f : Filter) (p : Prepared) : Prop where
  filter : p.filter = f
  bound : p.bound.Holds f.expr.bind

/-- A filter of which nothing has been asked. -/
theorem Prepared.remembers_new (filter : Filter) : Prepared.Remembers filter { filter } :=
  ⟨rfl, Slot.holds_none _⟩

variable {filter : Filter} {p : Prepared}

theorem Prepared.Remembers.getBound (h : p.Remembers filter) :
    p.getBound.1 = filter.expr.bind ∧ p.getBound.2.Remembers filter := by
  obtain ⟨rfl, hb⟩ := h
  rw [Prepared.getBound, Slot.get_of_holds (fun _ => p.filter.expr.bind) hb]
  exact ⟨rfl, rfl, Slot.holds_some _⟩

theorem Prepared.Remembers.check (h : p.Remembers filter) :
    p.check.1 = filter.check ∧ p.check.2.Remembers filter :=
  ⟨congrArg (Except.map fun _ => ()) h.getBound.1, h.getBound.2⟩

theorem Prepared.Remembers.selects (h : p.Remembers filter) (hv : v.Remembers facts) :
    (p.selects v).1 = filter.expr.eval facts ∧ (p.selects v).2.1.Remembers filter ∧
      (p.selects v).2.2.Remembers facts := by
  obtain ⟨hb, hp⟩ := h.getBound
  rw [Prepared.selects, Expr.eval, ← hb]
  generalize p.getBound = bound at hp ⊢
  obtain ⟨err | b, p'⟩ := bound
  · exact ⟨rfl, hp, hv⟩
  · obtain ⟨hr, hv'⟩ := b.ask_of_remembers hv
    exact ⟨hr, hp, hv'⟩

/-! ### Questions in any order -/

/-- Filters and views with their slots, each under a name. -/
structure Desk (ι κ : Type) where
  filters : ι → Prepared
  views : κ → View

/-- A question about a filter: whether it can be resolved, or whether it selects the message of a view. -/
inductive Question (ι κ : Type)
  | check (i : ι)
  | selects (i : ι) (j : κ)

/-- The reply to a question. -/
inductive Reply
  | checked (r : Except EvalError Unit)
  | selected (r : Except EvalError Bool)

/-- The reply when everything is computed afresh. -/
def Question.replyAfresh {ι κ : Type} (filters : ι → Filter) (facts : κ → Facts) : Question ι κ → Reply
  | .check i => .checked ((filters i).expr.bind.map fun _ => ())
  | .selects i j => .selected ((filters i).expr.eval (facts j))

namespace Desk

variable {ι κ : Type}

/-- Filters and views of which nothing has been asked. -/
def new (filters : ι → Filter) (facts : κ → Facts) : Desk ι κ where
  filters i := { filter := filters i }
  views j := { facts := facts j }

/-- All slots hold what computing afresh gives if they are filled. -/
structure Remembers (filters : ι → Filter) (facts : κ → Facts) (d : Desk ι κ) : Prop where
  filters : ∀ i, (d.filters i).Remembers (filters i)
  views : ∀ j, (d.views j).Remembers (facts j)

theorem remembers_new (filters : ι → Filter) (facts : κ → Facts) : (new filters facts).Remembers filters facts :=
  ⟨fun i => Prepared.remembers_new (filters i), fun j => View.remembers_new (facts j)⟩

variable {filters : ι → Filter} {facts : κ → Facts} {d : Desk ι κ}

theorem Remembers.updateFilter [DecidableEq ι] (h : d.Remembers filters facts) {i : ι} {p : Prepared}
    (hp : p.Remembers (filters i)) (i' : ι) : (Function.update d.filters i p i').Remembers (filters i') :=
  (Function.forall_update_iff d.filters fun i p => p.Remembers (filters i)).2 ⟨hp, fun i _ => h.filters i⟩ i'

theorem Remembers.updateView [DecidableEq κ] (h : d.Remembers filters facts) {j : κ} {v : View}
    (hv : v.Remembers (facts j)) (j' : κ) : (Function.update d.views j v j').Remembers (facts j') :=
  (Function.forall_update_iff d.views fun j v => v.Remembers (facts j)).2 ⟨hv, fun j _ => h.views j⟩ j'

/-! ### Replies -/

variable [DecidableEq ι] [DecidableEq κ]

/-- Replies to a question, and remembers what has been found out. -/
def reply (d : Desk ι κ) : Question ι κ → Reply × Desk ι κ
  | .check i =>
    let (r, p) := (d.filters i).check
    (.checked r, { d with filters := Function.update d.filters i p })
  | .selects i j =>
    let (r, p, v) := (d.filters i).selects (d.views j)
    (.selected r, ⟨Function.update d.filters i p, Function.update d.views j v⟩)

def replies (d : Desk ι κ) : List (Question ι κ) → List Reply × Desk ι κ
  | [] => ([], d)
  | q :: qs =>
    let (r, d) := d.reply q
    let (rs, d) := d.replies qs
    (r :: rs, d)

/-- **One question.** -/
theorem Remembers.reply (h : d.Remembers filters facts) (q : Question ι κ) :
    (d.reply q).1 = q.replyAfresh filters facts ∧ (d.reply q).2.Remembers filters facts := by
  cases q with
  | check i =>
    obtain ⟨hr, hp⟩ := (h.filters i).check
    exact ⟨congrArg Reply.checked hr, h.updateFilter hp, h.views⟩
  | selects i j =>
    obtain ⟨hr, hp, hv⟩ := (h.filters i).selects (h.views j)
    exact ⟨congrArg Reply.selected hr, h.updateFilter hp, h.updateView hv⟩

/-- **All questions**, from the first one to the last. -/
theorem Remembers.replies (h : d.Remembers filters facts) (qs : List (Question ι κ)) :
    (d.replies qs).1 = qs.map (·.replyAfresh filters facts) ∧ (d.replies qs).2.Remembers filters facts := by
  induction qs generalizing d with
  | nil => exact ⟨rfl, h⟩
  | cons q qs ih =>
    obtain ⟨hr, hd⟩ := h.reply q
    obtain ⟨hrs, hds⟩ := ih hd
    exact ⟨congrArg₂ List.cons hr hrs, hds⟩

end Desk

/-- **Remembering changes no answer.** Whatever is asked about any filters and views, in any order and however often,
each reply is the one that is computed afresh from the expression of the filter and the message of the view, errors
included; and every slot stays empty or holds what it would be computed to again. -/
theorem replies_afresh {ι κ : Type} [DecidableEq ι] [DecidableEq κ] (filters : ι → Filter) (facts : κ → Facts)
    (qs : List (Question ι κ)) :
    let d := Desk.new filters facts
    (d.replies qs).1 = qs.map (·.replyAfresh filters facts) ∧ (d.replies qs).2.Remembers filters facts :=
  (Desk.remembers_new filters facts).replies qs

end InterceptAddons.Filter
