/-!
# Results

What is known of an `Except` from what came out after it was mapped or went on.
-/

namespace InterceptAddons

section

variable {ε α β γ : Type}

/-- A result is mapped to a value only from a value. -/
theorem map_eq_ok {f : α → β} {x : Except ε α} {b : β} (h : x.map f = .ok b) :
    ∃ a, x = .ok a ∧ b = f a := by
  cases x with
  | ok a => exact ⟨a, rfl, (Except.ok.inj h).symm⟩
  | error err => cases h

theorem map_eq_error {f : α → β} {x : Except ε α} {err : ε} (h : x.map f = .error err) : x = .error err := by
  cases x with
  | ok a => cases h
  | error err' => exact congrArg Except.error (Except.error.inj h)

theorem bind_eq_ok {f : α → Except ε β} {x : Except ε α} {b : β} (h : x.bind f = .ok b) :
    ∃ a, x = .ok a ∧ f a = .ok b := by
  cases x with
  | ok a => exact ⟨a, rfl, h⟩
  | error err => cases h

theorem map_map (f : α → β) (g : β → γ) (x : Except ε α) : (x.map f).map g = x.map fun a => g (f a) := by
  cases x with
  | ok a => rfl
  | error err => rfl

theorem map_of_id {f : α → α} (hf : ∀ a, f a = a) (x : Except ε α) : x.map f = x := by
  cases x with
  | ok a => exact congrArg Except.ok (hf a)
  | error err => rfl

end

end InterceptAddons
