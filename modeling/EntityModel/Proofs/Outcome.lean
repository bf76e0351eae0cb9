/-!
When a computation that may fail succeeds or fails, read off its parts.
-/

set_option autoImplicit false

namespace EntityModel

variable {ε α β γ : Type}

theorem map_map (f : α → β) (g : β → γ) (outcome : Except ε α) :
    (outcome.map f).map g = outcome.map (g ∘ f) := by
  cases outcome <;> rfl

theorem ok_bind (a : α) (f : α → Except ε β) : Except.ok a >>= f = f a := rfl

theorem map_eq_ok_iff {f : α → β} {outcome : Except ε α} {b : β} :
    outcome.map f = .ok b ↔ ∃ a, outcome = .ok a ∧ f a = b := by
  cases outcome <;> simp [Except.map]

theorem map_eq_error_iff {f : α → β} {outcome : Except ε α} {reason : ε} :
    outcome.map f = .error reason ↔ outcome = .error reason := by
  cases outcome <;> simp [Except.map]

theorem toOption_eq_some_iff {outcome : Except ε α} {a : α} :
    outcome.toOption = some a ↔ outcome = .ok a := by
  cases outcome <;> simp [Except.toOption]

theorem bind_eq_ok_iff {f : α → Except ε β} {outcome : Except ε α} {b : β} :
    outcome >>= f = .ok b ↔ ∃ a, outcome = .ok a ∧ f a = .ok b := by
  cases outcome <;> simp [bind, Except.bind]

theorem bind_eq_error_iff {f : α → Except ε β} {outcome : Except ε α} {reason : ε} :
    outcome >>= f = .error reason ↔
      outcome = .error reason ∨ ∃ a, outcome = .ok a ∧ f a = .error reason := by
  cases outcome <;> simp [bind, Except.bind]

theorem ite_error_eq_ok_iff {bad : Prop} [Decidable bad] {reason : ε} {outcome : Except ε α}
    {a : α} : (if bad then .error reason else outcome) = .ok a ↔ ¬ bad ∧ outcome = .ok a := by
  by_cases bad <;> simp [*]

end EntityModel
