/-!
# Proofs/Attempt — computations that may fail

A computation that comes to a result did so in each of its steps.
-/

namespace DefUse

variable {ε δ α β : Type} {x : Except ε α} {a : α} {b : β}

@[simp] theorem ok_bind (f : α → Except ε β) : ((.ok a : Except ε α) >>= f) = f a := rfl

/-- **Two steps come to a result if the first does and the second does so from there.** -/
theorem bind_eq_ok_iff {f : α → Except ε β} :
    (x >>= f) = .ok b ↔ ∃ a, x = .ok a ∧ f a = .ok b := by
  cases x <;> simp [bind, Except.bind]

/-- A result is changed only if there is one. -/
theorem map_eq_ok_iff {f : α → β} : x.map f = .ok b ↔ ∃ a, x = .ok a ∧ f a = b := by
  cases x <;> simp [Except.map]

/-- Telling an error otherwise changes no result. -/
theorem mapError_eq_ok_iff {f : ε → δ} : x.mapError f = .ok a ↔ x = .ok a := by
  cases x with
  | ok found =>
    have hkept : (Except.ok found : Except ε α).mapError f = .ok found := rfl
    rw [hkept, Except.ok.injEq, Except.ok.injEq]
  | error e =>
    constructor <;> intro h <;> cases h

/-- What a computation came to is kept when errors are forgotten. -/
theorem toOption_eq_some_iff : x.toOption = some a ↔ x = .ok a := by
  cases x <;> simp [Except.toOption]

theorem toBool_eq_true_iff : x.toBool = true ↔ ∃ a, x = .ok a := by
  cases x <;> simp [Except.toBool]

end DefUse
