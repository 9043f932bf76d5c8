import Mathlib

/-!
# Outcomes of fallible computations

* `bind_eq_ok_iff`, `map_eq_ok_iff`, `mapError_eq_ok_iff`: when a composed computation succeeds;
* `exists_bind_eq_ok_iff`, `exists_map_eq_ok_iff`: the same, whatever the result;
* `Avoids P x`: `x` does not end with an error in `P`, with a rule for each way to compose.
-/

namespace Outcome

variable {ε ε' α β : Type*} {x : Except ε α}

/-! ## Success -/

theorem bind_eq_ok_iff {α β : Type} {x : Except ε α} {f : α → Except ε β} {b : β} :
    (x >>= f) = .ok b ↔ ∃ a, x = .ok a ∧ f a = .ok b := by
  cases x with
  | error e => exact iff_of_false (by rintro ⟨⟩) (by simp)
  | ok a => simp [Bind.bind, Except.bind]

theorem map_eq_ok_iff {f : α → β} {b : β} : x.map f = .ok b ↔ ∃ a, x = .ok a ∧ f a = b := by
  cases x <;> simp [Except.map]

theorem not_exists_error_eq_ok (e : ε) : ¬ ∃ a, (.error e : Except ε α) = .ok a := by
  rintro ⟨a, h⟩
  cases h

theorem exists_map_eq_ok_iff {f : α → β} : (∃ b, x.map f = .ok b) ↔ ∃ a, x = .ok a := by
  cases x <;> simp [Except.map]

theorem exists_bind_eq_ok_iff {f : α → Except ε β} :
    (∃ b, x.bind f = .ok b) ↔ ∃ a, x = .ok a ∧ ∃ b, f a = .ok b := by
  cases x <;> simp [Except.bind]

theorem mapError_eq_ok_iff {f : ε → ε'} {a : α} : x.mapError f = .ok a ↔ x = .ok a := by
  cases x <;> simp [Except.mapError]

theorem toOption_eq_some_iff {a : α} : x.toOption = some a ↔ x = .ok a := by
  cases x <;> simp [Except.toOption]

/-! ## Failure -/

/-- No error of `x` is in `P`. -/
def Avoids (P : ε → Prop) (x : Except ε α) : Prop := ∀ e, x = .error e → ¬ P e

namespace Avoids

variable {P : ε → Prop}

theorem ok (a : α) : Avoids P (.ok a) := by
  intro e h
  cases h

theorem error {e : ε} (h : ¬ P e) : Avoids P (.error e : Except ε α) := by
  intro e' he
  rw [← Except.error.inj he]
  exact h

theorem bind {α β : Type} {x : Except ε α} {f : α → Except ε β} (hx : Avoids P x)
    (hf : ∀ a, x = .ok a → Avoids P (f a)) : Avoids P (x >>= f) := by
  cases x with
  | error e => exact error (hx e rfl)
  | ok a => exact hf a rfl

theorem bind_of_eq_ok {α β : Type} {x : Except ε α} {f : α → Except ε β} {a : α} (hx : x = .ok a)
    (hf : Avoids P (f a)) : Avoids P (x >>= f) := by
  rw [hx]
  exact hf

theorem map {f : α → β} (hx : Avoids P x) : Avoids P (x.map f) := by
  cases x with
  | error e => exact error (hx e rfl)
  | ok a => exact ok (f a)

theorem mapError {f : ε' → ε} (x : Except ε' α) (hf : ∀ e, ¬ P (f e)) :
    Avoids P (x.mapError f) := by
  cases x with
  | error e => exact error (hf e)
  | ok a => exact ok a

end Avoids

end Outcome
