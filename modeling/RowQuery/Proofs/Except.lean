/-
  RowQuery — computations that may fail.

  * `except_bind_of_ok`: a sequence after its first step;
  * `except_bind_eq_ok`, `except_map_eq_ok`: when a sequence and an image succeed, and with
    what;
  * `except_bind_eq_error`, `except_map_eq_error`: when they fail, and with what;
  * `except_exists_ok_iff`: to succeed is to have no error.
-/
import RowQuery.Scalar

namespace RowQuery

variable {ε α β : Type} {x : Except ε α} {b : β}

theorem except_bind_of_ok {a : α} (h : x = .ok a) (f : α → Except ε β) : (x >>= f) = f a := by
  rw [h]
  rfl

theorem except_bind_eq_ok {f : α → Except ε β} :
    (x >>= f) = .ok b ↔ ∃ a, x = .ok a ∧ f a = .ok b := by
  constructor
  · intro h
    cases x with
    | error e => cases h
    | ok a => exact ⟨a, rfl, h⟩
  · rintro ⟨a, rfl, h⟩
    exact h

theorem except_bind_eq_error {f : α → Except ε β} {e : ε} :
    (x >>= f) = .error e ↔ x = .error e ∨ ∃ a, x = .ok a ∧ f a = .error e := by
  cases x with
  | error e' =>
    have hbind : ((Except.error e' : Except ε α) >>= f) = .error e' := rfl
    simp [hbind]
  | ok a =>
    have hbind : ((Except.ok a : Except ε α) >>= f) = f a := rfl
    simp [hbind]

theorem except_map_eq_ok {f : α → β} : x.map f = .ok b ↔ ∃ a, x = .ok a ∧ f a = b := by
  constructor
  · intro h
    cases x with
    | error e => cases h
    | ok a => exact ⟨a, rfl, Except.ok.inj h⟩
  · rintro ⟨a, rfl, rfl⟩
    rfl

theorem except_mapError_ok {ε' : Type} (f : ε → ε') (a : α) :
    (Except.ok a : Except ε α).mapError f = .ok a := rfl

theorem except_mapError_error {ε' : Type} (f : ε → ε') (e : ε) :
    (Except.error e : Except ε α).mapError f = .error (f e) := rfl

theorem except_map_eq_error {f : α → β} {e : ε} : x.map f = .error e ↔ x = .error e := by
  cases x with
  | error e' => simp [Except.map]
  | ok a => simp [Except.map]

/-- What is known to fail with the error of an option succeeds without one. -/
theorem except_exists_ok_iff {o : Option ε} (h : ∀ e, x = .error e ↔ o = some e) :
    (∃ a, x = .ok a) ↔ o = none := by
  rw [Option.eq_none_iff_forall_ne_some]
  simp only [ne_eq, ← h]
  cases x <;> simp

end RowQuery
