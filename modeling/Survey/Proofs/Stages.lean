/-!
Stages that can fail. One after another succeeds exactly when each of them does.
-/
namespace Survey.Stages

variable {ε ε' α β : Type} {x : Except ε α}

theorem bind_eq_ok_iff {f : α → Except ε β} {b : β} :
    x >>= f = .ok b ↔ ∃ a, x = .ok a ∧ f a = .ok b := by
  cases x <;> simp [bind, Except.bind]

theorem bind_of_ok {f : α → Except ε β} {a : α} (found : x = .ok a) : x >>= f = f a := by
  rw [found]
  rfl

theorem mapError_eq_ok_iff {f : ε → ε'} {a : α} : x.mapError f = .ok a ↔ x = .ok a := by
  cases x with
  | error cause => exact iff_of_false nofun nofun
  | ok value => exact ⟨fun same => by cases same; rfl, fun same => by cases same; rfl⟩

theorem mapError_of_error {f : ε → ε'} {cause : ε} (failed : x = .error cause) :
    x.mapError f = .error (f cause) := by
  rw [failed]
  rfl

theorem exists_ok_of_map {f : α → β} {b : β} (given : x.toOption.map f = some b) :
    ∃ a, x = .ok a ∧ f a = b := by
  cases x with
  | error cause => cases given
  | ok a => exact ⟨a, rfl, Option.some.inj given⟩

end Survey.Stages
