/-!
# Steps that may fail

* `bind_eq_ok_iff`, `pure_eq_ok_iff`, `map_eq_ok_iff`: when chains of steps succeed;
* `bind_eq_error_iff`, `pure_ne_error`, `mapError_eq_error_iff`: when they fail, and how;
* `toOption_eq_some_iff`: a step that fails gives nothing;
* `ite_error_eq_ok_iff`: a step that refuses something succeeds on all else;
* `mapError_eq_ok_iff`: naming a fault anew does not make a step succeed;
* `mapError_bind`: in a chain it is the same to do so step by step.
-/

namespace SessionReplay

variable {ε ε' α β : Type}

/-- A chain of two steps succeeds if both do. -/
theorem bind_eq_ok_iff {x : Except ε α} {f : α → Except ε β} {b : β} :
    x >>= f = .ok b ↔ ∃ a, x = .ok a ∧ f a = .ok b := by
  cases x <;> simp [bind, Except.bind]

/-- A chain of two steps fails with the fault of the first one that does. -/
theorem bind_eq_error_iff {x : Except ε α} {f : α → Except ε β} {fault : ε} :
    x >>= f = .error fault ↔ x = .error fault ∨ ∃ a, x = .ok a ∧ f a = .error fault := by
  cases x <;> simp [bind, Except.bind]

theorem pure_eq_ok_iff {a b : α} : (pure a : Except ε α) = .ok b ↔ a = b := by
  simp [pure, Except.pure]

theorem pure_ne_error {a : α} {fault : ε} : (pure a : Except ε α) ≠ .error fault := nofun

theorem map_eq_ok_iff {x : Except ε α} {f : α → β} {b : β} :
    x.map f = .ok b ↔ ∃ a, x = .ok a ∧ f a = b := by
  cases x <;> simp [Except.map]

theorem mapError_eq_ok_iff {x : Except ε α} {f : ε → ε'} {a : α} :
    x.mapError f = .ok a ↔ x = .ok a := by
  cases x with
  | error fault => exact ⟨nofun, nofun⟩
  | ok value =>
    have hok : (Except.ok value : Except ε α).mapError f = .ok value := rfl
    rw [hok, Except.ok.injEq, Except.ok.injEq]

theorem toOption_eq_some_iff {x : Except ε α} {a : α} : x.toOption = some a ↔ x = .ok a := by
  cases x <;> simp [Except.toOption]

/-- A step that refuses something succeeds where the rest does on all else. -/
theorem ite_error_eq_ok_iff {P : Prop} [Decidable P] {fault : ε} {x : Except ε α} {a : α} :
    (if P then .error fault else x) = .ok a ↔ ¬ P ∧ x = .ok a := by
  by_cases h : P <;> simp [h]

theorem mapError_eq_error_iff {x : Except ε α} {f : ε → ε'} {fault : ε'} :
    x.mapError f = .error fault ↔ ∃ cause, x = .error cause ∧ f cause = fault := by
  cases x with
  | ok value =>
    refine iff_of_false nofun ?_
    rintro ⟨_, h, -⟩
    cases h
  | error cause =>
    have herror : (Except.error cause : Except ε α).mapError f = .error (f cause) := rfl
    simp only [herror, Except.error.injEq, exists_eq_left']

/-- Naming the fault of a chain anew names that of each step anew. -/
theorem mapError_bind {x : Except ε α} {f : α → Except ε β} {g : ε → ε'} :
    (x >>= f).mapError g = x.mapError g >>= fun a => (f a).mapError g := by
  cases x <;> rfl

end SessionReplay
