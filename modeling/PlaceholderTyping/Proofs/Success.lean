import Mathlib.Data.List.Forall2

/-!
# Computations that succeed

When a computation that may fail has a given result, for each way of putting computations together.
-/

namespace PlaceholderTyping

variable {ε α β : Type}

@[simp]
theorem bind_eq_ok_iff {result : Except ε α} {next : α → Except ε β} {value : β} :
    (result >>= next) = .ok value ↔
      ∃ intermediate, result = .ok intermediate ∧ next intermediate = .ok value := by
  cases result <;> simp [bind, Except.bind]

theorem bind_eq_error_iff {result : Except ε α} {next : α → Except ε β} {failure : ε} :
    (result >>= next) = .error failure ↔
      result = .error failure ∨
        ∃ intermediate, result = .ok intermediate ∧ next intermediate = .error failure := by
  cases result <;> simp [bind, Except.bind]

@[simp]
theorem map_eq_ok_iff {result : Except ε α} {change : α → β} {value : β} :
    change <$> result = .ok value ↔
      ∃ intermediate, result = .ok intermediate ∧ change intermediate = value := by
  cases result <;> simp [Functor.map, Except.map]

@[simp]
theorem map_eq_error_iff {result : Except ε α} {change : α → β} {failure : ε} :
    change <$> result = .error failure ↔ result = .error failure := by
  cases result <;> simp [Functor.map, Except.map]

@[simp]
theorem pure_eq_ok_iff {given value : α} :
    (pure given : Except ε α) = .ok value ↔ value = given := by
  simp [pure, Except.pure, eq_comm]

theorem bind_pure_eq_ok_iff {result : Except ε α} {change : α → β} {value : β} :
    (result >>= fun intermediate => pure (change intermediate)) = .ok value ↔
      ∃ intermediate, result = .ok intermediate ∧ value = change intermediate := by
  simp only [bind_eq_ok_iff, pure_eq_ok_iff]

@[simp]
theorem pure_ne_error {value : α} {failure : ε} : (pure value : Except ε α) ≠ .error failure := nofun

@[simp]
theorem throw_ne_ok {failure : ε} {value : α} : (throw failure : Except ε α) ≠ .ok value := nofun

@[simp]
theorem throw_eq_error_iff {given failure : ε} :
    (throw given : Except ε α) = .error failure ↔ failure = given := by
  simp [throw, throwThe, MonadExceptOf.throw, @eq_comm _ failure]

theorem ite_throw_eq_ok_iff {refused : Prop} [Decidable refused] {failure : ε}
    {proceed : Except ε α} {value : α} :
    (if refused then throw failure else proceed) = .ok value ↔
      ¬ refused ∧ proceed = .ok value := by
  split <;> simp [*]

theorem ite_throw_bind_eq_ok_iff {refused : Prop} [Decidable refused] {failure : ε}
    {next : α → Except ε β} {proceed : Except ε β} {value : β} :
    (if refused then throw failure >>= next else proceed) = .ok value ↔
      ¬ refused ∧ proceed = .ok value := by
  split <;> simp [*]

theorem ite_throw_eq_error_iff {refused : Prop} [Decidable refused] {failure given : ε}
    {proceed : Except ε α} :
    (if refused then throw given else proceed) = .error failure ↔
      (refused ∧ failure = given) ∨ (¬ refused ∧ proceed = .error failure) := by
  split <;> simp [*]

theorem ite_throw_bind_eq_error_iff {refused : Prop} [Decidable refused] {failure given : ε}
    {next : α → Except ε β} {proceed : Except ε β} :
    (if refused then throw given >>= next else proceed) = .error failure ↔
      (refused ∧ failure = given) ∨ (¬ refused ∧ proceed = .error failure) := by
  split <;> simp [*, bind_eq_error_iff]

@[simp]
theorem mapError_eq_ok_iff {ζ : Type} {result : Except ε α} {change : ε → ζ} {value : α} :
    result.mapError change = .ok value ↔ result = .ok value := by
  cases result <;> simp [Except.mapError]

theorem toOption_eq_some_iff {result : Except ε α} {value : α} :
    result.toOption = some value ↔ result = .ok value := by
  cases result <;> simp [Except.toOption]

/-- Computations that come to the same after a change of their results fail alike or succeed
alike. -/
theorem fail_or_succeed_of_map_eq_map {left right : Except ε α} {change : α → β}
    (same : change <$> left = change <$> right) :
    (∃ failure, left = .error failure ∧ right = .error failure) ∨
      ∃ value other, left = .ok value ∧ right = .ok other ∧ change value = change other := by
  cases right with
  | error failure => exact .inl ⟨failure, map_eq_error_iff.mp same, rfl⟩
  | ok other =>
      rcases map_eq_ok_iff.mp same with ⟨value, succeeds, changed⟩
      exact .inr ⟨value, other, succeeds, rfl, changed⟩

/-- A traversal succeeds exactly if every step does, with the results in order. -/
theorem mapM_eq_ok_iff {step : α → Except ε β} {elements : List α} {values : List β} :
    elements.mapM step = .ok values ↔
      List.Forall₂ (fun element value => step element = .ok value) elements values := by
  induction elements generalizing values with
  | nil => simp
  | cons first rest induction =>
      simp only [List.mapM_cons, bind_eq_ok_iff, pure_eq_ok_iff, induction,
        List.forall₂_cons_left_iff]
      constructor
      · intro succeeds
        rcases succeeds with ⟨value, ofFirst, later, ofRest, rfl⟩
        exact ⟨value, later, ofFirst, ofRest, rfl⟩
      · intro succeeds
        rcases succeeds with ⟨value, later, ofFirst, ofRest, rfl⟩
        exact ⟨value, ofFirst, later, ofRest, rfl⟩

end PlaceholderTyping
