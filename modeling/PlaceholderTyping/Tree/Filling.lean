/-!
# Filling places

The places of a node are filled from a supply, from left to right. What the supply has over is
handed on. A place for which nothing is left keeps its content. A supply that is long enough is
divided among the places as it stands.
-/

namespace PlaceholderTyping

variable {α : Type}

def refillList : List α → List α → List α × List α
  | [], supply => ([], supply)
  | places, [] => (places, [])
  | _ :: places, new :: supply =>
      let (filled, rest) := refillList places supply
      (new :: filled, rest)

def refillOption : Option α → List α → Option α × List α
  | some _, new :: supply => (some new, supply)
  | place, supply => (place, supply)

def refillRows : List (List α) → List α → List (List α) × List α
  | [], supply => ([], supply)
  | row :: rows, supply =>
      let (filled, supply) := refillList row supply
      let (filledRows, supply) := refillRows rows supply
      (filled :: filledRows, supply)

example : refillRows [[1, 2], [], [3]] [7, 8, 9, 10] = ([[7, 8], [], [9]], [10]) := rfl

/-! ## Filling with other content -/

theorem refillList_eq (places supply : List α) (enough : places.length ≤ supply.length) :
    refillList places supply = (supply.take places.length, supply.drop places.length) := by
  induction places generalizing supply with
  | nil => rfl
  | cons place places ih =>
      cases supply with
      | nil => simp at enough
      | cons new supply => simp [refillList, ih supply (Nat.le_of_succ_le_succ enough)]

theorem exists_refillOption_eq (place : Option α) (supply : List α)
    (enough : place.toList.length ≤ supply.length) :
    ∃ filled, refillOption place supply = (filled, supply.drop place.toList.length) ∧
      filled.toList = supply.take place.toList.length := by
  cases place <;> cases supply <;> simp_all [refillOption]

theorem isSome_refillOption (place : Option α) (supply : List α) :
    (refillOption place supply).1.isSome = place.isSome := by
  cases place <;> cases supply <;> rfl

theorem exists_refillRows_eq (rows : List (List α)) (supply : List α)
    (enough : rows.flatten.length ≤ supply.length) :
    ∃ filled, refillRows rows supply = (filled, supply.drop rows.flatten.length) ∧
      filled.flatten = supply.take rows.flatten.length := by
  induction rows generalizing supply with
  | nil => exact ⟨[], rfl, rfl⟩
  | cons row rows ih =>
      rw [List.flatten_cons, List.length_append] at enough
      rcases ih (supply.drop row.length) (by rw [List.length_drop]; omega) with
        ⟨filled, rowsFilled, rowsAre⟩
      have rowFilled := refillList_eq row supply (by omega)
      refine ⟨supply.take row.length :: filled, ?_, ?_⟩
      · simp [refillRows, rowFilled, rowsFilled]
      · simp [rowsAre, List.take_add]

/-! ## Filling with the same content -/

@[simp] theorem refillList_append (places rest : List α) :
    refillList places (places ++ rest) = (places, rest) := by
  induction places with
  | nil => rfl
  | cons place places ih => simp [refillList, ih]

@[simp] theorem refillOption_append (place : Option α) (rest : List α) :
    refillOption place (place.toList ++ rest) = (place, rest) := by
  cases place <;> simp [refillOption]

@[simp] theorem refillRows_append (rows : List (List α)) (rest : List α) :
    refillRows rows (rows.flatten ++ rest) = (rows, rest) := by
  induction rows with
  | nil => rfl
  | cons row rows ih => simp [refillRows, ih]

@[simp] theorem refillList_self (places : List α) : refillList places places = (places, []) := by
  simpa using refillList_append places []

@[simp] theorem refillOption_self (place : Option α) :
    refillOption place place.toList = (place, []) := by
  simpa using refillOption_append place []

end PlaceholderTyping
