import PlaceholderTyping.Proofs.Tree.Remaking

/-!
# Filling places again

Filling a node leaves its places where they are. So when the node is filled a second time, nothing
of the first filling is left, and what is made of a remade node depends on its new children only.
-/

namespace PlaceholderTyping

/-! ## Places -/

section

variable {α : Type}

theorem length_refillList (places supply : List α) :
    (refillList places supply).1.length = places.length := by
  induction places generalizing supply with
  | nil => rfl
  | cons place places induction => cases supply <;> simp [refillList, induction]

theorem refillList_snd (places supply : List α) :
    (refillList places supply).2 = supply.drop places.length := by
  induction places generalizing supply with
  | nil => rfl
  | cons place places induction => cases supply <;> simp [refillList, induction]

theorem refillOption_snd (place : Option α) (supply : List α) :
    (refillOption place supply).2 = supply.drop place.toList.length := by
  cases place <;> cases supply <;> rfl

theorem refillRows_snd (rows : List (List α)) (supply : List α) :
    (refillRows rows supply).2 = supply.drop rows.flatten.length := by
  induction rows generalizing supply with
  | nil => rfl
  | cons row rows induction => simp [refillRows, induction, refillList_snd, List.drop_drop]

theorem refillList_refillList {places later : List α} (earlier : List α)
    (enough : places.length ≤ later.length) :
    refillList (refillList places earlier).1 later = refillList places later := by
  have refilledEnough : (refillList places earlier).1.length ≤ later.length := by
    rwa [length_refillList]
  rw [refillList_eq _ later refilledEnough, refillList_eq _ later enough, length_refillList]

theorem refillOption_refillOption {place : Option α} {later : List α} (earlier : List α)
    (enough : place.toList.length ≤ later.length) :
    refillOption (refillOption place earlier).1 later = refillOption place later := by
  cases place <;> cases earlier <;> cases later <;> simp_all [refillOption]

theorem refillRows_refillRows {rows : List (List α)} {later : List α} (earlier : List α)
    (enough : rows.flatten.length ≤ later.length) :
    refillRows (refillRows rows earlier).1 later = refillRows rows later := by
  induction rows generalizing earlier later with
  | nil => rfl
  | cons row rows induction =>
      rw [List.flatten_cons, List.length_append] at enough
      have rowEnough : row.length ≤ later.length := by omega
      have rowsEnough : rows.flatten.length ≤ (refillList row later).2.length := by
        rw [refillList_snd, List.length_drop]
        omega
      simp only [refillRows, refillList_refillList earlier rowEnough,
        induction (refillList row earlier).2 rowsEnough]

end

/-! ## Nodes -/

namespace Select

theorem withChildren_withChildren {Node : Type} {select : Select Node} {later : List Node}
    (earlier : List Node) (enough : later.length = select.children.length) :
    (select.withChildren earlier).withChildren later = select.withChildren later := by
  simp only [children, List.length_append] at enough
  simp only [withChildren]
  rw [refillList_refillList _ (by omega), refillList_refillList, refillOption_refillOption,
    refillRows_refillRows, refillOption_refillOption, refillOption_refillOption]
  all_goals
    simp only [refillList_snd, refillOption_snd, refillRows_snd, List.length_drop]
    omega

end Select

namespace Update

theorem withChildren_withChildren {Node : Type} {update : Update Node} {later : List Node}
    (earlier : List Node) (enough : later.length = update.children.length) :
    (update.withChildren earlier).withChildren later = update.withChildren later := by
  simp only [children, List.length_append] at enough
  simp only [withChildren]
  rw [refillList_refillList _ (by omega), refillList_refillList, refillOption_refillOption,
    refillList_refillList]
  all_goals
    simp only [refillList_snd, refillOption_snd, List.length_drop]
    omega

end Update

namespace Node

/-- Only the last filling counts. -/
theorem withChildren_withChildren {node : Node} {later : List Node} (earlier : List Node)
    (enough : later.length = node.children.length) :
    (node.withChildren earlier).withChildren later = node.withChildren later := by
  cases node with
  | list | column | condition | call =>
      rw [children] at enough
      simp only [withChildren]
      rw [refillList_refillList _ (Nat.le_of_eq enough.symm)]
  | constant | namedArgument | cast =>
      rcases List.length_eq_one_iff.mp enough with ⟨new, rfl⟩
      rfl
  | operation expression =>
      rw [children, List.length_append] at enough
      simp only [withChildren]
      rw [refillOption_refillOption _ (by omega), refillOption_refillOption]
      rw [refillOption_snd, List.length_drop]
      omega
  | target entry =>
      rw [children] at enough
      simp only [withChildren]
      rw [refillOption_refillOption _ (Nat.le_of_eq enough.symm)]
  | select statement => exact congrArg select (Select.withChildren_withChildren earlier enough)
  | insert statement =>
      rw [children, List.length_append] at enough
      simp only [withChildren]
      rw [refillOption_refillOption _ (by omega), refillList_refillList]
      rw [refillOption_snd, List.length_drop]
      omega
  | update statement => exact congrArg update (Update.withChildren_withChildren earlier enough)
  | delete statement =>
      rw [children, List.length_append] at enough
      simp only [withChildren]
      rw [refillOption_refillOption _ (by omega), refillList_refillList]
      rw [refillOption_snd, List.length_drop]
      omega
  | text | integer | float | null | table | placeholder => rfl

variable {below : Node → Node → Prop} {node result : Node}

theorem Remade.forall₂_children (remade : Remade below node result) :
    List.Forall₂ below node.children result.children := by
  rcases remade.exists_supply with ⟨supply, related, rfl⟩
  rw [children_withChildren related.length_eq.symm]
  exact related

theorem Remade.mapChildren_eq {transform other : Node → Node} (remade : Remade below node result)
    (alike : ∀ child ∈ node.children, ∀ new, below child new → other new = transform child) :
    result.mapChildren other = node.mapChildren transform := by
  rcases remade.exists_supply with ⟨supply, related, rfl⟩
  have sameSupply := map_eq_map_of_related related alike
  rw [mapChildren, children_withChildren related.length_eq.symm, sameSupply, mapChildren]
  exact withChildren_withChildren supply (List.length_map transform)

end Node

end PlaceholderTyping
