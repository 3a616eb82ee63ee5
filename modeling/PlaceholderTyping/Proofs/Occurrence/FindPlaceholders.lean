import PlaceholderTyping.Proofs.Occurrence.FirstAppearance

/-!
# What is found in a statement

The search for placeholders goes through a statement in its own way, by place. The main statements
are that it meets the same placeholders as pre-order does, in the same order, and that the context
and the table which it notes for an ordinal are those of the ordinal's first appearance.
-/

namespace PlaceholderTyping.Statement

theorem placeholders_mentions (statement : Statement) :
    (Mention.occurrences none (statement.root.mentions (.under none))).map (·.placeholder) =
      statement.root.placeholders := by
  change (Mention.occurrences none (statement.root.mentions (.ofSurroundings []))).map _ = _
  rw [Node.mentions_eq_flatMap_appearances, Appearance.placeholders_occurrences,
    ← filterMap_placeholder?_appearances]
  rfl

theorem find?_findPlaceholders (statement : Statement) (number : Nat) :
    (statement.findPlaceholders.occurrences.map (·.placeholder)).find? (·.ordinal = number) =
      statement.root.placeholders.find? (·.ordinal = number) := by
  rw [← placeholders_mentions, List.find?_map, List.find?_map]
  exact congrArg (Option.map _) (Occurrence.find?_firstByOrdinal _ number)

/-- Of every ordinal in a statement, and of no other, its first placeholder in pre-order is found,
in ascending order of ordinals. -/
theorem findPlaceholders_preOrder (statement : Statement) :
    let found := statement.findPlaceholders.occurrences.map (·.placeholder)
    (found.map (·.ordinal)).Pairwise (· < ·) ∧
      (∀ number, number ∈ found.map (·.ordinal) ↔
        number ∈ (statement.root.descendants.filterMap Node.placeholder?).map (·.ordinal)) ∧
      (∀ number, found.find? (·.ordinal = number) =
        (statement.root.descendants.filterMap Node.placeholder?).find? (·.ordinal = number)) ∧
      (Mention.occurrences none (statement.root.mentions (.under none))).map (·.placeholder) =
        statement.root.descendants.filterMap Node.placeholder? := by
  intro found
  have firstOfEach := find?_findPlaceholders statement
  refine ⟨?_, ?_, firstOfEach, placeholders_mentions statement⟩
  · rw [List.map_map, List.pairwise_map]
    exact Occurrence.ascending_firstByOrdinal _
  · intro number
    rw [mem_map_iff_isSome_find?, mem_map_iff_isSome_find?, firstOfEach]
    rfl

/-- An occurrence is found if and only if its placeholder is the first of its ordinal in the
statement, its context and its table are those of the placeholder's surroundings, and it has no
other name. -/
theorem mem_findPlaceholders_iff (statement : Statement) (occurrence : Occurrence) :
    occurrence ∈ statement.findPlaceholders.occurrences ↔
      ∃ before above,
        Appearance.IsFirst statement.appearances before occurrence.placeholder above ∧
        occurrence.context = above.context occurrence.placeholder ∧
        occurrence.table = above.table (Appearance.latestTable before) ∧
        occurrence.rename = none := by
  rw [occurrences_findPlaceholders]
  exact Appearance.mem_firstByOrdinal_occurrences_iff _ _

end PlaceholderTyping.Statement
