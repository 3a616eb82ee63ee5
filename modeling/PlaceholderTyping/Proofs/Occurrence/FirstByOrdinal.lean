import Mathlib.Data.List.Induction
import PlaceholderTyping.Occurrence.Search

/-!
# The first occurrence of every ordinal

Occurrences are taken up one after the other. What is kept is in strictly ascending order of
ordinals, and a search for an ordinal finds in it what the same search finds in all occurrences.
-/

namespace PlaceholderTyping

theorem mem_map_iff_isSome_find? {α : Type} (key : α → Nat) (values : List α) (number : Nat) :
    number ∈ values.map key ↔ (values.find? (key · = number)).isSome = true := by
  simp [List.find?_isSome]

namespace Occurrence

def ordinal (occurrence : Occurrence) : Nat :=
  occurrence.placeholder.ordinal

def Ascending (occurrences : List Occurrence) : Prop :=
  occurrences.Pairwise fun earlier later => earlier.ordinal < later.ordinal

theorem ordinal_of_mem_insertNew {occurrence new : Occurrence} {kept : List Occurrence}
    (member : occurrence ∈ new.insertNew kept) : occurrence = new ∨ occurrence ∈ kept := by
  induction kept with
  | nil => exact Or.inl (List.mem_singleton.mp member)
  | cons first rest induction =>
      rw [insertNew] at member
      split at member
      · exact List.mem_cons.mp member
      · split at member
        · exact Or.inr member
        · rcases List.mem_cons.mp member with rfl | inRest
          · exact Or.inr List.mem_cons_self
          · exact (induction inRest).imp id (List.mem_cons_of_mem first)

theorem ascending_insertNew {kept : List Occurrence} (ascending : Ascending kept)
    (new : Occurrence) : Ascending (new.insertNew kept) := by
  induction kept with
  | nil => exact List.pairwise_singleton _ new
  | cons first rest induction =>
      have parts := List.pairwise_cons.mp ascending
      rw [insertNew]
      split
      · next lower =>
          apply List.Pairwise.cons _ ascending
          intro later member
          rcases List.mem_cons.mp member with rfl | inRest
          · exact lower
          · exact Nat.lt_trans lower (parts.1 later inRest)
      · split
        · exact ascending
        · next notLower different =>
            apply List.Pairwise.cons _ (induction parts.2)
            intro later member
            rcases ordinal_of_mem_insertNew member with rfl | inRest
            · unfold ordinal
              omega
            · exact parts.1 later inRest

theorem find?_insertNew {kept : List Occurrence} (ascending : Ascending kept)
    (new : Occurrence) (number : Nat) :
    (new.insertNew kept).find? (·.ordinal = number) =
      (kept.find? (·.ordinal = number)).or ([new].find? (·.ordinal = number)) := by
  induction kept with
  | nil => rfl
  | cons first rest induction =>
      have parts := List.pairwise_cons.mp ascending
      rw [insertNew]
      split
      · next lower =>
          by_cases isNew : new.ordinal = number
          · have absent : (first :: rest).find? (·.ordinal = number) = none := by
              rw [List.find?_eq_none]
              intro later member
              have above : new.ordinal < later.ordinal := by
                rcases List.mem_cons.mp member with rfl | inRest
                · exact lower
                · exact Nat.lt_trans lower (parts.1 later inRest)
              simp only [decide_eq_true_eq]
              omega
            rw [absent]
            simp [isNew]
          · simp [List.find?_cons, isNew]
      · split
        · next same =>
            change new.ordinal = first.ordinal at same
            by_cases isFirst : first.ordinal = number
            · simp [isFirst]
            · simp [same, isFirst]
        · by_cases isFirst : first.ordinal = number
          · simp [isFirst]
          · simp [List.find?_cons, isFirst] at induction ⊢
            exact induction parts.2

theorem firstByOrdinal_concat (occurrences : List Occurrence) (last : Occurrence) :
    firstByOrdinal (occurrences ++ [last]) = last.insertNew (firstByOrdinal occurrences) := by
  simp [firstByOrdinal]

theorem ascending_firstByOrdinal (occurrences : List Occurrence) :
    Ascending (firstByOrdinal occurrences) := by
  induction occurrences using List.reverseRecOn with
  | nil => exact List.Pairwise.nil
  | append_singleton occurrences last induction =>
      rw [firstByOrdinal_concat]
      exact ascending_insertNew induction last

theorem find?_firstByOrdinal (occurrences : List Occurrence) (number : Nat) :
    (firstByOrdinal occurrences).find? (·.ordinal = number) =
      occurrences.find? (·.ordinal = number) := by
  induction occurrences using List.reverseRecOn with
  | nil => rfl
  | append_singleton occurrences last induction =>
      rw [firstByOrdinal_concat, find?_insertNew (ascending_firstByOrdinal occurrences),
        induction, List.find?_append]

theorem Ascending.find?_eq_some_iff {occurrences : List Occurrence}
    (ascending : Ascending occurrences) (occurrence : Occurrence) :
    occurrences.find? (·.ordinal = occurrence.ordinal) = some occurrence ↔
      occurrence ∈ occurrences := by
  constructor
  · exact List.mem_of_find?_eq_some
  · intro member
    induction occurrences with
    | nil => cases member
    | cons first rest induction =>
        have parts := List.pairwise_cons.mp ascending
        rcases List.mem_cons.mp member with rfl | inRest
        · simp
        · have different : first.ordinal ≠ occurrence.ordinal :=
            Nat.ne_of_lt (parts.1 occurrence inRest)
          rw [List.find?_cons_of_neg (by simpa using different)]
          exact induction parts.2 inRest

/-- What is kept is, of every ordinal, the occurrence that comes first. -/
theorem mem_firstByOrdinal_iff (occurrences : List Occurrence) (occurrence : Occurrence) :
    occurrence ∈ firstByOrdinal occurrences ↔
      occurrences.find? (·.ordinal = occurrence.ordinal) = some occurrence := by
  rw [← (ascending_firstByOrdinal occurrences).find?_eq_some_iff, find?_firstByOrdinal]

end Occurrence

end PlaceholderTyping
