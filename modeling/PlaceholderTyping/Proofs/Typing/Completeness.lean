import Mathlib
import PlaceholderTyping.Proofs.Occurrence.FirstAppearance
import PlaceholderTyping.Proofs.Typing.DroppedOccurrence
import PlaceholderTyping.Proofs.Typing.Resolution

/-!
# Which placeholders become parameters

The parameters of a statement are in ascending order of ordinals, no ordinal comes twice and none is
made up. But not every placeholder becomes a parameter: one that lies deep in an argument of a call
gets lost without an error. The main statement is that these are all that get lost.
-/

namespace PlaceholderTyping

namespace Statement

def Hides (statement : Statement) (number : Nat) : Prop :=
  ∃ before parameter above call,
    Appearance.IsFirst statement.appearances before parameter above ∧
      parameter.ordinal = number ∧ above.typingNode? = some (.call call) ∧ ¬ call.Takes number

theorem exists_isFirst_appearances_iff (statement : Statement) (number : Nat) :
    (∃ before parameter above,
        Appearance.IsFirst statement.appearances before parameter above ∧
          parameter.ordinal = number) ↔
      number ∈ statement.root.placeholders.map (·.ordinal) := by
  rw [← filterMap_placeholder?_appearances]
  exact Appearance.exists_isFirst_iff statement.appearances number

theorem Hides.mem_placeholders {statement : Statement} {number : Nat}
    (hides : statement.Hides number) :
    number ∈ statement.root.placeholders.map (·.ordinal) := by
  rcases hides with ⟨before, parameter, above, _, isFirst, same, _⟩
  exact (exists_isFirst_appearances_iff statement number).mp
    ⟨before, parameter, above, isFirst, same⟩

theorem exists_kept_iff (config : Config) (view : CatalogView) (scope : Scope)
    (statement : Statement) (number : Nat) :
    (∃ occurrence ∈ statement.findPlaceholders.occurrences,
        occurrence.isDropped config view scope = false ∧ occurrence.ordinal = number) ↔
      number ∈ statement.root.placeholders.map (·.ordinal) ∧ ¬ statement.Hides number := by
  rw [occurrences_findPlaceholders, ← exists_isFirst_appearances_iff]
  constructor
  · rintro ⟨occurrence, member, kept, rfl⟩
    rcases (Appearance.mem_firstByOrdinal_occurrences_iff _ _).mp member with
      ⟨before, above, isFirst, context, _⟩
    refine ⟨⟨before, occurrence.placeholder, above, isFirst, rfl⟩, ?_⟩
    rintro ⟨_, parameter, otherAbove, call, otherFirst, same, typing, takesNot⟩
    rcases isFirst.unique otherFirst same.symm with ⟨_, rfl⟩
    have dropped := (Occurrence.outcome_eq_dropped_iff config view scope context).mpr
      ⟨call, typing, takesNot⟩
    rw [(Occurrence.isDropped_eq_true_iff scope occurrence).mpr dropped] at kept
    cases kept
  · rintro ⟨⟨before, parameter, above, isFirst, rfl⟩, notHidden⟩
    let occurrence : Occurrence :=
      { placeholder := parameter
        context := above.context parameter
        table := above.table (Appearance.latestTable before) }
    refine ⟨occurrence, ?_, ?_, rfl⟩
    · exact (Appearance.mem_firstByOrdinal_occurrences_iff _ occurrence).mpr
        ⟨before, above, isFirst, rfl, rfl, rfl⟩
    · apply Bool.eq_false_iff.mpr
      intro isDropped
      have dropped := (Occurrence.isDropped_eq_true_iff scope occurrence).mp isDropped
      have context : occurrence.context = above.context occurrence.placeholder := rfl
      rcases (Occurrence.outcome_eq_dropped_iff config view scope context).mp dropped with
        ⟨call, typing, takesNot⟩
      exact notHidden ⟨before, parameter, above, call, isFirst, rfl, typing, takesNot⟩

end Statement

namespace NormalizedStatement

variable {config : Config} {view : CatalogView} {normalized : NormalizedStatement}
  {parameters : List Parameter}

theorem ascending_ordinals_parameters
    (resolved : normalized.parameters config view = .ok parameters) :
    (parameters.map Parameter.ordinal).Pairwise (· < ·) := by
  rw [ordinals_resolve resolved, List.pairwise_map]
  exact (Occurrence.ascending_firstByOrdinal _).filter _

theorem mem_ordinals_parameters_iff
    (resolved : normalized.parameters config view = .ok parameters) (number : Nat) :
    number ∈ parameters.map Parameter.ordinal ↔
      number ∈ normalized.statement.root.placeholders.map (·.ordinal) ∧
        ¬ normalized.statement.Hides number := by
  rw [ordinals_resolve resolved, ← Statement.exists_kept_iff config view
    (.ofTables view normalized.statement.findPlaceholders.tables), List.mem_map]
  simp only [List.mem_filter, Bool.not_eq_true', and_assoc]

end NormalizedStatement

/-- The ordinals of the parameters ascend strictly, and they are the ordinals of the statement's
placeholders without the hidden ones. So they are all of them exactly if none is hidden. -/
theorem Statement.ordinals_parameters_normalize {config : Config} {view : CatalogView}
    {statement : Statement} {parameters : List Parameter}
    (resolved : (statement.normalize config).parameters config view = .ok parameters) :
    let normalized := (statement.normalize config).statement
    let present := (normalized.root.descendants.filterMap Node.placeholder?).map (·.ordinal)
    let reported := parameters.map Parameter.ordinal
    reported.Pairwise (· < ·) ∧
      (∀ number, number ∈ reported ↔ number ∈ present ∧ ¬ normalized.Hides number) ∧
      ((∀ number, number ∈ reported ↔ number ∈ present) ↔
        ∀ number, ¬ normalized.Hides number) := by
  intro normalized present reported
  have reportedIff : ∀ number, number ∈ reported ↔ number ∈ present ∧ ¬ normalized.Hides number :=
    NormalizedStatement.mem_ordinals_parameters_iff resolved
  refine ⟨NormalizedStatement.ascending_ordinals_parameters resolved, reportedIff, ?_⟩
  constructor
  · intro complete number hides
    have isReported := (complete number).mpr hides.mem_placeholders
    exact ((reportedIff number).mp isReported).2 hides
  · intro noneHidden number
    rw [reportedIff number]
    exact and_iff_left (noneHidden number)

/-! ## A hidden placeholder -/

namespace Statement

/-- `SELECT lower(NOT @flag), @count::integer` -/
def negatedArgument : Statement where
  root := .select {
    targets := [
      .target {
        name := none
        value := some <| .call {
          function := { name := "lower" }
          arguments := [.condition {
            connective := .not
            operands := [.operation {
              name := ["@"]
              left := none
              right := some <| .column { fields := [.text "flag"], location := 18 }
              location := 17 }]
            location := 13 }]
          location := 7 }
        location := 7 },
      .target {
        name := none
        value := some <| .operation {
          name := ["@"]
          left := none
          right := some <| .cast {
            operand := .column { fields := [.text "count"], location := 26 }
            type := some { name := "integer" }
            location := 31 }
          location := 25 }
        location := 25 }]
    sources := []
    filter := none
    rows := []
    limit := none
    offset := none }
  location := 0
  length := 40

theorem parameters_negatedArgument :
    (negatedArgument.normalize {}).parameters {} (Catalog.view {}) =
      .ok [{
        ordinal := 2
        type := some {
          name := "count", dataType := "integer", isNotNull := true, isArray := false } }] := by
  cbv

theorem placeholders_negatedArgument :
    (negatedArgument.normalize {}).statement.root.placeholders.map (·.ordinal) = [1, 2] := by
  cbv

theorem negatedArgument_hides_first :
    (negatedArgument.normalize {}).statement.Hides 1 ∧
      ¬ (negatedArgument.normalize {}).statement.Hides 2 := by
  rcases ordinals_parameters_normalize parameters_negatedArgument with ⟨_, reportedIff, _⟩
  constructor
  · apply Classical.byContradiction
    intro notHidden
    have present : 1 ∈ (negatedArgument.normalize {}).statement.root.placeholders.map
        (·.ordinal) := by
      rw [placeholders_negatedArgument]
      decide
    have reported := (reportedIff 1).mpr ⟨present, notHidden⟩
    simp at reported
  · exact ((reportedIff 2).mp List.mem_cons_self).2

theorem exists_unreported_placeholder :
    ∃ parameters, (negatedArgument.normalize {}).parameters {} (Catalog.view {}) = .ok parameters ∧
      1 ∈ (negatedArgument.normalize {}).statement.root.placeholders.map (·.ordinal) ∧
      1 ∉ parameters.map Parameter.ordinal := by
  refine ⟨_, parameters_negatedArgument, ?_, by decide⟩
  rw [placeholders_negatedArgument]
  decide

end Statement

end PlaceholderTyping
