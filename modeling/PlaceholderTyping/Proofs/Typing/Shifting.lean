import PlaceholderTyping.Proofs.Normalization.Relabeling
import PlaceholderTyping.Proofs.Typing.Relabeling

/-!
# Statements that stand elsewhere in their file

Locations count from the start of the file, but nothing that becomes of a statement depends on them,
except for the locations that it passes on.
-/

namespace PlaceholderTyping

variable (distance : Nat)

/-! ## Tables and parameters -/

theorem QualifiedName.relabel_shift (name : QualifiedName) : name.relabel (.shift distance) = name :=
  rfl

theorem Parameter.relabel_shift : Parameter.relabel (.shift distance) = id := by
  funext parameter
  rcases parameter with ⟨ordinal, _ | ⟨name, dataType, isNotNull, isArray, _ | table⟩⟩ <;> rfl

theorem Scope.ofTables_shift (view : CatalogView) (tables : List TableRef) :
    ofTables view (tables.map (TableRef.relabel (.shift distance))) = ofTables view tables := by
  rw [ofTables, ofTables, List.map_map, List.filterMap_map]
  rfl

theorem Relabeling.keepsColumns_shift (view : CatalogView) (tables : List TableRef) :
    (shift distance).KeepsColumns view tables fun _ => True where
  mentioned _ _ := trivial
  columns name _ column := by
    rw [Scope.ofTables_shift, QualifiedName.relabel_shift]

theorem relabelResult_shift (result : Except TypingError (List Parameter)) :
    relabelResult (.shift distance) (List.map (Parameter.relabel (.shift distance))) result =
      result.mapError (TypingError.relabel (.shift distance)) := by
  rw [Parameter.relabel_shift, List.map_id_fun]
  cases result <;> rfl

theorem resolve_shift (config : Config) (view : CatalogView) (tables : List TableRef)
    (occurrences : List Occurrence) (names : PlaceholderNames) :
    resolve config view (tables.map (TableRef.relabel (.shift distance)))
        (occurrences.map (Occurrence.relabel (.shift distance))) names =
      (resolve config view tables occurrences names).mapError
        (TypingError.relabel (.shift distance)) := by
  rw [resolve_relabel (Relabeling.keepsColumns_shift distance view tables) names
    fun _ _ _ _ => trivial]
  exact relabelResult_shift distance _

/-! ## Statements -/

/-- A statement is treated the same wherever it stands in its file. If the statement and everything
in it is moved by one distance, the names and the edits stay; the normalized tree, the mentioned
tables and the occurrences move with it; and the parameters stay as well, or an error moves. -/
theorem Statement.treatment_shift (config : Config) (view : CatalogView) (statement : Statement) :
    let shift : Relabeling := .shift distance
    let normalized := statement.normalize config
    let shifted := (statement.relabel shift).normalize config
    shifted.names = normalized.names ∧
      shifted.edits = normalized.edits ∧
      shifted.statement = normalized.statement.relabel shift ∧
      (statement.relabel shift).findPlaceholders = statement.findPlaceholders.relabel shift ∧
      shifted.statement.findPlaceholders = normalized.statement.findPlaceholders.relabel shift ∧
      shifted.parameters config view =
        (normalized.parameters config view).mapError (TypingError.relabel shift) ∧
      ∀ tables occurrences names,
        resolve config view (tables.map (TableRef.relabel shift))
            (occurrences.map (Occurrence.relabel shift)) names =
          (resolve config view tables occurrences names).mapError (TypingError.relabel shift) := by
  intro shift normalized shifted
  have sameNames : shifted.names = normalized.names := names_normalize_relabel shift config statement
  have statementMoved : shifted.statement = normalized.statement.relabel shift :=
    statement_normalize_relabel shift config statement
  have foundMoved : shifted.statement.findPlaceholders =
      normalized.statement.findPlaceholders.relabel shift := by
    rw [statementMoved, findPlaceholders_relabel]
  refine ⟨sameNames, edits_normalize_shift config distance statement, statementMoved,
    findPlaceholders_relabel shift statement, foundMoved, ?_, resolve_shift distance config view⟩
  rw [NormalizedStatement.parameters, NormalizedStatement.parameters, foundMoved, sameNames]
  exact resolve_shift distance config view _ _ _

end PlaceholderTyping
