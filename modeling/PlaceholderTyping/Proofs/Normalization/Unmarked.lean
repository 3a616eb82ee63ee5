import Mathlib.Data.List.TFAE
import PlaceholderTyping.Proofs.Normalization.Origins
import PlaceholderTyping.Proofs.Tree.Equality
import PlaceholderTyping.Proofs.Tree.Remaking

/-!
# Statements without markers

Normalization looks for markers first and hands a statement without any back as it is. The main
statement is that this saves work and changes nothing, and that each part of the outcome tells
whether there was a marker at all.
-/

namespace PlaceholderTyping

/-! ## Markers of equal trees -/

namespace Config

variable {config : Config} {left right : Node}

theorem isMarker_eq_of_sameHead (sameHead : left.sameHead right = true) :
    config.isMarker left = config.isMarker right := by
  cases left with
  | operation expression =>
      cases right with
      | operation other =>
          simp only [Node.sameHead, Bool.and_eq_true, beq_iff_eq] at sameHead
          rcases sameHead with ⟨⟨⟨sameName, sameLeft⟩, sameRight⟩, -⟩
          rw [isMarker_operation, isMarker_operation, isMarkerSign, isMarkerSign,
            Operation.operator, Operation.operator, sameName, sameRight, ← Option.not_isSome,
            ← Option.not_isSome, sameLeft]
      | _ => cases sameHead
  | call expression =>
      cases right with
      | call other =>
          simp only [Node.sameHead, Bool.and_eq_true, beq_iff_eq] at sameHead
          rw [isMarker_call, isMarker_call, isMarkerCall, isMarkerCall, sameHead.1]
      | _ => cases sameHead
  | _ =>
      cases right with
      | operation | call => cases sameHead
      | _ => rfl

theorem containsMarker_eq_of_same (same : left.Same right) :
    config.containsMarker left = config.containsMarker right := by
  induction left using Node.childInduction generalizing right with
  | step left ofChildren =>
      have children : right.children.map config.containsMarker =
          left.children.map config.containsMarker :=
        map_eq_map_of_related (Node.forall₂_children_of_same same) fun child member other alike =>
          (ofChildren child member alike).symm
      have any_map (nodes : List Node) :
          nodes.any config.containsMarker = (nodes.map config.containsMarker).any id := by
        rw [List.any_map]
        rfl
      rw [containsMarker_eq, containsMarker_eq, any_map, any_map, children,
        isMarker_eq_of_sameHead (Node.same_iff.mp same).1]

end Config

/-! ## Markers of a statement -/

theorem Node.outermostMarkers_eq_nil_iff {config : Config} {node : Node} :
    node.outermostMarkers config = [] ↔ config.containsMarker node = false := by
  refine ⟨?unmarked, outermostMarkers_eq_nil⟩
  case unmarked =>
    intro noMarkers
    induction node using childInduction with
    | step node ofChildren =>
        rw [outermostMarkers_eq] at noMarkers
        split at noMarkers
        · cases noMarkers
        · next isMarker =>
            rw [Config.containsMarker_eq, Bool.eq_false_iff.mpr isMarker, Bool.false_or,
              List.any_eq_false]
            intro child member
            rw [ofChildren child member (List.flatMap_eq_nil_iff.mp noMarkers child member)]
            exact Bool.false_ne_true

namespace Statement

theorem readings_eq_nil_iff {config : Config} {statement : Statement} :
    statement.readings config = [] ↔ config.containsMarker statement.root = false := by
  rw [← Node.outermostMarkers_eq_nil_iff, ← List.length_eq_zero_iff, ← List.length_eq_zero_iff,
    (statement.reads_readings config).length_eq]

theorem edits_normalize_eq_nil_iff {config : Config} {statement : Statement} :
    (statement.normalize config).edits = [] ↔ config.containsMarker statement.root = false := by
  rw [edits_normalize, List.map_eq_nil_iff, readings_eq_nil_iff]

theorem names_normalize_eq_empty_iff {config : Config} {statement : Statement} :
    (statement.normalize config).names = ∅ ↔ config.containsMarker statement.root = false := by
  constructor
  · intro noNames
    have unnamed : (statement.normalize config).names.toList = [] := by rw [noNames]; rfl
    rw [(statement.normalize_names_edits config).1, NamingState.toList_namesByOrdinal,
      List.map_eq_nil_iff, List.zipIdx_eq_nil_iff, names_namingState] at unnamed
    rw [← readings_eq_nil_iff, List.eq_nil_iff_forall_not_mem]
    intro reading member
    have named := MarkerReading.name_mem_names member
    rw [unnamed] at named
    cases named
  · intro unmarked
    rw [normalize, unmarked, if_neg Bool.false_ne_true]

def normalizeInFull (config : Config) (statement : Statement) : NormalizedStatement :=
  let (root, state) := (statement.root.replaceMarkers config statement.location).run {}
  { statement := { statement with root }, names := state.namesByOrdinal, edits := state.edits }

theorem normalizeInFull_of_unmarked {config : Config} {statement : Statement}
    (unmarked : config.containsMarker statement.root = false) :
    statement.normalizeInFull config = { statement, names := ∅, edits := [] } := by
  have final : ((statement.root.replaceMarkers config statement.location).run {}).2 = {} := by
    rw [Node.run_replaceMarkers_snd, Node.outermostMarkers_eq_nil unmarked]
    rfl
  have substituted : ((statement.root.replaceMarkers config statement.location).run {}).1 =
      statement.root.substituteMarkers config (NamingState.ordinal {}) :=
    Node.run_replaceMarkers_fst (by rw [final])
  rw [Node.substituteMarkers_eq_self unmarked] at substituted
  have outcome : (statement.root.replaceMarkers config statement.location).run {} =
      (statement.root, {}) := Prod.ext substituted final
  rw [normalizeInFull, outcome]
  rfl

/-- To look for markers first makes no difference. A statement without markers comes back as it is,
without names or edits; one with markers comes back with all three changed. -/
theorem normalize_unmarked (config : Config) (statement : Statement) :
    let normalized := statement.normalize config
    normalized = statement.normalizeInFull config ∧
      [∀ node ∈ statement.root.descendants, config.isMarker node = false,
        normalized.names = ∅,
        normalized.edits = [],
        normalized.statement = statement,
        normalized.statement.Same statement].TFAE := by
  intro normalized
  constructor
  · cases marked : config.containsMarker statement.root with
    | true => exact if_pos marked
    | false =>
        rw [normalizeInFull_of_unmarked marked]
        exact if_neg (ne_true_of_eq_false marked)
  · have unmarked_iff : (∀ node ∈ statement.root.descendants, config.isMarker node = false) ↔
        config.containsMarker statement.root = false := by
      simp only [Config.containsMarker, List.any_eq_false, Bool.not_eq_true]
    tfae_have 1 ↔ 2 := unmarked_iff.trans names_normalize_eq_empty_iff.symm
    tfae_have 1 ↔ 3 := unmarked_iff.trans edits_normalize_eq_nil_iff.symm
    tfae_have 1 → 4 := by
      intro unmarked
      have returned : normalized = { statement, names := ∅, edits := [] } :=
        if_neg (ne_true_of_eq_false (unmarked_iff.mp unmarked))
      rw [returned]
    tfae_have 4 → 5 := fun unchanged => by
      rw [unchanged]
      exact statement.same_self
    tfae_have 5 → 1 := by
      intro same
      -- No marker is left after normalization, and equal trees have their markers in common.
      rw [unmarked_iff, ← Config.containsMarker_eq_of_same same.root, root_normalize]
      exact config.containsMarker_substituteMarkers _ statement.root
    tfae_finish

end Statement

end PlaceholderTyping
