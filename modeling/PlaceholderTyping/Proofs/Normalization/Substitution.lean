import PlaceholderTyping.Proofs.Normalization.Numbering

/-!
# Substitution

Normalization numbers the names while it goes through the tree. Once all names are known, so is
every ordinal, and what remains is to put placeholders in the places of the outermost markers. This
leaves no marker behind, and a tree without markers as it is: normalizing twice is normalizing once.
-/

namespace PlaceholderTyping

/-! ## Substitution in a tree -/

namespace Node

def substituteMarkers (config : Config) (ordinal : String → Nat) (node : Node) : Node :=
  match config.marker? node with
  | some marker => marker.replacement (ordinal marker.name)
  | none =>
      node.withChildren <| node.children.attach.map fun ⟨child, _⟩ =>
        child.substituteMarkers config ordinal
termination_by node
decreasing_by exact sizeOf_lt_of_mem_children ‹child ∈ node.children›

theorem substituteMarkers_eq (config : Config) (ordinal : String → Nat) (node : Node) :
    node.substituteMarkers config ordinal =
      match config.marker? node with
      | some marker => marker.replacement (ordinal marker.name)
      | none => node.mapChildren (·.substituteMarkers config ordinal) := by
  rw [substituteMarkers, mapChildren]
  cases config.marker? node with
  | some marker => rfl
  | none =>
      rw [List.map_subtype (g := (·.substituteMarkers config ordinal)) (fun _ _ => rfl),
        List.unattach_attach]

end Node

/-! ## Markers in a tree -/

namespace Config

theorem isMarker_eq_false_iff {config : Config} {node : Node} :
    config.isMarker node = false ↔ config.marker? node = none := by
  rw [isMarker, ← Option.not_isSome_iff_eq_none, Bool.not_eq_true]

theorem isMarker_operation (config : Config) (expression : Operation Node) :
    config.isMarker (.operation expression) = config.isMarkerSign expression := by
  rw [isMarker, marker?]
  cases isSign : config.isMarkerSign expression with
  | false => rfl
  | true =>
      rw [if_pos rfl, Option.isSome_map]
      exact ((isMarkerSign_eq_true_iff config expression).mp isSign).2.1

theorem isMarker_call (config : Config) (expression : Call Node) :
    config.isMarker (.call expression) = config.isMarkerCall expression := by
  rw [isMarker, marker?]
  cases config.isMarkerCall expression <;> rfl

/-- Whether a node is a marker does not depend on what stands below it. -/
theorem isMarker_withChildren (config : Config) (supply : List Node) (node : Node) :
    config.isMarker (node.withChildren supply) = config.isMarker node := by
  cases node with
  | operation expression =>
      simp only [Node.withChildren, isMarker_operation, isMarkerSign, Operation.operator,
        ← Option.not_isSome, isSome_refillOption]
  | call expression => simp only [Node.withChildren, isMarker_call, isMarkerCall]
  | _ => rfl

theorem isMarker_mapChildren (config : Config) (transform : Node → Node) (node : Node) :
    config.isMarker (node.mapChildren transform) = config.isMarker node :=
  config.isMarker_withChildren _ node

theorem containsMarker_eq (config : Config) (node : Node) :
    config.containsMarker node =
      (config.isMarker node || node.children.any config.containsMarker) := by
  rw [containsMarker, Node.descendants_eq, List.any_cons, List.any_flatMap]
  rfl

theorem containsMarker_replacement (config : Config) (marker : Marker) (ordinal : Nat) :
    config.containsMarker (marker.replacement ordinal) = false := by
  cases marker <;>
    simp [Marker.replacement, containsMarker_eq, Node.children, isMarker, marker?]

theorem containsMarker_substituteMarkers (config : Config) (ordinal : String → Nat) (node : Node) :
    config.containsMarker (node.substituteMarkers config ordinal) = false := by
  induction node using Node.childInduction with
  | step node ofChildren =>
      rw [Node.substituteMarkers_eq]
      cases found : config.marker? node with
      | some marker => exact containsMarker_replacement config marker _
      | none =>
          have isMarker : config.isMarker node = false := isMarker_eq_false_iff.mpr found
          rw [containsMarker_eq, isMarker_mapChildren, isMarker, Bool.false_or,
            Node.children_mapChildren, List.any_map, List.any_eq_false]
          intro child member
          exact Bool.eq_false_iff.mp (ofChildren child member)

end Config

theorem Node.substituteMarkers_eq_self {config : Config} {node : Node}
    (unmarked : config.containsMarker node = false) (ordinal : String → Nat) :
    node.substituteMarkers config ordinal = node := by
  induction node using childInduction with
  | step node ofChildren =>
      rw [Config.containsMarker_eq, Bool.or_eq_false_iff, List.any_eq_false] at unmarked
      rcases unmarked with ⟨isMarker, childrenUnmarked⟩
      rw [substituteMarkers_eq, Config.isMarker_eq_false_iff.mp isMarker]
      have unchanged : node.children.map (·.substituteMarkers config ordinal) = node.children := by
        conv_rhs => rw [← List.map_id node.children]
        apply List.map_congr_left
        intro child member
        exact ofChildren child member (Bool.eq_false_iff.mpr (childrenUnmarked child member))
      rw [mapChildren, unchanged, withChildren_children]

/-! ## Growing names -/

namespace NamingState

theorem names_prefix_record (config : Config) (statementLocation : Nat) (state : NamingState)
    (marker : Marker) : state.names <+: (state.record config statementLocation marker).names := by
  rw [names_record]
  split
  · exact List.prefix_rfl
  · exact List.prefix_append _ _

theorem names_prefix_recordAll (config : Config) (statementLocation : Nat) (state : NamingState)
    (markers : List Marker) :
    state.names <+: (state.recordAll config statementLocation markers).names := by
  induction markers using List.reverseRecOn with
  | nil => exact List.prefix_rfl
  | append_singleton markers last induction =>
      rw [recordAll_concat]
      exact induction.trans (names_prefix_record config statementLocation _ last)

/-- A marker's name keeps the ordinal that it gets. -/
theorem ordinal_eq_of_record_prefix {config : Config} {statementLocation : Nat}
    {state final : NamingState} {marker : Marker}
    (grows : (state.record config statementLocation marker).names <+: final.names) :
    final.ordinal marker.name = state.ordinal marker.name := by
  rw [names_record] at grows
  rw [ordinal, ordinal]
  split at grows
  · next known => rw [grows.idxOf_eq_of_mem known]
  · next new =>
      have known := List.mem_append_right state.names (List.mem_singleton_self marker.name)
      rw [← grows.idxOf_eq_of_mem known, List.idxOf_append_of_notMem new,
        List.idxOf_of_notMem new, List.idxOf_cons_self]

end NamingState

/-! ## From effects to substitution -/

section

variable {α β σ : Type} {action : α → StateM σ β} (isEarly : σ → Prop)

theorem isEarly_of_mapM {values : List α} {state : σ}
    (backwards : ∀ value state, isEarly ((action value).run state).2 → isEarly state)
    (early : isEarly ((values.mapM action).run state).2) : isEarly state := by
  rw [run_mapM_snd] at early
  induction values generalizing state with
  | nil => exact early
  | cons value rest induction => exact backwards value state (induction early)

/-- If each action gives what a function gives, provided that it ends early enough, then so does a
traversal that ends early enough. -/
theorem run_mapM_fst {result : α → β} {values : List α} {state : σ}
    (backwards : ∀ value state, isEarly ((action value).run state).2 → isEarly state)
    (results : ∀ value ∈ values, ∀ state, isEarly ((action value).run state).2 →
      ((action value).run state).1 = result value)
    (early : isEarly ((values.mapM action).run state).2) :
    ((values.mapM action).run state).1 = values.map result := by
  induction values generalizing state with
  | nil => rfl
  | cons value rest induction =>
      let afterFirst := ((action value).run state).2
      have restEarly : isEarly ((rest.mapM action).run afterFirst).2 := by
        rw [List.mapM_cons] at early
        exact early
      have firstEarly : isEarly afterFirst := isEarly_of_mapM isEarly backwards restEarly
      have first := results value List.mem_cons_self state firstEarly
      have remaining := induction
        (fun later member => results later (List.mem_cons_of_mem _ member)) restEarly
      rw [List.mapM_cons, List.map_cons, ← first, ← remaining]
      rfl

end

/-- Whatever names come later, the ordinals of a tree's names are settled when the tree is done. -/
theorem Node.run_replaceMarkers_fst {config : Config} {statementLocation : Nat} {node : Node}
    {state final : NamingState}
    (grows : ((node.replaceMarkers config statementLocation).run state).2.names <+:
      final.names) :
    ((node.replaceMarkers config statementLocation).run state).1 =
      node.substituteMarkers config final.ordinal := by
  have backwards (node : Node) (state : NamingState)
      (grows : ((node.replaceMarkers config statementLocation).run state).2.names <+:
        final.names) : state.names <+: final.names := by
    rw [run_replaceMarkers_snd] at grows
    exact (NamingState.names_prefix_recordAll config statementLocation state _).trans grows
  induction node using childInduction generalizing state with
  | step node ofChildren =>
      rw [replaceMarkers_eq] at grows ⊢
      rw [substituteMarkers_eq]
      cases found : config.marker? node with
      | some marker =>
          rw [found] at grows
          have settled := NamingState.ordinal_eq_of_record_prefix grows
          exact congrArg marker.replacement settled.symm
      | none =>
          rw [found] at grows
          let isEarly (state : NamingState) : Prop := state.names <+: final.names
          have results := run_mapM_fst isEarly backwards
            (fun child member _ => ofChildren child member) grows
          exact congrArg node.withChildren results

/-! ## Normalized statements -/

namespace Statement

theorem root_normalize (config : Config) (statement : Statement) :
    (statement.normalize config).statement =
      { statement with
        root := statement.root.substituteMarkers config
          (statement.namingState config).ordinal } := by
  rw [normalize]
  cases marked : config.containsMarker statement.root with
  | true =>
      have final : ((statement.root.replaceMarkers config statement.location).run {}).2 =
          statement.namingState config := Node.run_replaceMarkers_snd _ _ _ _
      have root : ((statement.root.replaceMarkers config statement.location).run {}).1 =
          statement.root.substituteMarkers config (statement.namingState config).ordinal := by
        apply Node.run_replaceMarkers_fst
        exact ⟨[], by rw [final, List.append_nil]⟩
      rw [← root]
      rfl
  | false => rw [Node.substituteMarkers_eq_self marked]; rfl

/-- A normalized statement has no markers, and to normalize it again changes nothing. -/
theorem normalize_normalize (config : Config) (statement : Statement) :
    let normalized := (statement.normalize config).statement
    (∀ node ∈ normalized.root.descendants, config.isMarker node = false) ∧
      normalized.normalize config = { statement := normalized, names := ∅, edits := [] } := by
  intro normalized
  have unmarked : config.containsMarker normalized.root = false := by
    change config.containsMarker (statement.normalize config).statement.root = false
    rw [root_normalize]
    exact Config.containsMarker_substituteMarkers config _ statement.root
  constructor
  · intro node member
    exact Bool.eq_false_iff.mpr (List.any_eq_false.mp unmarked node member)
  · rw [normalize, unmarked, if_neg Bool.false_ne_true]

end Statement

end PlaceholderTyping
