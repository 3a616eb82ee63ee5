import PlaceholderTyping.Proofs.Normalization.Substitution
import PlaceholderTyping.Proofs.Tree.Relabeling

/-!
# Normalization of relabeled statements

Where a marker stands does not matter to what it is and which name it gives. So the statement that
is left when the markers are gone is relabeled like the given one, and the names are the same. The
edits are the same if everything is moved by one distance, since they count from the start of the
statement.
-/

namespace PlaceholderTyping

variable (change : Relabeling) (config : Config)

/-! ## Markers -/

namespace Marker

def relabel : Marker → Marker
  | .call expression => .call (expression.relabel change)
  | .sign operand location => .sign (operand.relabel change) (change.location location)
  | .signOverCast cast location =>
      .signOverCast (cast.relabel change) (change.location location)

theorem nameNodes_relabel (marker : Marker) :
    (marker.relabel change).nameNodes = marker.nameNodes.map (Node.relabel change) := by
  cases marker with
  | call expression => simp [relabel, nameNodes, Call.relabel_eq]
  | sign operand location => rfl
  | signOverCast cast location => simp [relabel, nameNodes, Cast.relabel_eq]

theorem name_relabel (marker : Marker) : (marker.relabel change).name = marker.name := by
  rw [name, name, nameNodes_relabel, spelledName_relabel]

theorem location_relabel (marker : Marker) :
    (marker.relabel change).location = change.location marker.location := by
  cases marker with
  | call expression => simp [relabel, location, Call.relabel_eq]
  | sign operand location => rfl
  | signOverCast cast location => rfl

theorem spelling_relabel (marker : Marker) :
    (marker.relabel change).spelling config = marker.spelling config := by
  have sameName := marker.name_relabel change
  cases marker with
  | call expression =>
      rw [relabel] at sameName ⊢
      rw [spelling, spelling, sameName, Call.relabel_eq, isQuotedName_relabel]
  | sign operand location => exact congrArg (config.markerSign ++ ·) sameName
  | signOverCast cast location => exact congrArg (config.markerSign ++ ·) sameName

theorem replacement_relabel (marker : Marker) (ordinal : Nat) :
    (marker.replacement ordinal).relabel change = (marker.relabel change).replacement ordinal := by
  cases marker with
  | call expression =>
      rw [relabel, Call.relabel_eq]
      rfl
  | sign operand location => rfl
  | signOverCast cast location =>
      rw [relabel, Cast.relabel_eq]
      rfl

/-- The start of the statement moves as far as the marker does, so the edit stays. -/
theorem edit_shift (statementLocation distance ordinal : Nat) (marker : Marker) :
    (marker.relabel (.shift distance)).edit config (statementLocation + distance) ordinal =
      marker.edit config statementLocation ordinal := by
  rw [edit, edit, location_relabel, spelling_relabel]
  apply congrArg (fun location => Edit.mk location _ _)
  exact Nat.add_sub_add_right marker.location distance statementLocation

end Marker

/-! ## Markers of a tree -/

theorem Operation.operator_relabel (expression : Operation Node) :
    (expression.relabel change).operator = expression.operator := by
  rw [operator, operator, relabel_eq]

namespace Config

theorem isMarkerCall_relabel (call : Call Node) :
    config.isMarkerCall (call.relabel change) = config.isMarkerCall call := by
  rw [isMarkerCall, isMarkerCall, Call.relabel_eq]

theorem isMarkerSign_relabel (operation : Operation Node) :
    config.isMarkerSign (operation.relabel change) = config.isMarkerSign operation := by
  rw [isMarkerSign, isMarkerSign, Operation.operator_relabel, Operation.relabel_eq]
  simp only [Option.isNone_map, Option.isSome_map]

theorem marker?_relabel (node : Node) :
    config.marker? (node.relabel change) = (config.marker? node).map (Marker.relabel change) := by
  cases node with
  | call expression =>
      rw [Node.relabel, marker?, marker?, isMarkerCall_relabel]
      split <;> rfl
  | operation expression =>
      rw [Node.relabel, marker?, marker?, isMarkerSign_relabel]
      split
      · rw [Operation.relabel_eq, Option.map_map, Option.map_map]
        apply congrArg (Option.map · expression.right)
        funext operand
        cases operand <;> rfl
      · rfl
  | _ => rfl

theorem isMarker_relabel (node : Node) :
    config.isMarker (node.relabel change) = config.isMarker node := by
  rw [isMarker, isMarker, marker?_relabel, Option.isSome_map]

end Config

namespace Node

theorem outermostMarkers_relabel (node : Node) :
    (node.relabel change).outermostMarkers config =
      (node.outermostMarkers config).map (relabel change) := by
  induction node using childInduction with
  | step node ofChildren =>
      rw [outermostMarkers_eq, outermostMarkers_eq, Config.isMarker_relabel, children_relabel]
      split
      · rfl
      · rw [List.map_flatMap, List.flatMap_map]
        apply List.flatMap_congr
        exact ofChildren

/-- It does not matter whether a tree is relabeled before or after its markers are replaced. -/
theorem substituteMarkers_relabel (ordinal : String → Nat) (node : Node) :
    (node.relabel change).substituteMarkers config ordinal =
      (node.substituteMarkers config ordinal).relabel change := by
  induction node using childInduction with
  | step node ofChildren =>
      rw [substituteMarkers_eq, substituteMarkers_eq, Config.marker?_relabel]
      cases config.marker? node with
      | some marker =>
          simp only [Option.map_some, Marker.replacement_relabel, Marker.name_relabel]
      | none =>
          rw [Option.map_none, mapChildren, mapChildren, withChildren_relabel, children_relabel,
            List.map_map, List.map_map]
          apply congrArg (node.relabel change).withChildren
          apply List.map_congr_left
          exact ofChildren

end Node

/-! ## Statements -/

namespace Statement

theorem markers_relabel (statement : Statement) :
    (statement.relabel change).markers config =
      (statement.markers config).map (Marker.relabel change) := by
  rw [markers, markers, relabel, Node.outermostMarkers_relabel, List.filterMap_map,
    List.map_filterMap]
  apply List.filterMap_congr
  intro node _
  exact config.marker?_relabel change node

theorem map_name_markers_relabel (statement : Statement) :
    ((statement.relabel change).markers config).map Marker.name =
      (statement.markers config).map Marker.name := by
  rw [markers_relabel, List.map_map]
  apply List.map_congr_left
  intro marker _
  exact marker.name_relabel change

theorem names_namingState_relabel (statement : Statement) :
    ((statement.relabel change).namingState config).names =
      (statement.namingState config).names := by
  rw [namingState, namingState, NamingState.names_recordAll, NamingState.names_recordAll,
    map_name_markers_relabel]

theorem names_normalize_relabel (statement : Statement) :
    ((statement.relabel change).normalize config).names = (statement.normalize config).names := by
  rw [(normalize_names_edits config _).1, (normalize_names_edits config _).1,
    NamingState.namesByOrdinal, NamingState.namesByOrdinal, names_namingState_relabel]

theorem statement_normalize_relabel (statement : Statement) :
    ((statement.relabel change).normalize config).statement =
      (statement.normalize config).statement.relabel change := by
  have sameOrdinals : ((statement.relabel change).namingState config).ordinal =
      (statement.namingState config).ordinal := by
    funext name
    rw [NamingState.ordinal, NamingState.ordinal, names_namingState_relabel]
  rw [root_normalize, root_normalize, sameOrdinals, relabel, relabel,
    Node.substituteMarkers_relabel]

theorem edits_normalize_shift (distance : Nat) (statement : Statement) :
    ((statement.relabel (.shift distance)).normalize config).edits =
      (statement.normalize config).edits := by
  rw [(normalize_names_edits config _).2, (normalize_names_edits config _).2, namingState,
    namingState, NamingState.edits_recordAll, NamingState.edits_recordAll,
    map_name_markers_relabel, markers_relabel, List.map_map]
  apply List.map_congr_left
  intro marker _
  rw [Function.comp_apply, Marker.name_relabel]
  exact marker.edit_shift config statement.location distance _

end Statement

end PlaceholderTyping
