import PlaceholderTyping.Marker
import PlaceholderTyping.Proofs.Tree.Appearance

/-!
# Outermost markers

A marker may lie under another marker and is then part of its name. The surface of a tree is what
lies under no marker: going down from the root, it ends at the first markers that are met.
-/

namespace PlaceholderTyping

namespace Config

def isOnSurface (config : Config) (appearance : Appearance) : Bool :=
  !appearance.above.any fun (ancestor, _) => config.isMarker ancestor

theorem isOnSurface_under (config : Config) (appearance : Appearance) (ancestor : Node)
    (role : Role) :
    config.isOnSurface { appearance with above := appearance.above ++ [(ancestor, role)] } =
      (config.isOnSurface appearance && !config.isMarker ancestor) := by
  simp [isOnSurface]

def isOutermostMarker (config : Config) (appearance : Appearance) : Bool :=
  config.isMarker appearance.node &&
    !appearance.above.any fun (ancestor, _) => config.isMarker ancestor

end Config

namespace Node

/-! ## The surface of a tree -/

def surface (config : Config) (node : Node) : List Node :=
  ((node.appearances []).filter config.isOnSurface).map Appearance.node

/-- Nothing under a marker is on the surface, and under another node it is the surfaces of its
children. -/
theorem filter_appearances_under (config : Config) (ancestor : Node) (role : Role) (node : Node) :
    ((node.appearances [(ancestor, role)]).filter config.isOnSurface).map Appearance.node =
      if config.isMarker ancestor then [] else node.surface config := by
  have under := appearances_append [] [(ancestor, role)] node
  rw [List.nil_append] at under
  rw [under, List.filter_map, List.map_map, surface]
  cases isMarker : config.isMarker ancestor <;>
    simp [Function.comp_def, Config.isOnSurface_under, isMarker]

theorem surface_eq (config : Config) (node : Node) :
    node.surface config =
      node :: if config.isMarker node then [] else node.children.flatMap (·.surface config) := by
  have isOnSurface : config.isOnSurface ⟨node, []⟩ = true := rfl
  rw [surface, appearances_eq, List.filter_cons_of_pos isOnSurface, List.filter_flatMap,
    ← map_snd_roles, List.flatMap_map]
  cases isMarker : config.isMarker node <;>
    simp [List.map_flatMap, filter_appearances_under, isMarker]

/-! ## The markers on the surface -/

def outermostMarkers (config : Config) (node : Node) : List Node :=
  ((node.appearances []).filter config.isOutermostMarker).map Appearance.node

theorem outermostMarkers_eq_filter_surface (config : Config) (node : Node) :
    node.outermostMarkers config = (node.surface config).filter config.isMarker := by
  rw [outermostMarkers, surface, List.filter_map, List.filter_filter]
  rfl

theorem outermostMarkers_eq (config : Config) (node : Node) :
    node.outermostMarkers config =
      if config.isMarker node then [node]
      else node.children.flatMap (·.outermostMarkers config) := by
  simp only [outermostMarkers_eq_filter_surface]
  rw [surface_eq, List.filter_cons]
  cases config.isMarker node with
  | true => rfl
  | false => exact List.filter_flatMap

theorem isMarker_of_mem_outermostMarkers {config : Config} {node marker : Node}
    (member : marker ∈ node.outermostMarkers config) : config.isMarker marker = true := by
  rcases List.mem_map.mp member with ⟨appearance, kept, rfl⟩
  have isOutermost := (List.mem_filter.mp kept).2
  exact (Bool.and_eq_true_iff.mp isOutermost).1

theorem mem_descendants_of_mem_outermostMarkers {config : Config} {node marker : Node}
    (member : marker ∈ node.outermostMarkers config) : marker ∈ node.descendants := by
  rcases List.mem_map.mp member with ⟨appearance, kept, rfl⟩
  rw [← map_node_appearances []]
  exact List.mem_map_of_mem (List.mem_filter.mp kept).1

theorem outermostMarkers_eq_nil {config : Config} {node : Node}
    (unmarked : config.containsMarker node = false) : node.outermostMarkers config = [] := by
  apply List.eq_nil_iff_forall_not_mem.mpr
  intro marker member
  have isDescendant := mem_descendants_of_mem_outermostMarkers member
  have isUnmarked := List.any_eq_false.mp unmarked marker isDescendant
  exact isUnmarked (isMarker_of_mem_outermostMarkers member)

end Node

end PlaceholderTyping
