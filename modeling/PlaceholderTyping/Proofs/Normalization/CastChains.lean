import Mathlib
import PlaceholderTyping.Edit.Application
import PlaceholderTyping.Proofs.Normalization.Substitution
import PlaceholderTyping.Proofs.Occurrence.FindPlaceholders
import PlaceholderTyping.Typing.Resolution

/-!
# Chains of casts

A sign may apply to several casts, one around the other. Its edit takes the sign and the name away
and leaves all casts in the text, while in the tree nothing but the outermost cast remains: the tree
keeps the casts of the text exactly where there is only one.
-/

namespace PlaceholderTyping

/-! ## Nodes at a path -/

namespace Node

/-- The node to which the path of child positions leads from the given one, without passing through
a marker. -/
def surfaceAt? (config : Config) (node : Node) : List Nat → Option Node
  | [] => some node
  | position :: path =>
      if config.isMarker node then none
      else node.children[position]?.bind (·.surfaceAt? config path)

variable {config : Config} {node target : Node} {path : List Nat}

theorem surfaceAt?_cons_eq_some_iff {position : Nat} :
    node.surfaceAt? config (position :: path) = some target ↔
      config.isMarker node = false ∧
        ∃ child, node.children[position]? = some child ∧
          child.surfaceAt? config path = some target := by
  rw [surfaceAt?]
  cases config.isMarker node <;> simp [Option.bind_eq_some_iff]

/-- What stands under no marker is replaced where it stands. -/
theorem surfaceAt?_substituteMarkers (found : node.surfaceAt? config path = some target)
    (ordinal : String → Nat) :
    (node.substituteMarkers config ordinal).surfaceAt? config path =
      some (target.substituteMarkers config ordinal) := by
  induction path generalizing node with
  | nil =>
      cases found
      rfl
  | cons position path induction =>
      rcases surfaceAt?_cons_eq_some_iff.mp found with ⟨unmarked, child, isChild, below⟩
      rw [substituteMarkers_eq, Config.isMarker_eq_false_iff.mp unmarked,
        surfaceAt?_cons_eq_some_iff, Config.isMarker_mapChildren, children_mapChildren,
        List.getElem?_map, isChild]
      exact ⟨unmarked, _, rfl, induction below⟩

theorem mem_outermostMarkers_of_surfaceAt? (found : node.surfaceAt? config path = some target)
    (isMarker : config.isMarker target = true) : target ∈ node.outermostMarkers config := by
  induction path generalizing node with
  | nil =>
      cases found
      rw [outermostMarkers_eq, if_pos isMarker]
      exact List.mem_cons_self
  | cons position path induction =>
      rcases surfaceAt?_cons_eq_some_iff.mp found with ⟨unmarked, child, isChild, below⟩
      rw [outermostMarkers_eq, unmarked, if_neg Bool.false_ne_true, List.mem_flatMap]
      exact ⟨child, List.mem_of_getElem? isChild, induction below⟩

/-- What appears in a part of a tree appears in the tree. -/
theorem exists_appearances_subset_of_surfaceAt?
    (found : node.surfaceAt? config path = some target) (above : Surroundings) :
    ∃ surroundings, target.appearances surroundings ⊆ node.appearances above := by
  induction path generalizing node above with
  | nil =>
      cases found
      exact ⟨above, List.Subset.refl _⟩
  | cons position path induction =>
      rcases surfaceAt?_cons_eq_some_iff.mp found with ⟨-, child, isChild, below⟩
      have isInRole := List.mem_of_getElem? isChild
      rw [← map_snd_roles, List.mem_map] at isInRole
      rcases isInRole with ⟨⟨role, _⟩, member, rfl⟩
      rcases induction below ((node, role) :: above) with ⟨surroundings, appear⟩
      refine ⟨surroundings, List.Subset.trans appear ?_⟩
      rw [appearances_eq above node]
      intro appearance isIn
      exact .tail _ (List.mem_flatMap.mpr ⟨_, member, isIn⟩)

theorem mem_appearances_self (above : Surroundings) (node : Node) :
    { node, above } ∈ node.appearances above := by
  rw [appearances_eq]
  exact List.mem_cons_self

theorem operand_mem_appearances (above : Surroundings) (expression : Cast Node) :
    { node := expression.operand, above := (.cast expression, .other) :: above } ∈
      (Node.cast expression).appearances above := by
  rw [appearances_eq above (.cast expression)]
  refine .tail _ (List.mem_flatMap.mpr ⟨(.other, expression.operand), ?_, ?_⟩)
  · exact List.mem_singleton_self _
  · exact mem_appearances_self _ expression.operand

/-! ## Casts around a node -/

def underCasts (node : Node) : List (Cast Unit) → Node
  | [] => node
  | inner :: outer =>
      (Node.cast { operand := node, type := inner.type, location := inner.location }).underCasts
        outer

theorem underCasts_concat (node : Node) (casts : List (Cast Unit)) (last : Cast Unit) :
    node.underCasts (casts ++ [last]) =
      .cast { operand := node.underCasts casts, type := last.type, location := last.location } := by
  induction casts generalizing node with
  | nil => rfl
  | cons inner outer induction => exact induction _

/-- Casts add nothing to the name that they stand around. -/
theorem spelledName_underCasts (node : Node) (casts : List (Cast Unit)) :
    spelledName [node.underCasts casts] = spelledName [node] := by
  induction casts generalizing node with
  | nil => rfl
  | cons inner outer induction =>
      exact (induction _).trans (spelledName_singleton nofun)

theorem placeholder_underCasts_eq_iff {parameter : Placeholder} {casts : List (Cast Unit)} :
    (placeholder parameter).underCasts casts = .placeholder parameter ↔ casts = [] := by
  constructor
  · intro same
    rcases List.eq_nil_or_concat casts with isEmpty | ⟨inner, last, rfl⟩
    · exact isEmpty
    · rw [List.concat_eq_append, underCasts_concat] at same
      cases same
  · rintro rfl
    rfl

theorem placeholder_underCasts_concat_eq_iff {parameter : Placeholder}
    {casts : List (Cast Unit)} {last : Cast Unit} :
    (placeholder parameter).underCasts [last] =
        (placeholder parameter).underCasts (casts ++ [last]) ↔
      casts = [] := by
  rw [underCasts_concat, underCasts, underCasts, cast.injEq, Cast.mk.injEq, eq_comm,
    placeholder_underCasts_eq_iff, and_iff_left ⟨rfl, rfl⟩]

end Node

/-! ## Markers of a statement -/

namespace Statement

variable {config : Config} {statement : Statement} {marker : Marker}

theorem mem_names_normalize (member : marker ∈ statement.markers config) :
    ((statement.namingState config).ordinal marker.name, marker.name) ∈
      (statement.normalize config).names.toList := by
  have known : marker.name ∈ (statement.namingState config).names := by
    rw [namingState, NamingState.names_recordAll, List.mem_eraseDups]
    exact List.mem_map_of_mem member
  rw [(normalize_names_edits config statement).1, NamingState.toList_namesByOrdinal, List.mem_map]
  refine ⟨(marker.name, (statement.namingState config).names.idxOf marker.name), ?_, rfl⟩
  rw [List.mem_zipIdx_iff_getElem?]
  exact List.getElem?_idxOf known

theorem mem_edits_normalize (member : marker ∈ statement.markers config) :
    marker.edit config statement.location ((statement.namingState config).ordinal marker.name) ∈
      (statement.normalize config).edits := by
  rw [(normalize_names_edits config statement).2, NamingState.ordinal, namingState,
    NamingState.edits_recordAll, NamingState.names_recordAll]
  exact List.mem_map.mpr ⟨marker, member, rfl⟩

/-- A sign over casts around a name, anywhere in a statement under no other marker. The edit takes
away the sign and the name alone. What stands at the same place in the normalized statement is the
placeholder in the last of the casts, which is all that there is to tell its type; so the casts are
those of the text exactly if there is only one. -/
theorem normalize_signOverCasts {path : List Nat} {expression : Operation Node} {named : Node}
    {casts : List (Cast Unit)} {last : Cast Unit}
    (stands : statement.root.surfaceAt? config path = some (.operation expression))
    (unary : expression.left = none) (isSign : expression.operator = config.markerSign)
    (applied : expression.right = some (named.underCasts (casts ++ [last]))) :
    let normalized := statement.normalize config
    ∃ ordinal, (ordinal, spelledName [named]) ∈ normalized.names.toList ∧
      { location := expression.location - statement.location
        old := config.markerSign ++ spelledName [named]
        new := s!"${ordinal}" } ∈ normalized.edits ∧
      let parameter : Placeholder := { ordinal, location := expression.location }
      let placeholder := Node.placeholder parameter
      let result := normalized.statement.root.surfaceAt? config path
      result = some (placeholder.underCasts [last]) ∧
        (∃ above : Surroundings,
          { node := placeholder, above } ∈ normalized.statement.appearances ∧
          above.context parameter = .node (placeholder.underCasts [last])) ∧
        (result = some (placeholder.underCasts (casts ++ [last])) ↔ casts = []) := by
  intro normalized
  rw [Node.underCasts_concat] at applied
  let marker : Marker := .signOverCast
    { operand := named.underCasts casts, type := last.type, location := last.location }
    expression.location
  have found : config.marker? (.operation expression) = some marker :=
    Config.marker?_signOverCast unary applied isSign
  have isMarker : config.isMarker (.operation expression) = true := by
    rw [Config.isMarker, found]
    rfl
  have member : marker ∈ statement.markers config :=
    List.mem_filterMap.mpr
      ⟨_, Node.mem_outermostMarkers_of_surfaceAt? stands isMarker, found⟩
  have sameName : marker.name = spelledName [named] := Node.spelledName_underCasts named casts
  let ordinal := (statement.namingState config).ordinal marker.name
  have replaced : normalized.statement.root.surfaceAt? config path =
      some (marker.replacement ordinal) := by
    change (statement.normalize config).statement.root.surfaceAt? config path = _
    rw [root_normalize, Node.surfaceAt?_substituteMarkers stands, Node.substituteMarkers_eq, found]
  refine ⟨ordinal, ?names, ?edits, replaced, ?context, ?chain⟩
  case names =>
    rw [← sameName]
    exact mem_names_normalize member
  case edits =>
    rw [← sameName]
    exact mem_edits_normalize member
  case context =>
    rcases Node.exists_appearances_subset_of_surfaceAt? replaced [] with ⟨above, appear⟩
    exact ⟨_, appear (Node.operand_mem_appearances above _), rfl⟩
  case chain =>
    rw [replaced, Option.some.injEq]
    exact Node.placeholder_underCasts_concat_eq_iff

def columnA : Node :=
  .column { fields := [.text "a"], location := 8 }

def toInteger : Cast Unit :=
  { operand := (), type := some { name := "integer" }, location := 9 }

def toText : Cast Unit :=
  { operand := (), type := some { name := "text" }, location := 18 }

def signOverTwoCasts : Operation Node where
  name := ["@"]
  left := none
  right := some (columnA.underCasts [toInteger, toText])
  location := 7

/-- `SELECT @a::integer::text` -/
def textOfInteger : Statement where
  root := .select {
    targets := [
      .target { name := none, value := some (.operation signOverTwoCasts), location := 7 }]
    sources := []
    filter := none
    rows := []
    limit := none
    offset := none }
  location := 0
  length := 24

theorem normalize_textOfInteger :
    let normalized := textOfInteger.normalize {}
    ∃ ordinal, (ordinal, "a") ∈ normalized.names.toList ∧
      { location := 7, old := "@a", new := s!"${ordinal}" } ∈ normalized.edits ∧
      let placeholder := Node.placeholder { ordinal, location := 7 }
      let result := normalized.statement.root.surfaceAt? {} [0, 0]
      result = some (placeholder.underCasts [toText]) ∧
        result ≠ some (placeholder.underCasts [toInteger, toText]) := by
  have stands : textOfInteger.root.surfaceAt? {} [0, 0] = some (.operation signOverTwoCasts) := rfl
  have named : spelledName [columnA] = "a" := by cbv
  have applied : signOverTwoCasts.right = some (columnA.underCasts ([toInteger] ++ [toText])) := rfl
  rcases normalize_signOverCasts stands rfl (by decide) applied with
    ⟨ordinal, known, edited, replaced, -, isChain⟩
  rw [named] at known edited
  refine ⟨ordinal, known, edited, replaced, ?_⟩
  intro keepsBoth
  cases isChain.mp keepsBoth

/-- The text keeps both casts and the tree only the outer one, so that the placeholder gets a type
that is not the one it has in the text. -/
theorem innerCast_dropped :
    let normalized := textOfInteger.normalize {}
    (∀ parameter, normalized.statement.root.surfaceAt? {} [0, 0] ≠
      some ((Node.placeholder parameter).underCasts [toInteger, toText])) ∧
      Edit.applyAll "SELECT @a::integer::text" normalized.edits =
        .ok "SELECT $1::integer::text" ∧
      normalized.parameters {} (Catalog.view {}) =
        .ok [{
          ordinal := 1
          type := some {
            name := "a", dataType := "text", isNotNull := true, isArray := false } }] := by
  refine ⟨?_, by cbv, by cbv⟩
  have result : (textOfInteger.normalize {}).statement.root.surfaceAt? {} [0, 0] =
      some ((Node.placeholder { ordinal := 1, location := 7 }).underCasts [toText]) := by
    cbv
  intro parameter keepsBoth
  cases result.symm.trans keepsBoth

end Statement

end PlaceholderTyping
