import PlaceholderTyping.Proofs.Normalization.Frame
import PlaceholderTyping.Proofs.Tree.Refilling
import PlaceholderTyping.Typing.Resolution

/-!
# Spellings of markers

A name may be marked by a sign or by a call. Whichever is chosen at each place, the normalized
statement is the same, and so is all that is made of it; the edits put the same text in the same
places and differ in the text that they take away.
-/

namespace PlaceholderTyping

namespace Config

/-! ## Respelled trees -/

def callMarker (config : Config) (named : Node) (location : Nat) : Node :=
  .call { function := config.markerFunction, arguments := [named], location }

/-- The second tree is the first one with some of its outermost sign markers written as calls. Where
the sign applies to a cast, the call takes the place of the cast's operand. -/
inductive Respells (config : Config) : Node → Node → Prop where
  | kept {marker : Node} (isMarker : config.isMarker marker = true) :
      config.Respells marker marker
  | sign (expression : Operation Node) (operand : Node) (unary : expression.left = none)
      (applied : expression.right = some operand) (plain : operand.kind ≠ .cast)
      (isSign : expression.operator = config.markerSign) :
      config.Respells (.operation expression) (config.callMarker operand expression.location)
  | signOverCast (expression : Operation Node) (cast : Cast Node)
      (unary : expression.left = none) (applied : expression.right = some (.cast cast))
      (isSign : expression.operator = config.markerSign) :
      config.Respells (.operation expression)
        (.cast { cast with operand := config.callMarker cast.operand expression.location })
  | other {node result : Node} (unmarked : config.isMarker node = false)
      (remade : node.Remade config.Respells result) : config.Respells node result

variable {config : Config}

/-! ## Markers of either spelling -/

theorem marker?_callMarker (config : Config) (named : Node) (location : Nat) :
    config.marker? (config.callMarker named location) =
      some (.call { function := config.markerFunction, arguments := [named], location }) :=
  if_pos (decide_eq_true rfl)

theorem isMarker_of_remade {below : Node → Node → Prop} {node result : Node}
    (remade : node.Remade below result) : config.isMarker result = config.isMarker node := by
  rcases remade.exists_supply with ⟨supply, -, rfl⟩
  exact config.isMarker_withChildren supply node

end Config

/-! ## What is made of a respelled tree -/

namespace Node

variable {config : Config} {node result : Node}

theorem substituteMarkers_of_respells (respelled : config.Respells node result)
    (ordinal : String → Nat) :
    result.substituteMarkers config ordinal = node.substituteMarkers config ordinal := by
  induction node using childInduction generalizing result with
  | step node ofChildren =>
      rw [substituteMarkers_eq, substituteMarkers_eq config ordinal node]
      cases respelled with
      | kept => rfl
      | sign _ _ unary applied plain isSign =>
          rw [Config.marker?_callMarker, Config.marker?_sign unary applied plain isSign]
          rfl
      | signOverCast expression cast unary applied isSign =>
          rw [Config.marker?_signOverCast unary applied isSign]
          change Node.cast { cast with
            operand := (config.callMarker cast.operand expression.location).substituteMarkers
              config ordinal } = _
          rw [substituteMarkers_eq, Config.marker?_callMarker]
          rfl
      | other unmarked remade =>
          have resultUnmarked : config.isMarker result = false :=
            (Config.isMarker_of_remade remade).trans unmarked
          rw [Config.isMarker_eq_false_iff.mp unmarked,
            Config.isMarker_eq_false_iff.mp resultUnmarked]
          exact remade.mapChildren_eq fun child member _ childRespelled =>
            ofChildren child member childRespelled

end Node

def Marker.content (marker : Marker) : String × Nat :=
  (marker.name, marker.location)

namespace Node

def markers (config : Config) (node : Node) : List Marker :=
  (node.outermostMarkers config).filterMap config.marker?

theorem markers_eq (config : Config) (node : Node) :
    node.markers config =
      match config.marker? node with
      | some marker => [marker]
      | none => node.children.flatMap (markers config) := by
  rw [markers, outermostMarkers_eq, Config.isMarker]
  cases found : config.marker? node with
  | some marker => exact List.filterMap_cons_some found
  | none => exact List.filterMap_flatMap

variable {config : Config} {node result : Node}

theorem contents_of_respells (respelled : config.Respells node result) :
    (result.markers config).map Marker.content = (node.markers config).map Marker.content := by
  induction node using childInduction generalizing result with
  | step node ofChildren =>
      rw [markers_eq, markers_eq config node]
      cases respelled with
      | kept => rfl
      | sign _ _ unary applied plain isSign =>
          rw [Config.marker?_callMarker, Config.marker?_sign unary applied plain isSign]
          rfl
      | signOverCast expression cast unary applied isSign =>
          rw [Config.marker?_signOverCast unary applied isSign]
          change ([config.callMarker cast.operand expression.location].flatMap
            (markers config)).map Marker.content = _
          rw [List.flatMap_singleton, markers_eq, Config.marker?_callMarker]
          rfl
      | other unmarked remade =>
          have resultUnmarked : config.isMarker result = false :=
            (Config.isMarker_of_remade remade).trans unmarked
          rw [Config.isMarker_eq_false_iff.mp unmarked,
            Config.isMarker_eq_false_iff.mp resultUnmarked]
          rw [List.map_flatMap, List.map_flatMap, List.flatMap_def, List.flatMap_def]
          apply congrArg List.flatten
          exact map_eq_map_of_related remade.forall₂_children fun child member _ childRespelled =>
            ofChildren child member childRespelled

end Node

/-! ## Statements -/

namespace Statement

variable {config : Config} {statement : Statement} {root : Node}

theorem markers_of_respells (respelled : config.Respells statement.root root) :
    ({ statement with root }.markers config).map Marker.content =
      (statement.markers config).map Marker.content :=
  Node.contents_of_respells respelled

theorem names_namingState_of_respells (respelled : config.Respells statement.root root) :
    ({ statement with root }.namingState config).names = (statement.namingState config).names := by
  have sameNames := congrArg (List.map Prod.fst) (markers_of_respells respelled)
  rw [List.map_map, List.map_map] at sameNames
  rw [namingState, namingState, NamingState.names_recordAll, NamingState.names_recordAll]
  exact congrArg List.eraseDups sameNames

theorem statement_normalize_of_respells (respelled : config.Respells statement.root root) :
    ({ statement with root }.normalize config).statement =
      (statement.normalize config).statement := by
  have sameOrdinals : ({ statement with root }.namingState config).ordinal =
      (statement.namingState config).ordinal := by
    funext name
    rw [NamingState.ordinal, NamingState.ordinal, names_namingState_of_respells respelled]
  rw [root_normalize, root_normalize, sameOrdinals]
  exact congrArg (fun root => { statement with root })
    (Node.substituteMarkers_of_respells respelled _)

theorem names_normalize_of_respells (respelled : config.Respells statement.root root) :
    ({ statement with root }.normalize config).names = (statement.normalize config).names := by
  rw [(normalize_names_edits config _).1, (normalize_names_edits config _).1,
    NamingState.namesByOrdinal, NamingState.namesByOrdinal,
    names_namingState_of_respells respelled]

theorem edits_normalize_of_respells (respelled : config.Respells statement.root root) :
    List.Forall₂ (fun edit other : Edit => other = { edit with old := other.old })
      (statement.normalize config).edits ({ statement with root }.normalize config).edits := by
  have sameNames := names_namingState_of_respells respelled
  rw [namingState, namingState, NamingState.names_recordAll, NamingState.names_recordAll]
    at sameNames
  rw [(normalize_names_edits config _).2, (normalize_names_edits config _).2, namingState,
    namingState, NamingState.edits_recordAll, NamingState.edits_recordAll, sameNames,
    List.forall₂_map_left_iff, List.forall₂_map_right_iff]
  have sameContents := markers_of_respells respelled
  rw [← List.forall₂_eq_eq_eq, List.forall₂_map_left_iff, List.forall₂_map_right_iff]
    at sameContents
  refine sameContents.flip.imp ?_
  intro marker other same
  have sameName : other.name = marker.name := congrArg Prod.fst same
  have sameLocation : other.location = marker.location := congrArg Prod.snd same
  rw [Marker.edit, Marker.edit, sameName, sameLocation]

/-- Whichever of the outermost sign markers are written as calls, the normalized statement and the
names are the same, and so are the placeholders that are found and the parameters. There are as many
edits, in the same places and with the same new texts. -/
theorem normalize_respelled (respelled : config.Respells statement.root root) :
    let normalized := statement.normalize config
    let other := { statement with root }.normalize config
    other.statement = normalized.statement ∧
      other.names = normalized.names ∧
      List.Forall₂ (fun edit otherEdit : Edit => otherEdit = { edit with old := otherEdit.old })
        normalized.edits other.edits ∧
      other.statement.findPlaceholders = normalized.statement.findPlaceholders ∧
      ∀ (settings : Config) (view : CatalogView),
        other.parameters settings view = normalized.parameters settings view := by
  intro normalized other
  have sameStatement : other.statement = normalized.statement :=
    statement_normalize_of_respells respelled
  have sameNames : other.names = normalized.names := names_normalize_of_respells respelled
  refine ⟨sameStatement, sameNames, edits_normalize_of_respells respelled,
    congrArg findPlaceholders sameStatement, ?_⟩
  intro settings view
  rw [NormalizedStatement.parameters, NormalizedStatement.parameters, sameStatement, sameNames]

/-- `SELECT @a::int4, upper(@b), @a` -/
def signsOnly : Statement where
  root := .select {
    targets := [
      .target {
        name := none
        value := some <| .operation {
          name := ["@"]
          left := none
          right := some <| .cast {
            operand := .column { fields := [.text "a"], location := 8 }
            type := some { name := "int4" }
            location := 9 }
          location := 7 }
        location := 7 },
      .target {
        name := none
        value := some <| .call {
          function := { name := "upper" }
          arguments := [
            .operation {
              name := ["@"]
              left := none
              right := some <| .column { fields := [.text "b"], location := 24 }
              location := 23 }]
          location := 17 }
        location := 17 },
      .target {
        name := none
        value := some <| .operation {
          name := ["@"]
          left := none
          right := some <| .column { fields := [.text "a"], location := 29 }
          location := 28 }
        location := 28 }]
    sources := []
    filter := none
    rows := []
    limit := none
    offset := none }
  location := 0
  length := 30

/-- `SELECT sqlc.arg(a)::int4, upper(sqlc.arg(b)), @a`, with the locations that the signs have -/
def signsAndCalls : Node :=
  .select {
    targets := [
      .target {
        name := none
        value := some <| .cast {
          operand := .call {
            function := { schema := some "sqlc", name := "arg" }
            arguments := [.column { fields := [.text "a"], location := 8 }]
            location := 7 }
          type := some { name := "int4" }
          location := 9 }
        location := 7 },
      .target {
        name := none
        value := some <| .call {
          function := { name := "upper" }
          arguments := [
            .call {
              function := { schema := some "sqlc", name := "arg" }
              arguments := [.column { fields := [.text "b"], location := 24 }]
              location := 23 }]
          location := 17 }
        location := 17 },
      .target {
        name := none
        value := some <| .operation {
          name := ["@"]
          left := none
          right := some <| .column { fields := [.text "a"], location := 29 }
          location := 28 }
        location := 28 }]
    sources := []
    filter := none
    rows := []
    limit := none
    offset := none }

theorem respells_signsAndCalls : Config.Respells {} signsOnly.root signsAndCalls := by
  refine .other rfl (.select _ (.cons ?overCast (.cons ?argument (.cons ?kept .nil))) .nil .none
    .nil .none .none)
  case overCast =>
    let cast : Cast Node := {
      operand := .column { fields := [.text "a"], location := 8 }
      type := some { name := "int4" }
      location := 9 }
    exact .other rfl (.target _ (.some (.signOverCast _ cast rfl rfl (by decide))))
  case argument =>
    refine .other rfl (.target _ (.some (.other (by decide) (.call _ (.cons ?_ .nil)))))
    exact .sign _ _ rfl rfl (by decide) (by decide)
  case kept => exact .other rfl (.target _ (.some (.kept (by decide))))

/-- One name is marked by a call and by a sign, and gets one ordinal. -/
theorem normalize_signsAndCalls :
    let normalized := signsOnly.normalize {}
    let other := { signsOnly with root := signsAndCalls }.normalize {}
    other.statement = normalized.statement ∧
      other.names.toList = [(1, "a"), (2, "b")] ∧
      normalized.edits = [⟨7, "@a", "$1"⟩, ⟨23, "@b", "$2"⟩, ⟨28, "@a", "$1"⟩] ∧
      other.edits =
        [⟨7, "sqlc.arg(a)", "$1"⟩, ⟨23, "sqlc.arg(b)", "$2"⟩, ⟨28, "@a", "$1"⟩] ∧
      ∀ (settings : Config) (view : CatalogView),
        other.parameters settings view = normalized.parameters settings view := by
  rcases normalize_respelled respells_signsAndCalls with
    ⟨sameStatement, sameNames, -, -, sameParameters⟩
  have names : (signsOnly.normalize {}).names.toList = [(1, "a"), (2, "b")] := by cbv
  have edits : (signsOnly.normalize {}).edits =
      [⟨7, "@a", "$1"⟩, ⟨23, "@b", "$2"⟩, ⟨28, "@a", "$1"⟩] := by cbv
  have otherEdits : ({ signsOnly with root := signsAndCalls }.normalize {}).edits =
      [⟨7, "sqlc.arg(a)", "$1"⟩, ⟨23, "sqlc.arg(b)", "$2"⟩, ⟨28, "@a", "$1"⟩] := by cbv
  exact ⟨sameStatement, sameNames ▸ names, edits, otherEdits, sameParameters⟩

end Statement

end PlaceholderTyping
