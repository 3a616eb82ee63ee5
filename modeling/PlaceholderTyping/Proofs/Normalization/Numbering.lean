import PlaceholderTyping.Normalization
import PlaceholderTyping.Proofs.DistinctNames
import PlaceholderTyping.Proofs.Normalization.MarkerReading
import PlaceholderTyping.Proofs.Normalization.OutermostMarkers

/-!
# Numbering

The replacement of markers takes up one marker after the other: the outermost ones, in pre-order.
The main statement is what comes of a statement's markers: the names that they give, numbered in
the order in which they first appear, and one edit for each marker.
-/

namespace PlaceholderTyping

/-! ## Taking up markers -/

namespace NamingState

def record (config : Config) (statementLocation : Nat) (state : NamingState) (marker : Marker) :
    NamingState :=
  ((marker.replace config statementLocation).run state).2

theorem names_record (config : Config) (statementLocation : Nat) (state : NamingState)
    (marker : Marker) :
    (state.record config statementLocation marker).names =
      if marker.name ∈ state.names then state.names else state.names ++ [marker.name] := by
  change (state.addName marker.name).names = _
  unfold addName
  split <;> rfl

theorem edits_record (config : Config) (statementLocation : Nat) (state : NamingState)
    (marker : Marker) :
    (state.record config statementLocation marker).edits =
      state.edits ++ [marker.edit config statementLocation (state.ordinal marker.name)] := rfl

def recordAll (config : Config) (statementLocation : Nat) (state : NamingState)
    (markers : List Marker) : NamingState :=
  markers.foldl (record config statementLocation) state

theorem recordAll_concat (config : Config) (statementLocation : Nat) (state : NamingState)
    (markers : List Marker) (last : Marker) :
    state.recordAll config statementLocation (markers ++ [last]) =
      (state.recordAll config statementLocation markers).record config statementLocation last := by
  simp [recordAll]

theorem names_recordAll (config : Config) (statementLocation : Nat) (markers : List Marker) :
    (recordAll config statementLocation {} markers).names =
      (markers.map Marker.name).eraseDups := by
  induction markers using List.reverseRecOn with
  | nil => rfl
  | append_singleton markers last induction =>
      rw [recordAll_concat, names_record, induction, List.map_append]
      simp only [List.map_cons, List.map_nil, eraseDups_concat, List.mem_eraseDups]

theorem edits_recordAll (config : Config) (statementLocation : Nat) (markers : List Marker) :
    (recordAll config statementLocation {} markers).edits =
      markers.map fun marker =>
        marker.edit config statementLocation
          ((markers.map Marker.name).eraseDups.idxOf marker.name + 1) := by
  induction markers using List.reverseRecOn with
  | nil => rfl
  | append_singleton markers last induction =>
      -- The ordinals given out so far are those that the names have among all of them.
      rw [recordAll_concat, edits_record, induction, ordinal, names_recordAll, List.map_append,
        List.map_append]
      congr 1
      · apply List.map_congr_left
        intro marker member
        rw [List.map_cons, List.map_nil, idxOf_eraseDups_concat]
        exact List.mem_append_left _ (List.mem_map_of_mem member)
      · rw [List.map_cons, List.map_nil, List.map_cons, List.map_nil, idxOf_eraseDups_concat]
        exact List.mem_append_right _ (List.mem_singleton_self _)

end NamingState

/-! ## Markers of a tree -/

theorem run_mapM_snd {α β σ : Type} (action : α → StateM σ β) (values : List α) (state : σ) :
    ((values.mapM action).run state).2 =
      values.foldl (fun state value => ((action value).run state).2) state := by
  induction values generalizing state with
  | nil => rfl
  | cons value rest induction =>
      rw [List.mapM_cons, List.foldl_cons, ← induction]
      rfl

theorem Node.replaceMarkers_eq (config : Config) (statementLocation : Nat) (node : Node) :
    node.replaceMarkers config statementLocation =
      match config.marker? node with
      | some marker => marker.replace config statementLocation
      | none => node.mapChildrenM (·.replaceMarkers config statementLocation) := by
  rw [replaceMarkers, mapChildrenM]
  cases config.marker? node with
  | some marker => rfl
  | none =>
      rw [List.mapM_subtype (g := (·.replaceMarkers config statementLocation)) (fun _ _ => rfl),
        List.unattach_attach]

theorem Node.run_replaceMarkers_snd (config : Config) (statementLocation : Nat) (node : Node)
    (state : NamingState) :
    ((node.replaceMarkers config statementLocation).run state).2 =
      state.recordAll config statementLocation
        ((node.outermostMarkers config).filterMap config.marker?) := by
  induction node using childInduction generalizing state with
  | step node ofChildren =>
      rw [replaceMarkers_eq, outermostMarkers_eq, Config.isMarker]
      cases found : config.marker? node with
      | some marker => simp [found, NamingState.recordAll, NamingState.record]
      | none =>
          change ((node.children.mapM (replaceMarkers config statementLocation)).run state).2 = _
          rw [run_mapM_snd]
          simp only [Option.isSome_none, Bool.false_eq_true, if_false, List.filterMap_flatMap,
            NamingState.recordAll, List.foldl_flatMap]
          apply List.foldl_ext
          intro state child member
          exact ofChildren child member state

/-! ## Statements -/

theorem NamingState.toList_namesByOrdinal (state : NamingState) :
    state.namesByOrdinal.toList =
      state.names.zipIdx.map fun (name, index) => (index + 1, name) := by
  apply OrderedMap.toList_ofList
  have keys : (state.names.zipIdx.map fun (name, index) => (index + 1, name)).map Prod.fst =
      (state.names.zipIdx.map Prod.snd).map Nat.succ := by
    rw [List.map_map, List.map_map]
    rfl
  rw [keys, List.zipIdx_map_snd]
  exact List.Nodup.map (fun _ _ => Nat.succ.inj) List.nodup_range'

namespace Statement

def markers (config : Config) (statement : Statement) : List Marker :=
  (statement.root.outermostMarkers config).filterMap config.marker?

def namingState (config : Config) (statement : Statement) : NamingState :=
  .recordAll config statement.location {} (statement.markers config)

theorem normalize_names_edits (config : Config) (statement : Statement) :
    (statement.normalize config).names = (statement.namingState config).namesByOrdinal ∧
      (statement.normalize config).edits = (statement.namingState config).edits := by
  rw [namingState, markers, normalize]
  cases marked : config.containsMarker statement.root with
  | true =>
      rw [← Node.run_replaceMarkers_snd]
      exact ⟨rfl, rfl⟩
  | false =>
      rw [Node.outermostMarkers_eq_nil marked]
      exact ⟨rfl, rfl⟩

/-- The names get dense ordinals in the order in which the outermost markers first give them, and
every such marker leaves one edit with the ordinal of its name. -/
theorem normalize_numbers_names (config : Config) (statement : Statement) :
    ∃ readings : List MarkerReading,
      List.Forall₂ config.Reads (statement.root.outermostMarkers config) readings ∧
      (statement.normalize config).names.toList =
        (MarkerReading.names readings).zipIdx.map (fun (name, index) => (index + 1, name)) ∧
      (statement.normalize config).edits =
        readings.map (fun reading =>
          { location := reading.location - statement.location
            old := reading.text
            new := s!"${MarkerReading.ordinal readings reading}" }) ∧
      (∀ reading ∈ readings,
        (MarkerReading.ordinal readings reading, reading.name) ∈
          (statement.normalize config).names.toList) ∧
      ∀ first ∈ readings, ∀ second ∈ readings,
        MarkerReading.ordinal readings first = MarkerReading.ordinal readings second ↔
          first.name = second.name := by
  let readings := (statement.markers config).map (Marker.reading config)
  have sameNames : readings.map MarkerReading.name = (statement.markers config).map Marker.name :=
    List.map_map
  rcases statement.normalize_names_edits config with ⟨names, edits⟩
  have namesList : (statement.normalize config).names.toList =
      (MarkerReading.names readings).zipIdx.map (fun (name, index) => (index + 1, name)) := by
    rw [names, NamingState.toList_namesByOrdinal, namingState, NamingState.names_recordAll,
      ← sameNames, MarkerReading.names]
  refine ⟨readings, ?reads, namesList, ?edits, ?known, ?shared⟩
  case reads =>
    exact Config.forall₂_reads fun _ => Node.isMarker_of_mem_outermostMarkers
  case edits =>
    rw [edits, namingState, NamingState.edits_recordAll, ← sameNames]
    conv_rhs => rw [List.map_map]
    rfl
  case known =>
    intro reading member
    rw [namesList]
    refine List.mem_map.mpr ⟨(reading.name, (MarkerReading.names readings).idxOf reading.name), ?_,
      rfl⟩
    rw [List.mem_zipIdx_iff_getElem?]
    exact List.getElem?_idxOf (MarkerReading.name_mem_names member)
  case shared =>
    intro first member second _
    exact MarkerReading.ordinal_eq_iff member second

end Statement

end PlaceholderTyping
