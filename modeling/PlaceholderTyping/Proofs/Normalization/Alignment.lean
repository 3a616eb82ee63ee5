import PlaceholderTyping.Proofs.Normalization.Origins
import PlaceholderTyping.Proofs.Occurrence.FindPlaceholders

/-!
# Names, edits and occurrences side by side

A code generator combines three things that are made separately: the names and the edits of a
normalization, and the occurrences that are found in the normalized statement. Where every
positional placeholder of a statement belongs to a marker, these go together ordinal by ordinal,
which is the main statement.
-/

namespace PlaceholderTyping

/-- No positional placeholder stands outside of the markers, where it would be a parameter of its
own. -/
def Statement.HasOnlyNamed (config : Config) (statement : Statement) : Prop :=
  ∀ appearance ∈ statement.appearances, appearance.node.kind = .placeholder →
    ∃ step ∈ appearance.above, config.isMarker step.1 = true

theorem Node.kind_ne_placeholder_of_mem_surface {config : Config} {statement : Statement}
    (onlyNamed : statement.HasOnlyNamed config) {node : Node}
    (member : node ∈ statement.root.surface config) : node.kind ≠ .placeholder := by
  rcases List.mem_map.mp member with ⟨appearance, kept, rfl⟩
  rcases List.mem_filter.mp kept with ⟨appears, isOnSurface⟩
  intro isPlaceholder
  rcases onlyNamed appearance appears isPlaceholder with ⟨step, stepAbove, isMarker⟩
  rw [Config.isOnSurface, Bool.not_eq_true', List.any_eq_false] at isOnSurface
  exact isOnSurface step stepAbove isMarker

namespace MarkerReading

def placeholder (readings : List MarkerReading) (reading : MarkerReading) : Placeholder where
  ordinal := ordinal readings reading
  location := reading.location

theorem mem_map_ordinal_iff (readings : List MarkerReading) (number : Nat) :
    number ∈ readings.map (ordinal readings) ↔
      number ∈ List.range' 1 (names readings).length := by
  rw [List.mem_range'_1]
  constructor
  · intro member
    rcases List.mem_map.mp member with ⟨reading, readingIn, rfl⟩
    have inside := List.idxOf_lt_length_of_mem (name_mem_names readingIn)
    rw [ordinal]
    omega
  · rintro ⟨positive, few⟩
    have inside : number - 1 < (names readings).length := by omega
    have nameIn : (names readings)[number - 1] ∈ names readings := List.getElem_mem inside
    rcases List.mem_map.mp (List.mem_eraseDups.mp nameIn) with ⟨reading, readingIn, name⟩
    refine List.mem_map.mpr ⟨reading, readingIn, ?_⟩
    have index : (names readings).idxOf reading.name = number - 1 := by
      rw [name]
      exact List.Nodup.idxOf_getElem (nodup_eraseDups _) _ inside
    rw [ordinal, index]
    omega

end MarkerReading

theorem Config.origin?_of_ne_placeholder (config : Config) {node : Node}
    (plain : node.kind ≠ .placeholder) :
    config.origin? node =
      (config.marker? node).map fun marker => .named (marker.reading config) := by
  rw [origin?]
  cases config.marker? node with
  | some marker => rfl
  | none =>
      cases node with
      | placeholder => exact absurd rfl plain
      | _ => rfl

namespace Statement

variable {config : Config} {statement : Statement}

theorem filterMap_origin?_surface (onlyNamed : statement.HasOnlyNamed config) :
    (statement.root.surface config).filterMap config.origin? =
      (statement.readings config).map .named := by
  rw [readings, markers, Node.outermostMarkers_eq_filter_surface, List.filterMap_filter,
    List.map_filterMap, List.map_filterMap]
  apply List.filterMap_congr
  intro node member
  rw [config.origin?_of_ne_placeholder (Node.kind_ne_placeholder_of_mem_surface onlyNamed member)]
  cases found : config.marker? node <;> simp [Config.isMarker, found]

theorem placeholders_normalize_of_hasOnlyNamed (onlyNamed : statement.HasOnlyNamed config) :
    (statement.normalize config).statement.root.placeholders =
      (statement.readings config).map
        (MarkerReading.placeholder (statement.readings config)) := by
  rw [root_normalize, Node.placeholders_substituteMarkers, filterMap_origin?_surface onlyNamed,
    List.map_map]
  apply List.map_congr_left
  intro reading _
  rw [Function.comp_apply, Origin.placeholder, MarkerReading.placeholder, NamingState.ordinal,
    names_namingState, MarkerReading.ordinal]

theorem keys_names_normalize (config : Config) (statement : Statement) :
    (statement.normalize config).names.keys =
      List.range' 1 (MarkerReading.names (statement.readings config)).length := by
  rw [(statement.normalize_names_edits config).1, OrderedMap.keys,
    NamingState.toList_namesByOrdinal, names_namingState]
  generalize MarkerReading.names (statement.readings config) = names
  calc (names.zipIdx.map fun entry => (entry.2 + 1, entry.1)).map Prod.fst
      = (names.zipIdx.map Prod.snd).map (1 + ·) := by
        rw [List.map_map, List.map_map]
        exact List.map_congr_left fun entry _ => Nat.add_comm entry.2 1
    _ = List.range' 1 names.length := by
        rw [List.zipIdx_map_snd, List.map_add_range']

theorem ordinals_findPlaceholders_normalize (onlyNamed : statement.HasOnlyNamed config) :
    (statement.normalize config).statement.findPlaceholders.occurrences.map Occurrence.ordinal =
      List.range' 1 (MarkerReading.names (statement.readings config)).length := by
  let found := (statement.normalize config).statement.findPlaceholders.occurrences
  have ascending : (found.map Occurrence.ordinal).Pairwise (· < ·) := by
    rw [List.pairwise_map]
    exact Occurrence.ascending_firstByOrdinal _
  refine ascending.eq_of_mem_iff List.pairwise_lt_range' ?_
  intro number
  have ordinals : (statement.readings config).map
      (MarkerReading.ordinal (statement.readings config)) =
        (statement.normalize config).statement.root.placeholders.map (·.ordinal) := by
    rw [placeholders_normalize_of_hasOnlyNamed onlyNamed, List.map_map]
    rfl
  have foundOrdinals : found.map Occurrence.ordinal =
      (found.map (·.placeholder)).map (·.ordinal) := by
    rw [List.map_map]
    rfl
  rw [← MarkerReading.mem_map_ordinal_iff, ordinals, foundOrdinals, mem_map_iff_isSome_find?,
    mem_map_iff_isSome_find?, find?_findPlaceholders]

theorem exists_reading_of_mem_findPlaceholders (onlyNamed : statement.HasOnlyNamed config)
    {occurrence : Occurrence}
    (member : occurrence ∈
      (statement.normalize config).statement.findPlaceholders.occurrences) :
    let readings := statement.readings config
    ∃ reading, readings.find? (MarkerReading.ordinal readings · = occurrence.ordinal) =
        some reading ∧ reading.location = occurrence.placeholder.location := by
  intro readings
  let found := (statement.normalize config).statement.findPlaceholders.occurrences
  have isFound : found.find? (·.ordinal = occurrence.ordinal) = some occurrence :=
    ((Occurrence.ascending_firstByOrdinal _).find?_eq_some_iff occurrence).mpr member
  have first : (readings.find? (MarkerReading.ordinal readings · = occurrence.ordinal)).map
      (MarkerReading.placeholder readings) = some occurrence.placeholder := by
    have placeholders := find?_findPlaceholders (statement.normalize config).statement
      occurrence.ordinal
    rw [List.find?_map, placeholders_normalize_of_hasOnlyNamed onlyNamed, List.find?_map]
      at placeholders
    exact placeholders.symm.trans (congrArg (Option.map (·.placeholder)) isFound)
  rcases Option.map_eq_some_iff.mp first with ⟨reading, isFirst, leaves⟩
  exact ⟨reading, isFirst, congrArg Placeholder.location leaves⟩

theorem find?_edits_normalize (config : Config) (statement : Statement) (ordinal : Nat) :
    (statement.normalize config).edits.find? (·.new = s!"${ordinal}") =
      ((statement.readings config).find?
        (MarkerReading.ordinal (statement.readings config) · = ordinal)).map
          (MarkerReading.edit statement.location (statement.readings config)) := by
  rw [edits_normalize, List.find?_map]
  congr 2
  funext reading
  simp [MarkerReading.edit, Nat.repr_inj]

/-- Where only markers are placeholders, the ordinals of the occurrences are those of the names,
counted from 1 without a gap. Every edit writes one of them, and the first edit that writes an
ordinal is made where the occurrence of this ordinal stands. -/
theorem names_edits_occurrences_aligned (onlyNamed : statement.HasOnlyNamed config) :
    let normalized := statement.normalize config
    let found := normalized.statement.findPlaceholders.occurrences
    found.map Occurrence.ordinal = List.range' 1 normalized.names.toList.length ∧
      normalized.names.keys = found.map Occurrence.ordinal ∧
      (∀ edit ∈ normalized.edits, ∃ ordinal ∈ normalized.names.keys, edit.new = s!"${ordinal}") ∧
      ∀ occurrence ∈ found, ∃ edit,
        normalized.edits.find? (·.new = s!"${occurrence.ordinal}") = some edit ∧
        edit.location = occurrence.placeholder.location - statement.location := by
  have keys := keys_names_normalize config statement
  have ordinals := ordinals_findPlaceholders_normalize onlyNamed
  have count : (statement.normalize config).names.toList.length =
      (MarkerReading.names (statement.readings config)).length := by
    rw [← List.length_map Prod.fst]
    exact (congrArg List.length keys).trans List.length_range'
  refine ⟨?dense, keys.trans ordinals.symm, ?written, ?aligned⟩
  case dense => rw [ordinals, count]
  case written =>
    rw [edits_normalize, keys]
    intro edit member
    rcases List.mem_map.mp member with ⟨reading, readingIn, rfl⟩
    refine ⟨_, (MarkerReading.mem_map_ordinal_iff _ _).mp (List.mem_map_of_mem readingIn), rfl⟩
  case aligned =>
    intro occurrence member
    rcases exists_reading_of_mem_findPlaceholders onlyNamed member with ⟨reading, first, location⟩
    refine ⟨MarkerReading.edit statement.location (statement.readings config) reading, ?_, ?_⟩
    · rw [find?_edits_normalize, first]
      rfl
    · rw [← location]
      rfl

/-- `SELECT @b, sqlc.arg(a + $7), @b`, as the second statement of a file -/
def placeholderInMarker : Statement where
  root := .select {
    targets := [
      .target {
        name := none
        value := some <| .operation {
          name := ["@"]
          left := none
          right := some <| .column { fields := [.text "b"], location := 15 }
          location := 14 }
        location := 14 },
      .target {
        name := none
        value := some <| .call {
          function := { schema := some "sqlc", name := "arg" }
          arguments := [
            .operation {
              name := ["+"]
              left := some <| .column { fields := [.text "a"], location := 27 }
              right := some <| .placeholder { ordinal := 7, location := 31 }
              location := 29 }]
          location := 18 }
        location := 18 },
      .target {
        name := none
        value := some <| .operation {
          name := ["@"]
          left := none
          right := some <| .column { fields := [.text "b"], location := 37 }
          location := 36 }
        location := 36 }]
    sources := []
    filter := none
    rows := []
    limit := none
    offset := none }
  location := 7
  length := 31

theorem hasOnlyNamed_placeholderInMarker : placeholderInMarker.HasOnlyNamed {} := by
  have checked : placeholderInMarker.appearances.all (fun appearance =>
      appearance.node.kind ≠ .placeholder ||
        appearance.above.any fun step => ({} : Config).isMarker step.1) = true := by
    cbv
  intro appearance member isPlaceholder
  have inMarker := List.all_eq_true.mp checked appearance member
  simpa [isPlaceholder] using inMarker

/-- The placeholder in the call is no parameter, and its ordinal does not matter. -/
theorem ordinals_placeholderInMarker :
    let normalized := placeholderInMarker.normalize {}
    placeholderInMarker.root.placeholders = [{ ordinal := 7, location := 31 }] ∧
      normalized.names.toList = [(1, "b"), (2, "a")] ∧
      normalized.statement.findPlaceholders.occurrences.map Occurrence.ordinal = [1, 2] ∧
      ∀ occurrence ∈ normalized.statement.findPlaceholders.occurrences, ∃ edit,
        normalized.edits.find? (·.new = s!"${occurrence.ordinal}") = some edit ∧
        edit.location = occurrence.placeholder.location - 7 := by
  rcases names_edits_occurrences_aligned hasOnlyNamed_placeholderInMarker with
    ⟨dense, -, -, aligned⟩
  have names : (placeholderInMarker.normalize {}).names.toList = [(1, "b"), (2, "a")] := by cbv
  have placeholders :
      placeholderInMarker.root.placeholders = [{ ordinal := 7, location := 31 }] := by cbv
  rw [names] at dense
  exact ⟨placeholders, names, dense, aligned⟩

end Statement

end PlaceholderTyping
