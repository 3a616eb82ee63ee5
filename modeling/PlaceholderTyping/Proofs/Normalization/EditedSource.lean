import Mathlib
import PlaceholderTyping.Proofs.Edit.Rewriting
import PlaceholderTyping.Proofs.Normalization.Numbering

/-!
# Edited sources

The edits of a normalization belong to the source text of the statement. If the text holds every
outermost marker where the tree says so, and no two of them overlap, the edits go through and put
the ordinal of its name in the place of each marker.
-/

namespace PlaceholderTyping

/-! ## Readings of a statement -/

namespace MarkerReading

def edit (statementLocation : Nat) (readings : List MarkerReading) (reading : MarkerReading) :
    Edit where
  location := reading.location - statementLocation
  old := reading.text
  new := s!"${ordinal readings reading}"

def endOffset (reading : MarkerReading) : Nat :=
  reading.location + Text.byteLength reading.text.toList

structure SpelledIn (source : List Char) (statementLocation : Nat)
    (readings : List MarkerReading) : Prop where
  statementLocation_le : ∀ reading ∈ readings, statementLocation ≤ reading.location
  text_ne_empty : ∀ reading ∈ readings, reading.text ≠ ""
  found : ∀ reading ∈ readings,
    Text.HasAt source (reading.location - statementLocation) reading.text.toList
  apart : readings.Pairwise fun first second =>
    first.endOffset ≤ second.location ∨ second.endOffset ≤ first.location

theorem SpelledIn.fit {source : List Char} {statementLocation : Nat}
    {readings : List MarkerReading} (spelled : SpelledIn source statementLocation readings) :
    Edit.Fit source (readings.map (edit statementLocation readings)) where
  old_ne_empty := by
    rw [List.forall_mem_map]
    exact spelled.text_ne_empty
  new_ne_empty := by
    rw [List.forall_mem_map]
    intro reading _
    simp [edit]
  found := by
    rw [List.forall_mem_map]
    exact spelled.found
  apart := by
    rw [List.pairwise_map]
    refine List.Pairwise.imp_of_mem ?_ spelled.apart
    intro first second firstIn secondIn apart
    have firstLate := spelled.statementLocation_le first firstIn
    have secondLate := spelled.statementLocation_le second secondIn
    simp only [Edit.Apart, Edit.endOffset, edit, endOffset] at apart ⊢
    omega

end MarkerReading

namespace Statement

def readings (config : Config) (statement : Statement) : List MarkerReading :=
  (statement.markers config).map (Marker.reading config)

theorem reads_readings (config : Config) (statement : Statement) :
    List.Forall₂ config.Reads (statement.root.outermostMarkers config)
      (statement.readings config) :=
  Config.forall₂_reads fun _ => Node.isMarker_of_mem_outermostMarkers

theorem eq_readings {config : Config} {statement : Statement} {readings : List MarkerReading}
    (reads : List.Forall₂ config.Reads (statement.root.outermostMarkers config) readings) :
    readings = statement.readings config := by
  have unique : Relator.RightUnique config.Reads := fun _ _ _ => Config.Reads.unique
  exact unique.forall₂ reads
    (Config.forall₂_reads fun _ => Node.isMarker_of_mem_outermostMarkers)

theorem edits_normalize (config : Config) (statement : Statement) :
    (statement.normalize config).edits =
      (statement.readings config).map
        (MarkerReading.edit statement.location (statement.readings config)) := by
  rw [(statement.normalize_names_edits config).2, namingState, NamingState.edits_recordAll]
  simp only [readings, List.map_map]
  apply List.map_congr_left
  intro marker _
  simp only [Function.comp_apply, MarkerReading.edit, MarkerReading.ordinal, MarkerReading.names,
    List.map_map]
  rfl

/-- If the source has the markers where the statement has them, none of them empty and no two of
them overlapping, the edits of the normalization go through. What comes out is the source with the
ordinals of their names in the places of the markers. Sources are texts in memory, so their offsets
are 64-bit numbers. -/
theorem applyAll_edits_normalize {config : Config} {statement : Statement} {source : String}
    {readings : List MarkerReading}
    (reads : List.Forall₂ config.Reads (statement.root.outermostMarkers config) readings)
    (spelled : MarkerReading.SpelledIn source.toList statement.location readings)
    (short : Text.byteLength source.toList < UInt64.size) :
    ∃ ascending result,
      ascending.Perm (readings.map fun reading =>
        { location := reading.location - statement.location
          old := reading.text
          new := s!"${MarkerReading.ordinal readings reading}" }) ∧
      Edit.Rewrites 0 ascending source.toList result.toList ∧
      Edit.applyAll source (statement.normalize config).edits = .ok result := by
  rw [edits_normalize, ← eq_readings reads]
  exact spelled.fit.exists_applyAll_eq_ok short

def offsetBeforeLimit : Statement where
  root := .select {
    targets := [
      .target {
        name := none
        value := some <| .operation {
          name := ["@"]
          left := none
          right := some <| .column { fields := [.text "a"], location := 8 }
          location := 7 }
        location := 7 }]
    sources := []
    filter := none
    rows := []
    limit := some <| .operation {
      name := ["@"]
      left := none
      right := some <| .column { fields := [.text "a"], location := 27 }
      location := 26 }
    offset := some <| .operation {
      name := ["@"]
      left := none
      right := some <| .column { fields := [.text "b"], location := 18 }
      location := 17 } }
  location := 0
  length := 28

theorem readings_offsetBeforeLimit :
    offsetBeforeLimit.readings {} =
      [{ location := 7, name := "a", text := "@a" }, { location := 26, name := "a", text := "@a" },
        { location := 17, name := "b", text := "@b" }] := by
  cbv

theorem spelledIn_offsetBeforeLimit :
    MarkerReading.SpelledIn "SELECT @a OFFSET @b LIMIT @a".toList 0
      (offsetBeforeLimit.readings {}) := by
  rw [readings_offsetBeforeLimit]
  constructor
  case statementLocation_le => exact fun _ _ => Nat.zero_le _
  case text_ne_empty => decide
  case apart =>
    unfold MarkerReading.endOffset
    decide
  case found =>
    intro reading member
    simp only [List.mem_cons, List.not_mem_nil, or_false] at member
    rcases member with rfl | rfl | rfl
    · exact ⟨"SELECT ".toList, " OFFSET @b LIMIT @a".toList, by decide, by decide⟩
    · exact ⟨"SELECT @a OFFSET @b LIMIT ".toList, [], by decide, by decide⟩
    · exact ⟨"SELECT @a OFFSET ".toList, " LIMIT @a".toList, by decide, by decide⟩

theorem applyAll_edits_offsetBeforeLimit :
    Edit.applyAll "SELECT @a OFFSET @b LIMIT @a" (offsetBeforeLimit.normalize {}).edits =
      .ok "SELECT $1 OFFSET $2 LIMIT $1" := by
  cbv

/-- The limit is taken up before the offset, which stands in front of it in the text. -/
theorem rewrites_offsetBeforeLimit :
    ∃ ascending,
      ascending.Perm [⟨7, "@a", "$1"⟩, ⟨26, "@a", "$1"⟩, ⟨17, "@b", "$2"⟩] ∧
      Edit.Rewrites 0 ascending "SELECT @a OFFSET @b LIMIT @a".toList
        "SELECT $1 OFFSET $2 LIMIT $1".toList := by
  have reads : List.Forall₂ (Config.Reads {}) (offsetBeforeLimit.root.outermostMarkers {})
      (offsetBeforeLimit.readings {}) :=
    Config.forall₂_reads fun _ => Node.isMarker_of_mem_outermostMarkers
  rcases applyAll_edits_normalize reads spelledIn_offsetBeforeLimit (by decide) with
    ⟨ascending, result, perm, rewrites, applied⟩
  rw [applyAll_edits_offsetBeforeLimit] at applied
  cases applied
  rw [readings_offsetBeforeLimit] at perm
  exact ⟨ascending, perm, rewrites⟩

end Statement

end PlaceholderTyping
