import PlaceholderTyping.Proofs.Normalization.Origins
import PlaceholderTyping.Proofs.Tree.Remaking

/-!
# What normalization leaves alone

Normalization touches nothing but the outermost markers. The main statement describes the normalized
tree as the only one that is made from the given one by putting a placeholder in the place of each
outermost marker and by remaking every other node that is not below a marker.
-/

namespace PlaceholderTyping

/-! ## Trees with markers replaced -/

/-- The second tree is the first one with its outermost markers replaced, where every name has the
given ordinal. Only a sign leaves something of itself behind, the cast that it applies to. -/
inductive Config.Replaces (config : Config) (ordinal : String → Nat) : Node → Node → Prop where
  | call {expression : Call Node} {reading : MarkerReading}
      (reads : config.Reads (.call expression) reading) :
      config.Replaces ordinal (.call expression)
        (.placeholder { ordinal := ordinal reading.name, location := reading.location })
  | sign {expression : Operation Node} {operand : Node} {reading : MarkerReading}
      (reads : config.Reads (.operation expression) reading)
      (applied : expression.right = some operand) (plain : operand.kind ≠ .cast) :
      config.Replaces ordinal (.operation expression)
        (.placeholder { ordinal := ordinal reading.name, location := reading.location })
  | signOverCast {expression : Operation Node} {cast : Cast Node} {reading : MarkerReading}
      (reads : config.Reads (.operation expression) reading)
      (applied : expression.right = some (.cast cast)) :
      config.Replaces ordinal (.operation expression)
        (.cast { cast with
          operand :=
            .placeholder { ordinal := ordinal reading.name, location := reading.location } })
  | other {node result : Node} (unmarked : config.isMarker node = false)
      (remade : node.Remade (config.Replaces ordinal) result) :
      config.Replaces ordinal node result

namespace Config

theorem Reads.exists_marker? {config : Config} {node : Node} {reading : MarkerReading}
    (reads : config.Reads node reading) :
    ∃ marker, config.marker? node = some marker ∧ marker.reading config = reading := by
  have isMarker : config.isMarker node = true := by
    cases reads with
    | bareCall expression named | quotedCall expression named =>
        rw [isMarker_call]
        exact decide_eq_true named
    | sign expression _ unary applied operator | signOverCast expression _ unary applied operator =>
        rw [isMarker_operation, isMarkerSign_eq_true_iff, applied]
        exact ⟨unary, rfl, operator⟩
  rcases Option.isSome_iff_exists.mp isMarker with ⟨marker, found⟩
  exact ⟨marker, found, (reads_of_marker?_eq_some found).unique reads⟩

theorem eq_call_of_marker? {config : Config} {expression : Call Node} {marker : Marker}
    (found : config.marker? (.call expression) = some marker) : marker = .call expression := by
  rw [marker?, Option.ite_none_right_eq_some] at found
  exact (Option.some.inj found.2).symm

theorem eq_sign_of_marker? {config : Config} {expression : Operation Node} {operand : Node}
    {marker : Marker} (applied : expression.right = some operand) (plain : operand.kind ≠ .cast)
    (found : config.marker? (.operation expression) = some marker) :
    marker = .sign operand expression.location := by
  rw [marker?, Option.ite_none_right_eq_some, applied] at found
  cases operand with
  | cast => exact absurd rfl plain
  | _ => exact (Option.some.inj found.2).symm

theorem eq_signOverCast_of_marker? {config : Config} {expression : Operation Node}
    {cast : Cast Node} {marker : Marker} (applied : expression.right = some (.cast cast))
    (found : config.marker? (.operation expression) = some marker) :
    marker = .signOverCast cast expression.location := by
  rw [marker?, Option.ite_none_right_eq_some, applied] at found
  exact (Option.some.inj found.2).symm

theorem replaces_of_marker? {config : Config} {node : Node} {marker : Marker}
    (found : config.marker? node = some marker) (ordinal : String → Nat) :
    config.Replaces ordinal node (marker.replacement (ordinal marker.name)) := by
  have reads := reads_of_marker?_eq_some found
  generalize marker.reading config = reading at reads
  cases reads with
  | bareCall | quotedCall =>
      cases eq_call_of_marker? found
      exact .call (reads_of_marker?_eq_some found)
  | sign _ _ _ applied _ plain =>
      cases eq_sign_of_marker? applied plain found
      exact .sign (reads_of_marker?_eq_some found) applied plain
  | signOverCast _ _ _ applied =>
      cases eq_signOverCast_of_marker? applied found
      exact .signOverCast (reads_of_marker?_eq_some found) applied

/-- There is one tree with the markers replaced, and substitution gives it. -/
theorem replaces_iff (config : Config) (ordinal : String → Nat) (node result : Node) :
    config.Replaces ordinal node result ↔ result = node.substituteMarkers config ordinal := by
  induction node using Node.childInduction generalizing result with
  | step node ofChildren =>
      rw [Node.substituteMarkers_eq]
      constructor
      · intro replaces
        cases replaces with
        | call reads =>
            rcases reads.exists_marker? with ⟨marker, found, rfl⟩
            rw [found, eq_call_of_marker? found]
            rfl
        | sign reads applied plain =>
            rcases reads.exists_marker? with ⟨marker, found, rfl⟩
            rw [found, eq_sign_of_marker? applied plain found]
            rfl
        | signOverCast reads applied =>
            rcases reads.exists_marker? with ⟨marker, found, rfl⟩
            rw [found, eq_signOverCast_of_marker? applied found]
            rfl
        | other unmarked remade =>
            rw [isMarker_eq_false_iff.mp unmarked]
            exact remade.eq_mapChildren fun child member new => (ofChildren child member new).mp
      · rintro rfl
        cases found : config.marker? node with
        | some marker => exact replaces_of_marker? found ordinal
        | none =>
            refine .other (isMarker_eq_false_iff.mpr found) (Node.remade_mapChildren ?_)
            intro child member
            exact (ofChildren child member _).mpr rfl

end Config

/-- The normalized statement stands where the given one does and is as long, and its tree is the one
that the given tree becomes when its outermost markers are replaced, each by its name's place among
the names in order of first appearance. -/
theorem Statement.replaces_normalize (config : Config) (statement : Statement) :
    ∃ readings : List MarkerReading,
      List.Forall₂ config.Reads (statement.root.outermostMarkers config) readings ∧
      let normalized := (statement.normalize config).statement
      let ordinal (name : String) : Nat := (MarkerReading.names readings).idxOf name + 1
      normalized.location = statement.location ∧ normalized.length = statement.length ∧
      ∀ root, config.Replaces ordinal statement.root root ↔ root = normalized.root := by
  refine ⟨statement.readings config, ?reads, ?frame⟩
  case reads => exact Config.forall₂_reads fun _ => Node.isMarker_of_mem_outermostMarkers
  case frame =>
    intro normalized ordinal
    have ordinals : (statement.namingState config).ordinal = ordinal := by
      funext name
      rw [NamingState.ordinal, names_namingState]
    have normalizedIs : normalized =
        { statement with root := statement.root.substituteMarkers config ordinal } := by
      rw [← ordinals]
      exact root_normalize config statement
    rw [normalizedIs]
    exact ⟨rfl, rfl, config.replaces_iff ordinal statement.root⟩

end PlaceholderTyping
