import PlaceholderTyping.Proofs.Normalization.EditedSource
import PlaceholderTyping.Proofs.Normalization.Substitution
import PlaceholderTyping.Proofs.Occurrence.FirstAppearance

/-!
# Origins of placeholders

Every placeholder of a normalized statement was there before or comes from a marker. The ones that
were there keep their ordinals, and names are numbered from 1 whatever these are. So a statement
that mixes both may end up with one ordinal for a positional placeholder and a name. The main
statement says when.
-/

namespace PlaceholderTyping

inductive Origin where
  | positional (parameter : Placeholder)
  | named (reading : MarkerReading)

namespace Origin

def reading? : Origin → Option MarkerReading
  | .positional _ => none
  | .named reading => some reading

def placeholder (ordinal : String → Nat) : Origin → Placeholder
  | .positional parameter => parameter
  | .named reading => { ordinal := ordinal reading.name, location := reading.location }

inductive Same : Origin → Origin → Prop where
  | positional {first second : Placeholder} (ordinal : first.ordinal = second.ordinal) :
      Same (.positional first) (.positional second)
  | named {first second : MarkerReading} (name : first.name = second.name) :
      Same (.named first) (.named second)

inductive Collides (names : List String) : Origin → Origin → Prop where
  | intro {parameter : Placeholder} {reading : MarkerReading} {index : Nat}
      (ordinal : parameter.ordinal = index + 1) (name : names[index]? = some reading.name) :
      Collides names (.positional parameter) (.named reading)

end Origin

/-! ## Placeholders of a tree -/

namespace Node

theorem placeholders_eq (node : Node) :
    node.placeholders = node.placeholder?.toList ++ node.children.flatMap placeholders := by
  rw [placeholders, descendants_eq, List.filterMap_cons, List.filterMap_flatMap]
  cases node.placeholder? <;> rfl

theorem placeholder?_mapChildren (transform : Node → Node) (node : Node) :
    (node.mapChildren transform).placeholder? = node.placeholder? := by
  cases node <;> rfl

end Node

namespace Config

def isOrigin (config : Config) (node : Node) : Bool :=
  config.isMarker node || node.kind = .placeholder

inductive Originates (config : Config) : Node → Origin → Prop where
  | positional (parameter : Placeholder) :
      config.Originates (.placeholder parameter) (.positional parameter)
  | named {node : Node} {reading : MarkerReading} (reads : config.Reads node reading) :
      config.Originates node (.named reading)

def origin? (config : Config) (node : Node) : Option Origin :=
  match config.marker? node with
  | some marker => some (.named (marker.reading config))
  | none => node.placeholder?.map .positional

theorem forall₂_originates (config : Config) (nodes : List Node) :
    List.Forall₂ config.Originates (nodes.filter config.isOrigin)
      (nodes.filterMap config.origin?) := by
  induction nodes with
  | nil => exact .nil
  | cons node rest induction =>
      cases found : config.marker? node with
      | some marker =>
          have isOrigin : config.isOrigin node = true := by simp [isOrigin, isMarker, found]
          have origin : config.origin? node = some (.named (marker.reading config)) := by
            rw [origin?, found]
          rw [List.filter_cons_of_pos isOrigin, List.filterMap_cons_some origin]
          exact .cons (.named (reads_of_marker?_eq_some found)) induction
      | none =>
          have origin : config.origin? node = node.placeholder?.map .positional := by
            rw [origin?, found]
          have isOrigin : config.isOrigin node = decide (node.kind = .placeholder) := by
            simp [isOrigin, isMarker, found]
          cases node with
          | placeholder parameter =>
              rw [List.filter_cons_of_pos isOrigin, List.filterMap_cons_some origin]
              exact .cons (.positional parameter) induction
          | _ =>
              rw [List.filter_cons_of_neg (ne_true_of_eq_false isOrigin),
                List.filterMap_cons_none origin]
              exact induction

theorem filterMap_reading?_origin? (config : Config) (nodes : List Node) :
    (nodes.filterMap config.origin?).filterMap Origin.reading? =
      ((nodes.filter config.isMarker).filterMap config.marker?).map (Marker.reading config) := by
  rw [List.filterMap_filterMap, List.filterMap_filter, List.map_filterMap]
  apply List.filterMap_congr
  intro node _
  cases found : config.marker? node with
  | some marker => simp [origin?, found, Origin.reading?, isMarker]
  | none => cases node <;> simp [origin?, found, Node.placeholder?, Origin.reading?, isMarker]

end Config

/-! ## Placeholders after substitution -/

theorem Marker.placeholders_replacement (marker : Marker) (ordinal : Nat) :
    (marker.replacement ordinal).placeholders = [{ ordinal, location := marker.location }] := by
  cases marker <;>
    simp [replacement, Node.placeholders_eq, Node.placeholder?, Node.children]

theorem Node.placeholders_substituteMarkers (config : Config) (ordinal : String → Nat)
    (node : Node) :
    (node.substituteMarkers config ordinal).placeholders =
      ((node.surface config).filterMap config.origin?).map (Origin.placeholder ordinal) := by
  induction node using childInduction with
  | step node ofChildren =>
      rw [substituteMarkers_eq, surface_eq, Config.isMarker]
      cases found : config.marker? node with
      | some marker =>
          have origin : config.origin? node = some (.named (marker.reading config)) := by
            rw [Config.origin?, found]
          rw [Option.isSome_some, if_pos rfl, List.filterMap_cons_some origin]
          exact marker.placeholders_replacement _
      | none =>
          have origin : config.origin? node = node.placeholder?.map .positional := by
            rw [Config.origin?, found]
          have below : (node.mapChildren (·.substituteMarkers config ordinal)).children.flatMap
              placeholders = ((node.children.flatMap (·.surface config)).filterMap
                config.origin?).map (Origin.placeholder ordinal) := by
            rw [children_mapChildren, List.flatMap_map, List.filterMap_flatMap, List.map_flatMap]
            exact List.flatMap_congr ofChildren
          rw [placeholders_eq, placeholder?_mapChildren, below, Option.isSome_none,
            if_neg Bool.false_ne_true, List.filterMap_cons, origin]
          cases node.placeholder? <;> rfl

/-! ## Equal ordinals -/

namespace Origin

theorem ordinal_eq_idxOf_iff {names : List String} {name : String} (distinct : names.Nodup)
    (known : name ∈ names) (ordinal : Nat) :
    ordinal = names.idxOf name + 1 ↔ ∃ index, ordinal = index + 1 ∧ names[index]? = some name := by
  constructor
  · intro same
    exact ⟨names.idxOf name, same, List.getElem?_idxOf known⟩
  · rintro ⟨index, rfl, atIndex⟩
    rcases List.getElem?_eq_some_iff.mp atIndex with ⟨inside, rfl⟩
    rw [List.Nodup.idxOf_getElem distinct]

/-- Two origins get the same ordinal exactly if they mean the same parameter, or if one of them is a
positional placeholder and the other a name whose turn comes at its ordinal. -/
theorem ordinal_placeholder_eq_iff {names : List String} (distinct : names.Nodup)
    {first second : Origin} (firstKnown : ∀ reading, first = .named reading → reading.name ∈ names)
    (secondKnown : ∀ reading, second = .named reading → reading.name ∈ names) :
    (first.placeholder fun name => names.idxOf name + 1).ordinal =
        (second.placeholder fun name => names.idxOf name + 1).ordinal ↔
      first.Same second ∨ first.Collides names second ∨ second.Collides names first := by
  cases first with
  | positional first =>
      cases second with
      | positional second =>
          constructor
          · intro same
            exact .inl (.positional same)
          · rintro (same | ⟨⟨⟩⟩ | ⟨⟨⟩⟩)
            cases same with
            | positional ordinal => exact ordinal
      | named second =>
          refine (ordinal_eq_idxOf_iff distinct (secondKnown second rfl) first.ordinal).trans ?_
          constructor
          · rintro ⟨index, ordinal, name⟩
            exact .inr (.inl (.intro ordinal name))
          · rintro (⟨⟨⟩⟩ | ⟨ordinal, name⟩ | ⟨⟨⟩⟩)
            exact ⟨_, ordinal, name⟩
  | named first =>
      cases second with
      | positional second =>
          refine eq_comm.trans
            ((ordinal_eq_idxOf_iff distinct (firstKnown first rfl) second.ordinal).trans ?_)
          constructor
          · rintro ⟨index, ordinal, name⟩
            exact .inr (.inr (.intro ordinal name))
          · rintro (⟨⟨⟩⟩ | ⟨⟨⟩⟩ | ⟨ordinal, name⟩)
            exact ⟨_, ordinal, name⟩
      | named second =>
          refine (Nat.add_right_cancel_iff.trans (List.idxOf_inj (firstKnown first rfl))).trans ?_
          constructor
          · intro name
            exact .inl (.named name)
          · rintro (same | ⟨⟨⟩⟩ | ⟨⟨⟩⟩)
            cases same with
            | named name => exact name

/-- A positional placeholder shares its ordinal with a name exactly if there are that many names. -/
theorem exists_collides_iff {origins : List Origin} :
    let names := MarkerReading.names (origins.filterMap reading?)
    (∃ first ∈ origins, ∃ second ∈ origins, first.Collides names second) ↔
      ∃ parameter, .positional parameter ∈ origins ∧ 0 < parameter.ordinal ∧
        parameter.ordinal ≤ names.length := by
  intro names
  constructor
  · rintro ⟨_, firstIn, _, _, ⟨ordinal, name⟩⟩
    rcases List.getElem?_eq_some_iff.mp name with ⟨inside, _⟩
    exact ⟨_, firstIn, by omega, by omega⟩
  · rintro ⟨parameter, positionalIn, positive, few⟩
    have inside : parameter.ordinal - 1 < names.length := by omega
    have nameIn : names[parameter.ordinal - 1] ∈ names := List.getElem_mem inside
    rcases List.mem_map.mp (List.mem_eraseDups.mp nameIn) with ⟨reading, readingIn, name⟩
    rcases List.mem_filterMap.mp readingIn with ⟨origin, originIn, isReading⟩
    cases origin with
    | positional => cases isReading
    | named =>
        cases isReading
        have ordinal : parameter.ordinal = parameter.ordinal - 1 + 1 := by omega
        refine ⟨_, positionalIn, _, originIn, .intro ordinal ?_⟩
        rw [List.getElem?_eq_getElem inside, name]

end Origin

namespace Statement

theorem names_namingState (config : Config) (statement : Statement) :
    (statement.namingState config).names = MarkerReading.names (statement.readings config) := by
  rw [namingState, NamingState.names_recordAll, MarkerReading.names, readings, List.map_map]
  rfl

/-- The placeholders of a normalized statement are, in pre-order, those that stood outside of
markers, unchanged, and those of the outermost markers, numbered by their names from 1. Two of them
share an ordinal if they mean the same parameter, but also if a positional placeholder has the
ordinal at which a name's turn comes. This happens exactly if some positional placeholder outside of
markers has an ordinal between 1 and the number of names. -/
theorem placeholders_normalize (config : Config) (statement : Statement) :
    ∃ origins : List Origin,
      List.Forall₂ config.Originates ((statement.root.surface config).filter config.isOrigin)
        origins ∧
      let names := MarkerReading.names (origins.filterMap Origin.reading?)
      let placeholder := Origin.placeholder fun name => names.idxOf name + 1
      (statement.normalize config).statement.root.placeholders = origins.map placeholder ∧
      (∀ first ∈ origins, ∀ second ∈ origins,
        (placeholder first).ordinal = (placeholder second).ordinal ↔
          first.Same second ∨ first.Collides names second ∨ second.Collides names first) ∧
      ((∃ first ∈ origins, ∃ second ∈ origins, first.Collides names second) ↔
        ∃ parameter, .positional parameter ∈ origins ∧ 0 < parameter.ordinal ∧
          parameter.ordinal ≤ names.length) := by
  let origins := (statement.root.surface config).filterMap config.origin?
  have readings : origins.filterMap Origin.reading? = statement.readings config := by
    rw [Config.filterMap_reading?_origin?, ← Node.outermostMarkers_eq_filter_surface]
    rfl
  have known (origin : Origin) (member : origin ∈ origins) (reading : MarkerReading)
      (isNamed : origin = .named reading) :
      reading.name ∈ MarkerReading.names (origins.filterMap Origin.reading?) := by
    apply MarkerReading.name_mem_names
    exact List.mem_filterMap.mpr ⟨origin, member, by rw [isNamed, Origin.reading?]⟩
  refine ⟨origins, config.forall₂_originates _, ?placeholders, ?shared, ?collisions⟩
  case placeholders =>
    rw [root_normalize, Node.placeholders_substituteMarkers, readings, ← names_namingState]
    rfl
  case shared =>
    intro first firstIn second secondIn
    exact Origin.ordinal_placeholder_eq_iff (nodup_eraseDups _) (known first firstIn)
      (known second secondIn)
  case collisions => exact Origin.exists_collides_iff

/-- `SELECT $1, @a` -/
def positionalAndNamed : Statement where
  root := .select {
    targets := [
      .target {
        name := none
        value := some (.placeholder { ordinal := 1, location := 7 })
        location := 7 },
      .target {
        name := none
        value := some <| .operation {
          name := ["@"]
          left := none
          right := some <| .column { fields := [.text "a"], location := 12 }
          location := 11 }
        location := 11 }]
    sources := []
    filter := none
    rows := []
    limit := none
    offset := none }
  location := 0
  length := 13

/-- The positional placeholder and the name become one parameter. -/
theorem positionalAndNamed_merged :
    let normalized := positionalAndNamed.normalize {}
    positionalAndNamed.root.placeholders = [{ ordinal := 1, location := 7 }] ∧
      normalized.names.toList = [(1, "a")] ∧
      normalized.statement.root.placeholders =
        [{ ordinal := 1, location := 7 }, { ordinal := 1, location := 11 }] ∧
      normalized.statement.findPlaceholders.occurrences.map (·.placeholder) =
        [{ ordinal := 1, location := 7 }] := by
  refine ⟨?_, ?_, ?_, ?_⟩ <;> cbv

end Statement

end PlaceholderTyping
