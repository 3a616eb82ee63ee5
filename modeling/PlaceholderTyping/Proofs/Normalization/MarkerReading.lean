import Mathlib.Data.List.Forall2
import PlaceholderTyping.Marker
import PlaceholderTyping.Proofs.Tree.SpelledName

/-!
# Marker readings

What a marker says, stated on the node itself: where it stands, which name it gives and how it is
written. The name is what the arguments of a call or the operand of a sign spell out. A call puts it
in quotes exactly if there is a constant in its arguments, and a sign over a cast takes it from
within the cast.
-/

namespace PlaceholderTyping

structure MarkerReading where
  location : Nat
  name : String
  text : String

namespace MarkerReading

def names (readings : List MarkerReading) : List String :=
  (readings.map name).eraseDups

def ordinal (readings : List MarkerReading) (reading : MarkerReading) : Nat :=
  (names readings).idxOf reading.name + 1

theorem name_mem_names {readings : List MarkerReading} {reading : MarkerReading}
    (member : reading ∈ readings) : reading.name ∈ names readings :=
  List.mem_eraseDups.mpr (List.mem_map_of_mem member)

theorem ordinal_eq_iff {readings : List MarkerReading} {first : MarkerReading}
    (member : first ∈ readings) (second : MarkerReading) :
    ordinal readings first = ordinal readings second ↔ first.name = second.name := by
  rw [ordinal, ordinal, Nat.add_right_cancel_iff]
  exact List.idxOf_inj (name_mem_names member)

end MarkerReading

inductive Config.Reads (config : Config) : Node → MarkerReading → Prop where
  | bareCall (expression : Call Node) {name : String}
      (isMarker : expression.function = config.markerFunction)
      (spells : SpellsOut expression.arguments name)
      (bare : ∀ node ∈ expression.arguments.flatMap Node.descendants, node.kind ≠ .constant) :
      config.Reads (.call expression) {
        location := expression.location
        name
        text := config.markerFunction.text ++ "(" ++ name ++ ")" }
  | quotedCall (expression : Call Node) {name : String}
      (isMarker : expression.function = config.markerFunction)
      (spells : SpellsOut expression.arguments name)
      (quoted : ∃ node ∈ expression.arguments.flatMap Node.descendants, node.kind = .constant) :
      config.Reads (.call expression) {
        location := expression.location
        name
        text := config.markerFunction.text ++ "('" ++ name ++ "')" }
  | sign (expression : Operation Node) (operand : Node) {name : String}
      (unary : expression.left = none) (applied : expression.right = some operand)
      (isMarker : expression.operator = config.markerSign) (plain : operand.kind ≠ .cast)
      (spells : SpellsOut [operand] name) :
      config.Reads (.operation expression) {
        location := expression.location
        name
        text := config.markerSign ++ name }
  | signOverCast (expression : Operation Node) (cast : Cast Node) {name : String}
      (unary : expression.left = none) (applied : expression.right = some (.cast cast))
      (isMarker : expression.operator = config.markerSign)
      (spells : SpellsOut [cast.operand] name) :
      config.Reads (.operation expression) {
        location := expression.location
        name
        text := config.markerSign ++ name }

/-- A node is read in one way only. -/
theorem Config.Reads.unique {config : Config} {node : Node} {first second : MarkerReading}
    (left : config.Reads node first) (right : config.Reads node second) : first = second := by
  cases left with
  | bareCall expression _ spells bare =>
      cases right with
      | bareCall _ _ alsoSpells => rw [spells.unique alsoSpells]
      | quotedCall _ _ _ quoted =>
          rcases quoted with ⟨node, member, isConstant⟩
          exact absurd isConstant (bare node member)
  | quotedCall expression _ spells quoted =>
      cases right with
      | bareCall _ _ _ bare =>
          rcases quoted with ⟨node, member, isConstant⟩
          exact absurd isConstant (bare node member)
      | quotedCall _ _ alsoSpells => rw [spells.unique alsoSpells]
  | sign expression operand _ applied _ plain spells =>
      cases right with
      | sign _ _ _ otherApplied _ _ alsoSpells =>
          rw [applied] at otherApplied
          cases otherApplied
          rw [spells.unique alsoSpells]
      | signOverCast _ cast _ otherApplied =>
          rw [applied] at otherApplied
          cases otherApplied
          exact absurd rfl plain
  | signOverCast expression cast _ applied _ spells =>
      cases right with
      | sign _ _ _ otherApplied _ plain =>
          rw [applied] at otherApplied
          cases otherApplied
          exact absurd rfl plain
      | signOverCast _ _ _ otherApplied _ alsoSpells =>
          rw [applied] at otherApplied
          cases otherApplied
          rw [spells.unique alsoSpells]

namespace Marker

def reading (config : Config) (marker : Marker) : MarkerReading where
  location := marker.location
  name := marker.name
  text := marker.spelling config

end Marker

theorem isQuotedName_eq_true_iff (nodes : List Node) :
    isQuotedName nodes = true ↔
      ∃ node ∈ nodes.flatMap Node.descendants, node.kind = .constant := by
  simp only [isQuotedName, List.any_eq_true, decide_eq_true_eq]

theorem isQuotedName_eq_false_iff (nodes : List Node) :
    isQuotedName nodes = false ↔
      ∀ node ∈ nodes.flatMap Node.descendants, node.kind ≠ .constant := by
  simp only [isQuotedName, List.any_eq_false, decide_eq_true_eq, ne_eq]

namespace Config

theorem isMarkerSign_eq_true_iff (config : Config) (operation : Operation Node) :
    config.isMarkerSign operation = true ↔
      operation.left = none ∧ operation.right.isSome = true ∧
        operation.operator = config.markerSign := by
  simp only [isMarkerSign, Bool.and_eq_true, Option.isNone_iff_eq_none, beq_iff_eq, and_assoc]

theorem isMarkerSign_of_applied {config : Config} {expression : Operation Node} {operand : Node}
    (unary : expression.left = none) (applied : expression.right = some operand)
    (isSign : expression.operator = config.markerSign) :
    config.isMarkerSign expression = true := by
  rw [isMarkerSign_eq_true_iff, applied]
  exact ⟨unary, rfl, isSign⟩

theorem marker?_sign {config : Config} {expression : Operation Node} {operand : Node}
    (unary : expression.left = none) (applied : expression.right = some operand)
    (plain : operand.kind ≠ .cast) (isSign : expression.operator = config.markerSign) :
    config.marker? (.operation expression) = some (.sign operand expression.location) := by
  rw [marker?, if_pos (isMarkerSign_of_applied unary applied isSign), applied]
  cases operand with
  | cast => exact absurd rfl plain
  | _ => rfl

theorem marker?_signOverCast {config : Config} {expression : Operation Node} {cast : Cast Node}
    (unary : expression.left = none) (applied : expression.right = some (.cast cast))
    (isSign : expression.operator = config.markerSign) :
    config.marker? (.operation expression) = some (.signOverCast cast expression.location) := by
  rw [marker?, if_pos (isMarkerSign_of_applied unary applied isSign), applied]
  rfl

theorem reads_call {config : Config} {expression : Call Node}
    (isMarker : config.isMarkerCall expression = true) :
    config.Reads (.call expression) ((Marker.call expression).reading config) := by
  have named : expression.function = config.markerFunction := of_decide_eq_true isMarker
  cases quoted : isQuotedName expression.arguments with
  | true =>
      rw [Marker.reading, Marker.spelling, quoted, if_pos rfl]
      exact .quotedCall expression named (spellsOut_spelledName _)
        ((isQuotedName_eq_true_iff _).mp quoted)
  | false =>
      rw [Marker.reading, Marker.spelling, quoted, if_neg Bool.false_ne_true]
      exact .bareCall expression named (spellsOut_spelledName _)
        ((isQuotedName_eq_false_iff _).mp quoted)

theorem reads_of_marker?_eq_some {config : Config} {node : Node} {marker : Marker}
    (found : config.marker? node = some marker) :
    config.Reads node (marker.reading config) := by
  cases node with
  | call expression =>
      rw [marker?, Option.ite_none_right_eq_some] at found
      rcases found with ⟨isMarker, found⟩
      cases found
      exact reads_call isMarker
  | operation expression =>
      rw [marker?, Option.ite_none_right_eq_some] at found
      rcases found with ⟨isMarker, found⟩
      rcases (isMarkerSign_eq_true_iff config expression).mp isMarker with ⟨unary, -, operator⟩
      rcases Option.map_eq_some_iff.mp found with ⟨operand, applied, taken⟩
      cases operand with
      | cast cast =>
          cases taken
          exact .signOverCast expression cast unary applied operator (spellsOut_spelledName _)
      | _ =>
          cases taken
          exact .sign expression _ unary applied operator (by simp [Node.kind])
            (spellsOut_spelledName _)
  | _ => cases found

theorem forall₂_reads {config : Config} {nodes : List Node}
    (areMarkers : ∀ node ∈ nodes, config.isMarker node = true) :
    List.Forall₂ config.Reads nodes
      ((nodes.filterMap config.marker?).map (Marker.reading config)) := by
  induction nodes with
  | nil => exact .nil
  | cons node rest induction =>
      rcases Option.isSome_iff_exists.mp (areMarkers node List.mem_cons_self) with ⟨marker, found⟩
      rw [List.filterMap_cons_some found, List.map_cons]
      refine .cons (reads_of_marker?_eq_some found) (induction ?_)
      intro later member
      exact areMarkers later (List.mem_cons_of_mem _ member)

end Config

end PlaceholderTyping
