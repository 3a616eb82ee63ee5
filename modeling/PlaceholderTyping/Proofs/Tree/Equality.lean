import Mathlib.Data.List.Forall2
import PlaceholderTyping.Tree.Equality

/-!
# Equal trees

The comparison of trees, stated without its recursion: two nodes are the same if their heads agree
and their parts are the same, one by one. Every node is the same as itself, and nodes that are the
same have the same children.
-/

namespace PlaceholderTyping

theorem FloatLiteral.same_self (literal : FloatLiteral) : literal.same literal = true := by
  rw [same, beq_self_eq_true, Bool.true_or]

namespace Node

/-- To prove something of every node, it suffices to prove it of a node whose parts have it. -/
theorem partInduction {motive : Node → Prop}
    (step : ∀ node, (∀ part ∈ node.parts, motive part) → motive node) (node : Node) :
    motive node :=
  step node fun part _member => partInduction step part
termination_by node
decreasing_by exact sizeOf_lt_of_mem_parts _member

def Same (left right : Node) : Prop :=
  left.same right = true

theorem same_eq (left right : Node) :
    left.same right =
      (left.sameHead right && left.parts.length == right.parts.length &&
        (left.parts.zip right.parts).all fun (leftPart, rightPart) => leftPart.same rightPart) := by
  rw [same]
  congr 1
  conv_rhs => rw [← List.attach_map_subtype_val left.parts, List.zip_map_left, List.all_map]
  rfl

theorem same_iff {left right : Node} :
    left.Same right ↔
      left.sameHead right = true ∧ List.Forall₂ Same left.parts right.parts := by
  rw [Same, same_eq, Bool.and_eq_true, Bool.and_eq_true, beq_iff_eq, and_assoc,
    List.forall₂_iff_zip, List.all_eq_true]
  simp only [Prod.forall, Same]

theorem sameHead_self (node : Node) : node.sameHead node = true := by
  cases node with
  | float literal => exact literal.same_self
  | _ => simp [sameHead]

theorem same_self (node : Node) : node.Same node := by
  induction node using partInduction with
  | step node ofParts =>
      refine same_iff.mpr ⟨sameHead_self node, ?_⟩
      exact List.forall₂_same.mpr ofParts

theorem length_columnValues (columns : List (Target Node)) :
    (columns.filterMap (·.value)).length =
      ((columns.map fun column => (column.name, column.value.isSome, column.location)).filter
        fun (_, hasValue, _) => hasValue).length := by
  rw [List.length_filterMap_eq_countP, List.filter_map, List.length_map,
    List.countP_eq_length_filter]
  rfl

theorem forall₂_children_of_same {left right : Node} (same : left.Same right) :
    List.Forall₂ Same left.children right.children := by
  rcases same_iff.mp same with ⟨sameHead, sameParts⟩
  cases left with
  | insert statement =>
      cases right with
      | insert other =>
          simp only [Node.sameHead, Bool.and_eq_true, beq_iff_eq] at sameHead
          have sameLength : (statement.columns.filterMap (·.value)).length =
              (other.columns.filterMap (·.value)).length := by
            rw [length_columnValues, length_columnValues, sameHead.1.1.2]
          have behindColumns := List.forall₂_drop (statement.columns.filterMap (·.value)).length
            sameParts
          simp only [parts, List.append_assoc] at behindColumns
          rw [List.drop_left, sameLength, List.drop_left] at behindColumns
          exact behindColumns
      | _ => cases sameHead
  | _ =>
      cases right with
      | insert => cases sameHead
      | _ => exact sameParts

end Node

namespace Statement

structure Same (left right : Statement) : Prop where
  root : left.root.Same right.root
  location : left.location = right.location
  length : left.length = right.length

theorem same_self (statement : Statement) : statement.Same statement where
  root := statement.root.same_self
  location := rfl
  length := rfl

end Statement

end PlaceholderTyping
