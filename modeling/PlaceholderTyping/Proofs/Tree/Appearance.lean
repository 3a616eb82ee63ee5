import Mathlib.Data.List.Basic
import PlaceholderTyping.Tree.Descendants

/-!
# Appearances

An appearance is a node together with its surroundings. The appearances in a tree, in pre-order, are
its descendants, each seen in its place.
-/

namespace PlaceholderTyping

inductive Role where
  | limit
  | offset
  | rowValue (position : Nat)
  | source
  | assignment
  | other
deriving DecidableEq, Repr

/-- The nodes above a node, from the nearest to the root, each with the part of it that leads down
to the node. -/
abbrev Surroundings := List (Node × Role)

structure Appearance where
  node : Node
  above : Surroundings

namespace Node

/-! ## Children in their roles -/

def rowRoles (row : List Node) : List (Role × Node) :=
  row.zipIdx.map fun (value, position) => (.rowValue position, value)

@[simp] theorem map_snd_rowRoles (row : List Node) : (rowRoles row).map Prod.snd = row := by
  rw [rowRoles, List.map_map]
  exact List.zipIdx_map_fst 0 row

def roles : Node → List (Role × Node)
  | .select statement =>
      (statement.targets ++ statement.sources ++ statement.filter.toList).map (.other, ·) ++
        statement.rows.flatMap rowRoles ++ statement.limit.toList.map (.limit, ·) ++
        statement.offset.toList.map (.offset, ·)
  | .insert statement =>
      statement.source.toList.map (.source, ·) ++ statement.returning.map (.other, ·)
  | .update statement =>
      statement.assignments.map (.assignment, ·) ++
        (statement.sources ++ statement.filter.toList ++ statement.returning).map (.other, ·)
  | .delete statement => (statement.filter.toList ++ statement.returning).map (.other, ·)
  | node => node.children.map (.other, ·)

theorem map_snd_roles (node : Node) : node.roles.map Prod.snd = node.children := by
  cases node with
  | select statement =>
      simp [roles, children, Select.children, Function.comp_def, List.map_flatMap,
        List.flatMap_id']
  | insert | update | delete => simp [roles, children, Update.children, Function.comp_def]
  | _ => simp [roles, Function.comp_def]

theorem mem_children_of_mem_roles {node : Node} {child : Role × Node}
    (member : child ∈ node.roles) : child.2 ∈ node.children := by
  rw [← map_snd_roles node]
  exact List.mem_map_of_mem member

/-! ## Appearances in a tree -/

/-- The appearances in a tree that itself stands under the given nodes, in pre-order. -/
def appearances (above : Surroundings) (node : Node) : List Appearance :=
  { node, above } ::
    node.roles.attach.flatMap fun ⟨(role, child), _⟩ => child.appearances ((node, role) :: above)
termination_by node
decreasing_by exact sizeOf_lt_of_mem_children (mem_children_of_mem_roles ‹_ ∈ node.roles›)

theorem appearances_eq (above : Surroundings) (node : Node) :
    node.appearances above =
      { node, above } ::
        node.roles.flatMap fun (role, child) => child.appearances ((node, role) :: above) := by
  rw [appearances, List.flatMap_subtype (fun _ _ => rfl), List.unattach_attach]

/-- To prove something of every node, it suffices to prove it of a node all whose children have it,
whatever their roles. -/
theorem roleInduction {motive : Node → Prop}
    (step : ∀ node, (∀ role child, (role, child) ∈ node.roles → motive child) → motive node)
    (node : Node) : motive node := by
  refine childInduction (fun node ofChildren => step node ?_) node
  intro role child member
  exact ofChildren child (mem_children_of_mem_roles member)

theorem map_node_appearances (above : Surroundings) (node : Node) :
    (node.appearances above).map Appearance.node = node.descendants := by
  induction node using roleInduction generalizing above with
  | step node ofChildren =>
      rw [appearances_eq, descendants_eq, List.map_cons, ← map_snd_roles, List.map_flatMap,
        List.flatMap_map]
      exact congrArg (node :: ·) <| List.flatMap_congr fun (role, child) member =>
        ofChildren role child member _

theorem appearances_append (inner outer : Surroundings) (node : Node) :
    node.appearances (inner ++ outer) =
      (node.appearances inner).map fun appearance =>
        { appearance with above := appearance.above ++ outer } := by
  induction node using roleInduction generalizing inner with
  | step node ofChildren =>
      rw [appearances_eq, appearances_eq, List.map_cons, List.map_flatMap]
      congr 1
      apply List.flatMap_congr
      intro (role, child) member
      exact ofChildren role child member ((node, role) :: inner)

end Node

end PlaceholderTyping
