import PlaceholderTyping.Occurrence.Basic
import PlaceholderTyping.Tree.Children

/-!
# Places

Where a node stands in a statement, as far as it matters to a placeholder there. The place of a node
decides the places of its children, so places are handed down a tree from its root.
-/

namespace PlaceholderTyping

inductive Place where
  /-- Under the given node, with nothing in between that could tell a type, or under no such
  node. -/
  | under (parent : Option Node)
  /-- The number of rows of a `SELECT`. -/
  | limit
  /-- The number of rows that a `SELECT` passes over. -/
  | offset
  /-- The source of an `INSERT`. -/
  | insertSource (relation : TableRef) (columns : List (Target Node))
  /-- A value in a row that an `INSERT` puts into a column. -/
  | columnValue (relation : TableRef) (column : Target Node)
  /-- An assignment of an `UPDATE`. -/
  | assignment (relation : TableRef)
  /-- The value that an assignment gives to a column. -/
  | assignedValue (relation : TableRef) (entry : Target Node)

/-- The table that goes with a placeholder: a fixed one or none, or the one that was mentioned last
before it. -/
inductive Owner where
  | fixed (table : Option TableRef)
  | latest

namespace Place

/-- The node that a node in this place hands down to its children where it does not tell a type
itself. Only an assignment lies between its value and the statement. -/
def parent : Place → Option Node
  | .under parent => parent
  | .assignedValue _ entry => some (.target entry)
  | .limit | .offset | .insertSource .. | .columnValue .. | .assignment _ => none

def context (placeholder : Placeholder) : Place → Context
  | .limit => .limit
  | .offset => .offset
  | .columnValue _ column => .node (.target column)
  | place => .node (place.parent.getD (.placeholder placeholder))

def owner : Place → Owner
  | .limit | .offset => .fixed none
  | .columnValue relation _ | .assignedValue relation _ => .fixed (some relation)
  | .under _ | .insertSource .. | .assignment _ => .latest

end Place

/-- Gives every value of a row that an `INSERT` takes its place: values beyond the columns go
nowhere. -/
def placeRow (relation : TableRef) : List (Target Node) → List Node → List (Place × Node)
  | _, [] => []
  | [], values => values.map (.under none, ·)
  | column :: columns, value :: values =>
      (.columnValue relation column, value) :: placeRow relation columns values

theorem map_snd_placeRow (relation : TableRef) (columns : List (Target Node))
    (values : List Node) : (placeRow relation columns values).map Prod.snd = values := by
  induction values generalizing columns with
  | nil => simp [placeRow]
  | cons value values ih => cases columns <;> simp [placeRow, ih, Function.comp_def]

def Select.placed (place : Place) (select : Select Node) : List (Place × Node) :=
  let free (nodes : List Node) : List (Place × Node) := nodes.map (.under none, ·)
  let rows :=
    match place with
    | .insertSource relation columns => select.rows.flatMap (placeRow relation columns)
    | _ => free select.rows.flatten
  free select.targets ++ free select.sources ++ free select.filter.toList ++ rows ++
    select.limit.toList.map (.limit, ·) ++ select.offset.toList.map (.offset, ·)

namespace Node

/-- The children of a node in a given place, with their places. Operations, calls, casts and targets
tell the type of what stands under them; statements cut off what is above them; all other nodes
pass their own place on. -/
def placed (place : Place) (node : Node) : List (Place × Node) :=
  let free (nodes : List Node) : List (Place × Node) := nodes.map (.under none, ·)
  match node with
  | .operation _ | .call _ | .cast _ => node.children.map (.under (some node), ·)
  | .target entry =>
      match place with
      | .assignment relation => node.children.map (.assignedValue relation entry, ·)
      | _ => node.children.map (.under (some node), ·)
  | .select statement => statement.placed place
  | .insert statement =>
      statement.source.toList.map (.insertSource statement.relation statement.columns, ·) ++
        free statement.returning
  | .update statement =>
      statement.assignments.map (.assignment statement.relation, ·) ++
        free statement.sources ++ free statement.filter.toList ++ free statement.returning
  | .delete statement => free statement.filter.toList ++ free statement.returning
  | .list _ | .text _ | .integer _ | .float _ | .null | .constant .. | .table _ | .column _
  | .condition _ | .namedArgument _ | .placeholder _ =>
      node.children.map (.under place.parent, ·)

/-- Every child has one place, and the children keep their order. -/
theorem map_snd_placed (place : Place) (node : Node) :
    (node.placed place).map Prod.snd = node.children := by
  cases node with
  | select statement =>
      cases place <;>
        simp [placed, Select.placed, children, Select.children, Function.comp_def,
          List.map_flatMap, map_snd_placeRow, List.flatMap_id']
  | target entry => cases place <;> simp [placed, Function.comp_def]
  | insert | update | delete =>
      simp [placed, children, Update.children, Function.comp_def]
  | _ => simp [placed, Function.comp_def]

theorem mem_children_of_mem_placed {place : Place} {node : Node} {child : Place × Node}
    (member : child ∈ node.placed place) : child.2 ∈ node.children := by
  rw [← map_snd_placed place node]
  exact List.mem_map_of_mem member

end Node

end PlaceholderTyping
