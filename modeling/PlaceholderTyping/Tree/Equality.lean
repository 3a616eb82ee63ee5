import PlaceholderTyping.Tree.Descent

/-!
# Equality of trees

Two trees are the same when they have the same shape and the same content at every node. Literals
are compared by value.
-/

namespace PlaceholderTyping.Node

/-- Whether two nodes agree in everything but the nodes they are made of, of which only the number
is compared. -/
def sameHead : Node → Node → Bool
  | .list _, .list _ => true
  | .text left, .text right => left == right
  | .integer left, .integer right => left == right
  | .float left, .float right => left.same right
  | .null, .null => true
  | .constant _ left, .constant _ right => left == right
  | .table left, .table right => left == right
  | .column left, .column right => left.location == right.location
  | .operation left, .operation right =>
      left.name == right.name && left.left.isSome == right.left.isSome &&
        left.right.isSome == right.right.isSome && left.location == right.location
  | .condition left, .condition right =>
      left.connective == right.connective && left.location == right.location
  | .call left, .call right => left.function == right.function && left.location == right.location
  | .namedArgument left, .namedArgument right =>
      left.name == right.name && left.location == right.location
  | .cast left, .cast right => left.type == right.type && left.location == right.location
  | .target left, .target right => left.name == right.name && left.location == right.location
  | .placeholder left, .placeholder right => left == right
  | .select left, .select right =>
      left.targets.length == right.targets.length &&
        left.sources.length == right.sources.length &&
        left.filter.isSome == right.filter.isSome &&
        left.rows.map List.length == right.rows.map List.length &&
        left.limit.isSome == right.limit.isSome && left.offset.isSome == right.offset.isSome
  | .insert left, .insert right =>
      left.relation == right.relation &&
        left.columns.map (fun column => (column.name, column.value.isSome, column.location)) ==
          right.columns.map (fun column => (column.name, column.value.isSome, column.location)) &&
        left.source.isSome == right.source.isSome &&
        left.returning.length == right.returning.length
  | .update left, .update right =>
      left.relation == right.relation &&
        left.assignments.length == right.assignments.length &&
        left.sources.length == right.sources.length &&
        left.filter.isSome == right.filter.isSome &&
        left.returning.length == right.returning.length
  | .delete left, .delete right =>
      left.relation == right.relation && left.filter.isSome == right.filter.isSome &&
        left.returning.length == right.returning.length
  | _, _ => false

/-- The nodes that a node is made of: its children and, for an `INSERT`, the values in its column
list. -/
def parts : Node → List Node
  | .insert statement =>
      statement.columns.filterMap (·.value) ++ statement.source.toList ++ statement.returning
  | node => node.children

theorem sizeOf_lt_of_mem_parts {part node : Node} (member : part ∈ node.parts) :
    sizeOf part < sizeOf node := by
  cases node with
  | insert statement =>
      simp only [parts, List.append_assoc, List.mem_append] at member
      rcases member with inColumns | others
      · rcases List.mem_filterMap.1 inColumns with ⟨column, columnMember, value⟩
        have columnSmaller := List.sizeOf_lt_of_mem columnMember
        cases statement
        cases column
        subst value
        simp at columnSmaller ⊢
        omega
      · exact sizeOf_lt_of_mem_children (List.mem_append.2 others)
  | _ => exact sizeOf_lt_of_mem_children member

def same (left right : Node) : Bool :=
  left.sameHead right && left.parts.length == right.parts.length &&
    (left.parts.attach.zip right.parts).all fun (⟨leftPart, _⟩, rightPart) =>
      leftPart.same rightPart
termination_by left
decreasing_by exact sizeOf_lt_of_mem_parts ‹leftPart ∈ left.parts›

end PlaceholderTyping.Node
