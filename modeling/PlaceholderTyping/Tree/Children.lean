import PlaceholderTyping.Tree.Basic
import PlaceholderTyping.Tree.Filling

/-!
# Children

The parts of a node that are nodes, in the order of the source text. `children` lists them and
`withChildren` puts others in their places; all transformations of trees are built from these two.
The target of a statement and the columns of an `INSERT` belong to the node and are no children.
-/

namespace PlaceholderTyping

namespace Select

def children {Node : Type} (select : Select Node) : List Node :=
  select.targets ++ select.sources ++ select.filter.toList ++ select.rows.flatten ++
    select.limit.toList ++ select.offset.toList

def withChildren {Node : Type} (select : Select Node) (supply : List Node) : Select Node :=
  let (targets, supply) := refillList select.targets supply
  let (sources, supply) := refillList select.sources supply
  let (filter, supply) := refillOption select.filter supply
  let (rows, supply) := refillRows select.rows supply
  let (limit, supply) := refillOption select.limit supply
  let (offset, _) := refillOption select.offset supply
  { targets, sources, filter, rows, limit, offset }

theorem withChildren_children {Node : Type} (select : Select Node) :
    select.withChildren select.children = select := by
  simp [withChildren, children]

theorem children_withChildren {Node : Type} {select : Select Node} {supply : List Node}
    (enough : supply.length = select.children.length) :
    (select.withChildren supply).children = supply := by
  simp only [children, List.length_append] at enough
  have targetsFilled := refillList_eq select.targets supply (by omega)
  have sourcesFilled := refillList_eq select.sources
    (supply.drop select.targets.length) (by rw [List.length_drop]; omega)
  rw [List.drop_drop] at sourcesFilled
  rcases exists_refillOption_eq select.filter
    (supply.drop (select.targets.length + select.sources.length))
    (by rw [List.length_drop]; omega) with ⟨filter, filterFilled, filterIs⟩
  rw [List.drop_drop] at filterFilled
  rcases exists_refillRows_eq select.rows
    (supply.drop (select.targets.length + select.sources.length +
      select.filter.toList.length))
    (by rw [List.length_drop]; omega) with ⟨rows, rowsFilled, rowsAre⟩
  rw [List.drop_drop] at rowsFilled
  rcases exists_refillOption_eq select.limit
    (supply.drop (select.targets.length + select.sources.length +
      select.filter.toList.length + select.rows.flatten.length))
    (by rw [List.length_drop]; omega) with ⟨limit, limitFilled, limitIs⟩
  rw [List.drop_drop] at limitFilled
  rcases exists_refillOption_eq select.offset
    (supply.drop (select.targets.length + select.sources.length +
      select.filter.toList.length + select.rows.flatten.length + select.limit.toList.length))
    (by rw [List.length_drop]; omega) with ⟨offset, offsetFilled, offsetIs⟩
  simp only [withChildren, children, targetsFilled, sourcesFilled, filterFilled, filterIs,
    rowsFilled, rowsAre, limitFilled, limitIs, offsetFilled, offsetIs, ← List.take_add]
  exact List.take_of_length_le (by omega)

end Select

namespace Update

def children {Node : Type} (update : Update Node) : List Node :=
  update.assignments ++ update.sources ++ update.filter.toList ++ update.returning

def withChildren {Node : Type} (update : Update Node) (supply : List Node) : Update Node :=
  let (assignments, supply) := refillList update.assignments supply
  let (sources, supply) := refillList update.sources supply
  let (filter, supply) := refillOption update.filter supply
  let (returning, _) := refillList update.returning supply
  { update with assignments, sources, filter, returning }

theorem withChildren_children {Node : Type} (update : Update Node) :
    update.withChildren update.children = update := by
  simp [withChildren, children]

theorem children_withChildren {Node : Type} {update : Update Node} {supply : List Node}
    (enough : supply.length = update.children.length) :
    (update.withChildren supply).children = supply := by
  simp only [children, List.length_append] at enough
  have assignmentsFilled := refillList_eq update.assignments supply
    (by omega)
  have sourcesFilled := refillList_eq update.sources
    (supply.drop update.assignments.length) (by rw [List.length_drop]; omega)
  rw [List.drop_drop] at sourcesFilled
  rcases exists_refillOption_eq update.filter
    (supply.drop (update.assignments.length + update.sources.length))
    (by rw [List.length_drop]; omega) with ⟨filter, filterFilled, filterIs⟩
  rw [List.drop_drop] at filterFilled
  have returningFilled := refillList_eq update.returning
    (supply.drop (update.assignments.length + update.sources.length +
      update.filter.toList.length))
    (by rw [List.length_drop]; omega)
  simp only [withChildren, children, assignmentsFilled, sourcesFilled, filterFilled, filterIs,
    returningFilled, ← List.take_add]
  exact List.take_of_length_le (by omega)

end Update

namespace Node

/-! ## Children of a node -/

def children : Node → List Node
  | .list items => items
  | .constant value _ => [value]
  | .column reference => reference.fields
  | .operation expression => expression.left.toList ++ expression.right.toList
  | .condition expression => expression.operands
  | .call expression => expression.arguments
  | .namedArgument argument => [argument.value]
  | .cast expression => [expression.operand]
  | .target entry => entry.value.toList
  | .select statement => statement.children
  | .insert statement => statement.source.toList ++ statement.returning
  | .update statement => statement.children
  | .delete statement => statement.filter.toList ++ statement.returning
  | .text _ | .integer _ | .float _ | .null | .table _ | .placeholder _ => []

def withChildren (node : Node) (supply : List Node) : Node :=
  match node with
  | .list items => .list (refillList items supply).1
  | .constant value location => .constant (supply.headD value) location
  | .column reference =>
      .column { reference with fields := (refillList reference.fields supply).1 }
  | .operation expression =>
      let (left, supply) := refillOption expression.left supply
      let (right, _) := refillOption expression.right supply
      .operation { expression with left, right }
  | .condition expression =>
      .condition { expression with operands := (refillList expression.operands supply).1 }
  | .call expression =>
      .call { expression with arguments := (refillList expression.arguments supply).1 }
  | .namedArgument argument =>
      .namedArgument { argument with value := supply.headD argument.value }
  | .cast expression => .cast { expression with operand := supply.headD expression.operand }
  | .target entry => .target { entry with value := (refillOption entry.value supply).1 }
  | .select statement => .select (statement.withChildren supply)
  | .insert statement =>
      let (source, supply) := refillOption statement.source supply
      let (returning, _) := refillList statement.returning supply
      .insert { statement with source, returning }
  | .update statement => .update (statement.withChildren supply)
  | .delete statement =>
      let (filter, supply) := refillOption statement.filter supply
      let (returning, _) := refillList statement.returning supply
      .delete { statement with filter, returning }
  | .text _ | .integer _ | .float _ | .null | .table _ | .placeholder _ => node

/-- A node filled with its own children is the node itself. -/
theorem withChildren_children (node : Node) : node.withChildren node.children = node := by
  cases node with
  | select statement => simp [withChildren, children, Select.withChildren_children]
  | update statement => simp [withChildren, children, Update.withChildren_children]
  | _ => simp [withChildren, children]

/-- A node filled with as many nodes as it has children has these as its children. -/
theorem children_withChildren {node : Node} {supply : List Node}
    (enough : supply.length = node.children.length) :
    (node.withChildren supply).children = supply := by
  cases node with
  | list | column | condition | call =>
      simp only [children] at enough
      simp only [withChildren, children, refillList_eq _ _ (Nat.le_of_eq enough.symm)]
      exact List.take_of_length_le (Nat.le_of_eq enough)
  | constant | namedArgument | cast =>
      rcases List.length_eq_one_iff.1 enough with ⟨new, rfl⟩
      rfl
  | operation expression =>
      simp only [children, List.length_append] at enough
      rcases exists_refillOption_eq expression.left supply (by omega) with
        ⟨left, leftFilled, leftIs⟩
      rcases exists_refillOption_eq expression.right
        (supply.drop expression.left.toList.length) (by rw [List.length_drop]; omega) with
        ⟨right, rightFilled, rightIs⟩
      simp only [withChildren, children, leftFilled, leftIs, rightFilled, rightIs, ← List.take_add]
      exact List.take_of_length_le (by omega)
  | target entry =>
      simp only [children] at enough
      rcases exists_refillOption_eq entry.value supply (by omega) with ⟨value, valueFilled, valueIs⟩
      simp only [withChildren, children, valueFilled, valueIs]
      exact List.take_of_length_le (by omega)
  | select statement => exact Select.children_withChildren enough
  | insert statement =>
      simp only [children, List.length_append] at enough
      rcases exists_refillOption_eq statement.source supply (by omega) with
        ⟨source, sourceFilled, sourceIs⟩
      have returningFilled := refillList_eq statement.returning
        (supply.drop statement.source.toList.length) (by rw [List.length_drop]; omega)
      simp only [withChildren, children, sourceFilled, sourceIs, returningFilled, ← List.take_add]
      exact List.take_of_length_le (by omega)
  | update statement => exact Update.children_withChildren enough
  | delete statement =>
      simp only [children, List.length_append] at enough
      rcases exists_refillOption_eq statement.filter supply (by omega) with
        ⟨filter, filterFilled, filterIs⟩
      have returningFilled := refillList_eq statement.returning
        (supply.drop statement.filter.toList.length) (by rw [List.length_drop]; omega)
      simp only [withChildren, children, filterFilled, filterIs, returningFilled, ← List.take_add]
      exact List.take_of_length_le (by omega)
  | text | integer | float | null | table | placeholder =>
      exact (List.length_eq_zero_iff.1 enough).symm

/-- Passes every child through a function, which may have effects; they happen in the order of the
children. Whether to go on below a child is up to the function. -/
def mapChildrenM {m : Type → Type} [Monad m] (transform : Node → m Node) (node : Node) : m Node :=
  node.withChildren <$> node.children.mapM transform

def mapChildren (transform : Node → Node) (node : Node) : Node :=
  node.withChildren (node.children.map transform)

theorem children_mapChildren (transform : Node → Node) (node : Node) :
    (node.mapChildren transform).children = node.children.map transform :=
  children_withChildren (List.length_map transform)

end Node

end PlaceholderTyping
