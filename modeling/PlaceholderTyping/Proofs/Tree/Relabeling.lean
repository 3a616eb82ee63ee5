import Mathlib.Data.List.Basic
import PlaceholderTyping.Tree.Descendants

/-!
# Relabeled trees

A relabeling changes locations and the schemas of mentioned tables, wherever they stand in a tree,
and leaves everything else as it is. What a tree is made of, its children and its descendants, is
relabeled with it.
-/

namespace PlaceholderTyping

structure Relabeling where
  location : Nat → Nat
  schema : Option String → Option String

namespace Relabeling

def shift (distance : Nat) : Relabeling where
  location := (· + distance)
  schema := id

def qualify (schema : String) : Relabeling where
  location := id
  schema written := some (written.getD schema)

end Relabeling

/-! ## Relabeling -/

variable (change : Relabeling)

def QualifiedName.relabel (qualified : QualifiedName) : QualifiedName :=
  { qualified with schema := change.schema qualified.schema }

def TableRef.relabel (table : TableRef) : TableRef :=
  { table with schema := change.schema table.schema, location := change.location table.location }

def Placeholder.relabel (parameter : Placeholder) : Placeholder :=
  { parameter with location := change.location parameter.location }

mutual

def Node.relabel : Node → Node
  | .list items => .list (Node.relabelList items)
  | .text value => .text value
  | .integer value => .integer value
  | .float value => .float value
  | .null => .null
  | .constant value location => .constant value.relabel (change.location location)
  | .table reference => .table (reference.relabel change)
  | .column reference => .column reference.relabel
  | .operation expression => .operation expression.relabel
  | .condition expression => .condition expression.relabel
  | .call expression => .call expression.relabel
  | .namedArgument argument => .namedArgument argument.relabel
  | .cast expression => .cast expression.relabel
  | .target entry => .target entry.relabel
  | .placeholder parameter => .placeholder (parameter.relabel change)
  | .select statement => .select statement.relabel
  | .insert statement => .insert statement.relabel
  | .update statement => .update statement.relabel
  | .delete statement => .delete statement.relabel

def Node.relabelOption : Option Node → Option Node
  | none => none
  | some node => some node.relabel

def Node.relabelList : List Node → List Node
  | [] => []
  | node :: rest => node.relabel :: Node.relabelList rest

def Node.relabelRows : List (List Node) → List (List Node)
  | [] => []
  | row :: rest => Node.relabelList row :: Node.relabelRows rest

def ColumnRef.relabel : ColumnRef Node → ColumnRef Node
  | { fields, location } =>
      { fields := Node.relabelList fields, location := change.location location }

def Operation.relabel : Operation Node → Operation Node
  | { name, left, right, location } =>
      { name
        left := Node.relabelOption left
        right := Node.relabelOption right
        location := change.location location }

def Condition.relabel : Condition Node → Condition Node
  | { connective, operands, location } =>
      { connective
        operands := Node.relabelList operands
        location := change.location location }

def Call.relabel : Call Node → Call Node
  | { function, arguments, location } =>
      { function
        arguments := Node.relabelList arguments
        location := change.location location }

def NamedArgument.relabel : NamedArgument Node → NamedArgument Node
  | { name, value, location } =>
      { name, value := value.relabel, location := change.location location }

def Cast.relabel : Cast Node → Cast Node
  | { operand, type, location } =>
      { operand := operand.relabel, type, location := change.location location }

def Target.relabel : Target Node → Target Node
  | { name, value, location } =>
      { name, value := Node.relabelOption value, location := change.location location }

def Target.relabelList : List (Target Node) → List (Target Node)
  | [] => []
  | entry :: rest => entry.relabel :: Target.relabelList rest

def Select.relabel : Select Node → Select Node
  | { targets, sources, filter, rows, limit, offset } =>
      { targets := Node.relabelList targets
        sources := Node.relabelList sources
        filter := Node.relabelOption filter
        rows := Node.relabelRows rows
        limit := Node.relabelOption limit
        offset := Node.relabelOption offset }

def Insert.relabel : Insert Node → Insert Node
  | { relation, columns, source, returning } =>
      { relation := relation.relabel change
        columns := Target.relabelList columns
        source := Node.relabelOption source
        returning := Node.relabelList returning }

def Update.relabel : Update Node → Update Node
  | { relation, assignments, sources, filter, returning } =>
      { relation := relation.relabel change
        assignments := Node.relabelList assignments
        sources := Node.relabelList sources
        filter := Node.relabelOption filter
        returning := Node.relabelList returning }

def Delete.relabel : Delete Node → Delete Node
  | { relation, filter, returning } =>
      { relation := relation.relabel change
        filter := Node.relabelOption filter
        returning := Node.relabelList returning }

end

def Statement.relabel (statement : Statement) : Statement where
  root := statement.root.relabel change
  location := change.location statement.location
  length := statement.length

/-! ## Fields of relabeled nodes -/

@[simp] theorem Node.relabelOption_eq (node : Option Node) :
    Node.relabelOption change node = node.map (Node.relabel change) := by
  cases node <;> rfl

@[simp] theorem Node.relabelList_eq (nodes : List Node) :
    Node.relabelList change nodes = nodes.map (Node.relabel change) := by
  induction nodes with
  | nil => rfl
  | cons node rest induction => rw [Node.relabelList, List.map_cons, induction]

@[simp] theorem Node.relabelRows_eq (rows : List (List Node)) :
    Node.relabelRows change rows = rows.map (List.map (Node.relabel change)) := by
  induction rows with
  | nil => rfl
  | cons row rest induction =>
      rw [Node.relabelRows, List.map_cons, induction, Node.relabelList_eq]

@[simp] theorem Target.relabelList_eq (entries : List (Target Node)) :
    Target.relabelList change entries = entries.map (Target.relabel change) := by
  induction entries with
  | nil => rfl
  | cons entry rest induction => rw [Target.relabelList, List.map_cons, induction]

theorem ColumnRef.relabel_eq (reference : ColumnRef Node) :
    reference.relabel change =
      { fields := reference.fields.map (Node.relabel change)
        location := change.location reference.location } := by
  cases reference
  simp [ColumnRef.relabel]

theorem Operation.relabel_eq (expression : Operation Node) :
    expression.relabel change =
      { name := expression.name
        left := expression.left.map (Node.relabel change)
        right := expression.right.map (Node.relabel change)
        location := change.location expression.location } := by
  cases expression
  simp [Operation.relabel]

theorem Condition.relabel_eq (expression : Condition Node) :
    expression.relabel change =
      { connective := expression.connective
        operands := expression.operands.map (Node.relabel change)
        location := change.location expression.location } := by
  cases expression
  simp [Condition.relabel]

theorem Call.relabel_eq (expression : Call Node) :
    expression.relabel change =
      { function := expression.function
        arguments := expression.arguments.map (Node.relabel change)
        location := change.location expression.location } := by
  cases expression
  simp [Call.relabel]

theorem NamedArgument.relabel_eq (argument : NamedArgument Node) :
    argument.relabel change =
      { name := argument.name
        value := argument.value.relabel change
        location := change.location argument.location } := by
  cases argument
  simp [NamedArgument.relabel]

theorem Cast.relabel_eq (expression : Cast Node) :
    expression.relabel change =
      { operand := expression.operand.relabel change
        type := expression.type
        location := change.location expression.location } := by
  cases expression
  simp [Cast.relabel]

theorem Target.relabel_eq (entry : Target Node) :
    entry.relabel change =
      { name := entry.name
        value := entry.value.map (Node.relabel change)
        location := change.location entry.location } := by
  cases entry
  simp [Target.relabel]

theorem Select.relabel_eq (statement : Select Node) :
    statement.relabel change =
      { targets := statement.targets.map (Node.relabel change)
        sources := statement.sources.map (Node.relabel change)
        filter := statement.filter.map (Node.relabel change)
        rows := statement.rows.map (List.map (Node.relabel change))
        limit := statement.limit.map (Node.relabel change)
        offset := statement.offset.map (Node.relabel change) } := by
  cases statement
  simp [Select.relabel]

theorem Insert.relabel_eq (statement : Insert Node) :
    statement.relabel change =
      { relation := statement.relation.relabel change
        columns := statement.columns.map (Target.relabel change)
        source := statement.source.map (Node.relabel change)
        returning := statement.returning.map (Node.relabel change) } := by
  cases statement
  simp [Insert.relabel]

theorem Update.relabel_eq (statement : Update Node) :
    statement.relabel change =
      { relation := statement.relation.relabel change
        assignments := statement.assignments.map (Node.relabel change)
        sources := statement.sources.map (Node.relabel change)
        filter := statement.filter.map (Node.relabel change)
        returning := statement.returning.map (Node.relabel change) } := by
  cases statement
  simp [Update.relabel]

theorem Delete.relabel_eq (statement : Delete Node) :
    statement.relabel change =
      { relation := statement.relation.relabel change
        filter := statement.filter.map (Node.relabel change)
        returning := statement.returning.map (Node.relabel change) } := by
  cases statement
  simp [Delete.relabel]

/-! ## Traversal -/

theorem TableRef.tableName_relabel (table : TableRef) :
    (table.relabel change).tableName = table.tableName.relabel change := rfl

namespace Node

theorem children_relabel (node : Node) :
    (node.relabel change).children = node.children.map (relabel change) := by
  cases node with
  | list | text | integer | float | null | constant | table | placeholder =>
      simp [relabel, children]
  | column => simp [relabel, children, ColumnRef.relabel_eq]
  | operation => simp [relabel, children, Operation.relabel_eq, Option.toList_map]
  | condition => simp [relabel, children, Condition.relabel_eq]
  | call => simp [relabel, children, Call.relabel_eq]
  | namedArgument => simp [relabel, children, NamedArgument.relabel_eq]
  | cast => simp [relabel, children, Cast.relabel_eq]
  | target => simp [relabel, children, Target.relabel_eq, Option.toList_map]
  | select =>
      simp [relabel, children, Select.children, Select.relabel_eq, Option.toList_map,
        List.map_flatten]
  | insert => simp [relabel, children, Insert.relabel_eq, Option.toList_map]
  | update =>
      simp [relabel, children, Update.children, Update.relabel_eq, Option.toList_map]
  | delete => simp [relabel, children, Delete.relabel_eq, Option.toList_map]

/-- What is relabeled are the descendants, each in its place. -/
theorem descendants_relabel (node : Node) :
    (node.relabel change).descendants = node.descendants.map (relabel change) := by
  induction node using childInduction with
  | step node ofChildren =>
      rw [descendants_eq, descendants_eq, children_relabel, List.map_cons, List.map_flatMap,
        List.flatMap_map]
      apply congrArg (node.relabel change :: ·)
      apply List.flatMap_congr
      exact ofChildren

theorem kind_relabel (node : Node) : (node.relabel change).kind = node.kind := by
  cases node <;> rfl

theorem text?_relabel (node : Node) : (node.relabel change).text? = node.text? := by
  cases node <;> rfl

theorem location?_relabel (node : Node) :
    (node.relabel change).location? = node.location?.map change.location := by
  cases node with
  | column => simp [relabel, location?, ColumnRef.relabel_eq]
  | operation => simp [relabel, location?, Operation.relabel_eq]
  | condition => simp [relabel, location?, Condition.relabel_eq]
  | call => simp [relabel, location?, Call.relabel_eq]
  | namedArgument => simp [relabel, location?, NamedArgument.relabel_eq]
  | cast => simp [relabel, location?, Cast.relabel_eq]
  | target => simp [relabel, location?, Target.relabel_eq]
  | _ => rfl

theorem firstColumn?_relabel (node : Node) :
    (node.relabel change).firstColumn? = node.firstColumn?.map (ColumnRef.relabel change) := by
  rw [firstColumn?, firstColumn?, descendants_relabel, List.findSome?_map, List.map_findSome?]
  apply congrArg (List.findSome? · node.descendants)
  funext descendant
  cases descendant <;> rfl

end Node

theorem ColumnRef.names_relabel (reference : ColumnRef Node) :
    (reference.relabel change).names = reference.names := by
  rw [names, names, relabel_eq, List.filterMap_map]
  apply List.filterMap_congr
  intro field _
  exact Node.text?_relabel change field

/-! ## Filling -/

section

variable {α β : Type} (transform : α → β)

theorem refillList_map (places supply : List α) :
    refillList (places.map transform) (supply.map transform) =
      (refillList places supply).map (List.map transform) (List.map transform) := by
  induction places generalizing supply with
  | nil => simp [refillList]
  | cons place places induction =>
      cases supply with
      | nil => simp [refillList]
      | cons new supply => simp [refillList, induction]

theorem refillOption_map (place : Option α) (supply : List α) :
    refillOption (place.map transform) (supply.map transform) =
      (refillOption place supply).map (Option.map transform) (List.map transform) := by
  cases place <;> cases supply <;> rfl

theorem refillRows_map (rows : List (List α)) (supply : List α) :
    refillRows (rows.map (List.map transform)) (supply.map transform) =
      (refillRows rows supply).map (List.map (List.map transform)) (List.map transform) := by
  induction rows generalizing supply with
  | nil => simp [refillRows]
  | cons row rows induction => simp [refillRows, refillList_map, induction]

end

/-- It does not matter whether nodes are relabeled before or after they are filled in. -/
theorem Node.withChildren_relabel (node : Node) (supply : List Node) :
    (node.withChildren supply).relabel change =
      (node.relabel change).withChildren (supply.map (relabel change)) := by
  cases node with
  | list => simp [withChildren, relabel, refillList_map]
  | text | integer | float | null | table | placeholder => rfl
  | constant => simp [withChildren, relabel]
  | column => simp [withChildren, relabel, ColumnRef.relabel_eq, refillList_map]
  | operation => simp [withChildren, relabel, Operation.relabel_eq, refillOption_map]
  | condition => simp [withChildren, relabel, Condition.relabel_eq, refillList_map]
  | call => simp [withChildren, relabel, Call.relabel_eq, refillList_map]
  | namedArgument => simp [withChildren, relabel, NamedArgument.relabel_eq]
  | cast => simp [withChildren, relabel, Cast.relabel_eq]
  | target => simp [withChildren, relabel, Target.relabel_eq, refillOption_map]
  | select =>
      simp [withChildren, relabel, Select.withChildren, Select.relabel_eq, refillList_map,
        refillOption_map, refillRows_map]
  | insert => simp [withChildren, relabel, Insert.relabel_eq, refillList_map, refillOption_map]
  | update =>
      simp [withChildren, relabel, Update.withChildren, Update.relabel_eq, refillList_map,
        refillOption_map]
  | delete => simp [withChildren, relabel, Delete.relabel_eq, refillList_map, refillOption_map]

/-! ## Spelled names -/

theorem flatMap_descendants_relabel (nodes : List Node) :
    (nodes.map (Node.relabel change)).flatMap Node.descendants =
      (nodes.flatMap Node.descendants).map (Node.relabel change) := by
  rw [List.flatMap_map, List.map_flatMap]
  apply List.flatMap_congr
  intro node _
  exact node.descendants_relabel change

theorem spelledName_relabel (nodes : List Node) :
    spelledName (nodes.map (Node.relabel change)) = spelledName nodes := by
  rw [spelledName, spelledName, flatMap_descendants_relabel, List.filterMap_map]
  apply congrArg String.join
  apply List.filterMap_congr
  intro node _
  exact Node.text?_relabel change node

theorem isQuotedName_relabel (nodes : List Node) :
    isQuotedName (nodes.map (Node.relabel change)) = isQuotedName nodes := by
  rw [isQuotedName, isQuotedName, flatMap_descendants_relabel, List.any_map]
  apply congrArg (List.any _ ·)
  funext node
  rw [Function.comp_apply, Node.kind_relabel]

end PlaceholderTyping
