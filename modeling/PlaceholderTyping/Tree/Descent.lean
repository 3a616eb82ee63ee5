import PlaceholderTyping.Tree.Children

/-!
# Descent

A node is larger than its children together. Recursion on the children of a node therefore ends,
and so does work through a list in which a node makes room for its children.
-/

namespace PlaceholderTyping.Node

noncomputable def totalSize : List Node → Nat
  | [] => 0
  | node :: rest => sizeOf node + totalSize rest

@[simp] theorem totalSize_nil : totalSize [] = 0 := rfl

@[simp] theorem totalSize_cons (node : Node) (rest : List Node) :
    totalSize (node :: rest) = sizeOf node + totalSize rest := rfl

@[simp] theorem totalSize_append (left right : List Node) :
    totalSize (left ++ right) = totalSize left + totalSize right := by
  induction left with
  | nil => simp
  | cons node rest ih => simp [ih, Nat.add_assoc]

theorem totalSize_lt_sizeOf_list (nodes : List Node) : totalSize nodes < sizeOf nodes := by
  induction nodes with
  | nil => simp
  | cons node rest ih =>
      simp
      omega

theorem totalSize_lt_sizeOf_option (node : Option Node) :
    totalSize node.toList < sizeOf node := by
  cases node <;> simp

theorem totalSize_lt_sizeOf_rows (rows : List (List Node)) :
    totalSize rows.flatten < sizeOf rows := by
  induction rows with
  | nil => simp
  | cons row rest ih =>
      have := totalSize_lt_sizeOf_list row
      simp
      omega

theorem totalSize_children_lt (node : Node) : totalSize node.children < sizeOf node := by
  cases node with
  | list items =>
      have := totalSize_lt_sizeOf_list items
      simp [children]
      omega
  | constant value location => simp [children]; omega
  | column reference =>
      have := totalSize_lt_sizeOf_list reference.fields
      cases reference
      simp [children] at this ⊢
      omega
  | operation expression =>
      have := totalSize_lt_sizeOf_option expression.left
      have := totalSize_lt_sizeOf_option expression.right
      cases expression
      simp [children] at *
      omega
  | condition expression =>
      have := totalSize_lt_sizeOf_list expression.operands
      cases expression
      simp [children] at this ⊢
      omega
  | call expression =>
      have := totalSize_lt_sizeOf_list expression.arguments
      cases expression
      simp [children] at this ⊢
      omega
  | namedArgument argument => cases argument; simp [children]; omega
  | cast expression => cases expression; simp [children]; omega
  | target entry =>
      have := totalSize_lt_sizeOf_option entry.value
      cases entry
      simp [children] at this ⊢
      omega
  | select statement =>
      have := totalSize_lt_sizeOf_list statement.targets
      have := totalSize_lt_sizeOf_list statement.sources
      have := totalSize_lt_sizeOf_option statement.filter
      have := totalSize_lt_sizeOf_rows statement.rows
      have := totalSize_lt_sizeOf_option statement.limit
      have := totalSize_lt_sizeOf_option statement.offset
      cases statement
      simp [children, Select.children] at *
      omega
  | insert statement =>
      have := totalSize_lt_sizeOf_option statement.source
      have := totalSize_lt_sizeOf_list statement.returning
      cases statement
      simp [children] at *
      omega
  | update statement =>
      have := totalSize_lt_sizeOf_list statement.assignments
      have := totalSize_lt_sizeOf_list statement.sources
      have := totalSize_lt_sizeOf_option statement.filter
      have := totalSize_lt_sizeOf_list statement.returning
      cases statement
      simp [children, Update.children] at *
      omega
  | delete statement =>
      have := totalSize_lt_sizeOf_option statement.filter
      have := totalSize_lt_sizeOf_list statement.returning
      cases statement
      simp [children] at *
      omega
  | null => simp [children]
  | text | integer | float | table | placeholder => simp [children, Nat.add_comm 1]

theorem sizeOf_le_totalSize {node : Node} {nodes : List Node} (member : node ∈ nodes) :
    sizeOf node ≤ totalSize nodes := by
  induction member with
  | head => simp
  | tail _ _ ih => simp; omega

theorem sizeOf_lt_of_mem_children {child node : Node} (member : child ∈ node.children) :
    sizeOf child < sizeOf node :=
  Nat.lt_of_le_of_lt (sizeOf_le_totalSize member) (totalSize_children_lt node)

/-- To prove something of every node, it suffices to prove it of a node whose children have it. -/
theorem childInduction {motive : Node → Prop}
    (step : ∀ node, (∀ child ∈ node.children, motive child) → motive node) (node : Node) :
    motive node :=
  step node fun child _member => childInduction step child
termination_by node
decreasing_by exact sizeOf_lt_of_mem_children _member

end PlaceholderTyping.Node
