import PlaceholderTyping.Tree.Descent

/-!
# Descendants

All nodes of a tree, each before the nodes below it, in the order of the source text.
-/

namespace PlaceholderTyping

namespace Node

/-- Visits the first node of a work list and puts its children before the rest. -/
def visit : List Node → List Node
  | [] => []
  | node :: rest => node :: visit (node.children ++ rest)
termination_by pending => totalSize pending
decreasing_by
  have := totalSize_children_lt node
  simp
  omega

def descendants (node : Node) : List Node :=
  visit [node]

@[simp] theorem visit_nil : visit [] = [] := by
  simp [visit]

@[simp] theorem visit_cons (node : Node) (rest : List Node) :
    visit (node :: rest) = node :: visit (node.children ++ rest) := by
  simp [visit]

theorem visit_append (left right : List Node) :
    visit (left ++ right) = visit left ++ visit right := by
  fun_induction visit left with
  | case1 => simp
  | case2 node rest ih => simp [← ih]

theorem visit_eq_flatMap (nodes : List Node) : visit nodes = nodes.flatMap descendants := by
  induction nodes with
  | nil => simp
  | cons node rest ih =>
      rw [List.flatMap_cons, ← ih, descendants, ← visit_append]
      rfl

/-- The descendants of a node are the node and, child by child, their descendants. -/
theorem descendants_eq (node : Node) :
    node.descendants = node :: node.children.flatMap descendants := by
  rw [descendants, visit_cons, List.append_nil, visit_eq_flatMap]

def firstColumn? (node : Node) : Option (ColumnRef Node) :=
  node.descendants.findSome? fun
    | .column reference => some reference
    | _ => none

end Node

/-! ## Spelled names

A name may be written as an identifier or as a string constant. Either way its text is what remains
of the tree when everything but the text fragments is dropped. -/

def spelledName (nodes : List Node) : String :=
  String.join ((nodes.flatMap Node.descendants).filterMap Node.text?)

def isQuotedName (nodes : List Node) : Bool :=
  (nodes.flatMap Node.descendants).any (·.kind = .constant)

end PlaceholderTyping
