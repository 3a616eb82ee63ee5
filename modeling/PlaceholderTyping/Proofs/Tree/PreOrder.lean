import Mathlib.Data.List.Basic
import Mathlib.Logic.Function.Iterate
import PlaceholderTyping.Tree.Descendants

/-!
# Pre-order

A walk through a tree keeps a stack of nodes and is asked for one node after the other. What is yet
to come is at all times the pre-order of the nodes on the stack, from the top down. Each call takes
one node off it, so the walk ends, however much the stack grows on the way.

Equal nodes may stand in several places, so that no node is left out or met twice is said of paths:
the pre-order lists what stands at each path, in the lexicographic order of paths.
-/

namespace PlaceholderTyping

namespace Node

/-! ## The recursive order -/

def preOrder (node : Node) : List Node :=
  node :: node.children.attach.flatMap fun ⟨child, _⟩ => child.preOrder
termination_by node
decreasing_by exact sizeOf_lt_of_mem_children ‹_ ∈ node.children›

theorem preOrder_eq (node : Node) : node.preOrder = node :: node.children.flatMap preOrder := by
  rw [preOrder, List.flatMap_subtype (fun _ _ => rfl), List.unattach_attach]

theorem descendants_eq_preOrder (node : Node) : node.descendants = node.preOrder := by
  induction node using childInduction with
  | step node ofChildren =>
      rw [descendants_eq, preOrder_eq]
      exact congrArg (node :: ·) (List.flatMap_congr ofChildren)

/-! ## Paths -/

def nodeAt? (node : Node) : List Nat → Option Node
  | [] => some node
  | position :: path => node.children[position]?.bind (·.nodeAt? path)

def paths (node : Node) : List (List Nat) :=
  [] :: node.children.zipIdx.attach.flatMap fun ⟨(child, position), _⟩ =>
    child.paths.map (position :: ·)
termination_by node
decreasing_by
  exact sizeOf_lt_of_mem_children (List.fst_mem_of_mem_zipIdx ‹_ ∈ node.children.zipIdx›)

theorem paths_eq (node : Node) :
    node.paths =
      [] :: node.children.zipIdx.flatMap fun (child, position) =>
        child.paths.map (position :: ·) := by
  rw [paths, List.flatMap_subtype (fun _ _ => rfl), List.unattach_attach]

theorem cons_mem_paths_iff {node : Node} {position : Nat} {path : List Nat} :
    position :: path ∈ node.paths ↔
      ∃ child, node.children[position]? = some child ∧ path ∈ child.paths := by
  simp [paths_eq node, List.mk_mem_zipIdx_iff_getElem?]

theorem mem_paths_iff {node : Node} {path : List Nat} :
    path ∈ node.paths ↔ (node.nodeAt? path).isSome := by
  induction path generalizing node with
  | nil =>
      rw [paths_eq]
      exact ⟨fun _ => rfl, fun _ => List.mem_cons_self⟩
  | cons position path induction =>
      rw [cons_mem_paths_iff, nodeAt?, Option.isSome_bind, Option.any_eq_true]
      exact exists_congr fun child => and_congr_right fun _ => induction

/-- A path comes before those that go on from it, and otherwise before those that turn off to a
later child. -/
theorem pairwise_paths (node : Node) : node.paths.Pairwise (· < ·) := by
  induction node using childInduction with
  | step node ofChildren =>
      rw [paths_eq, List.pairwise_cons, List.pairwise_flatMap]
      refine ⟨?root, ?within, ?between⟩
      case root =>
        intro path isBelow
        rcases List.mem_flatMap.mp isBelow with ⟨_, _, through⟩
        rcases List.mem_map.mp through with ⟨_, _, rfl⟩
        exact List.nil_lt_cons _ _
      case within =>
        intro (child, position) isChild
        rw [List.pairwise_map]
        refine (ofChildren child (List.fst_mem_of_mem_zipIdx isChild)).imp fun earlier => ?_
        exact List.cons_lt_cons_iff.mpr (.inr ⟨rfl, earlier⟩)
      case between =>
        have positions : (node.children.zipIdx.map Prod.snd).Pairwise (· < ·) := by
          rw [List.zipIdx_map_snd]
          exact List.pairwise_lt_range'
        refine (List.pairwise_map.mp positions).imp fun earlier path isBefore later isAfter => ?_
        rcases List.mem_map.mp isBefore with ⟨_, _, rfl⟩
        rcases List.mem_map.mp isAfter with ⟨_, _, rfl⟩
        exact List.cons_lt_cons_iff.mpr (.inl earlier)

theorem map_nodeAt?_paths (node : Node) : node.paths.map node.nodeAt? = node.preOrder.map some := by
  induction node using childInduction with
  | step node ofChildren =>
      have throughChild : ∀ place ∈ node.children.zipIdx,
          (place.1.paths.map (place.2 :: ·)).map node.nodeAt? = place.1.preOrder.map some := by
        intro (child, position) isChild
        rw [← ofChildren child (List.fst_mem_of_mem_zipIdx isChild), List.map_map]
        refine List.map_congr_left fun path _ => ?_
        rw [Function.comp_apply, nodeAt?, List.mk_mem_zipIdx_iff_getElem?.mp isChild,
          Option.bind_some]
      have inOrder : node.children.flatMap preOrder =
          node.children.zipIdx.flatMap fun place => place.1.preOrder := by
        rw [← List.flatMap_map Prod.fst preOrder, List.zipIdx_map_fst]
      rw [paths_eq, preOrder_eq, inOrder, List.map_cons, List.map_cons, List.map_flatMap,
        List.map_flatMap, List.flatMap_congr throughChild, nodeAt?]

end Node

/-! ## The walk -/

structure Walk where
  stack : Array Node

namespace Walk

def ofNode (node : Node) : Walk :=
  { stack := #[node] }

/-- Takes the node on top off the stack and puts its children there, the first of them on top. A
walk with nothing on its stack yields no node and stays as it is. -/
def next (walk : Walk) : Option Node × Walk :=
  match walk.stack.back? with
  | none => (none, walk)
  | some node => (some node, { stack := walk.stack.pop ++ node.children.reverse })

def after (walk : Walk) (calls : Nat) : Walk :=
  (fun walk => walk.next.2)^[calls] walk

def fromTop (walk : Walk) : List Node :=
  walk.stack.toList.reverse

theorem fromTop_eq_nil_iff {walk : Walk} : walk.fromTop = [] ↔ walk.stack = #[] := by
  rw [fromTop, List.reverse_eq_nil_iff, Array.toList_eq_nil_iff]

theorem back?_stack (walk : Walk) : walk.stack.back? = walk.fromTop.head? := by
  rw [fromTop, List.head?_reverse, Array.getLast?_toList]

theorem next_of_fromTop_eq_nil {walk : Walk} (done : walk.fromTop = []) :
    walk.next = (none, walk) := by
  rw [next, back?_stack, done, List.head?_nil]

theorem next_of_fromTop_eq_cons {walk : Walk} {node : Node} {rest : List Node}
    (isFirst : walk.fromTop = node :: rest) :
    walk.next.1 = some node ∧ walk.next.2.fromTop = node.children ++ rest := by
  have below : walk.stack.pop.toList.reverse = rest := by
    rw [Array.toList_pop, ← List.tail_reverse, ← fromTop, isFirst, List.tail_cons]
  rw [next, back?_stack, isFirst, List.head?_cons]
  refine ⟨rfl, ?_⟩
  rw [fromTop, Array.toList_appendList, List.reverse_append, List.reverse_reverse, below]

/-! ## What remains -/

def remaining (walk : Walk) : List Node :=
  Node.visit walk.fromTop

theorem remaining_eq_flatMap (walk : Walk) :
    walk.remaining = walk.fromTop.flatMap Node.preOrder := by
  rw [remaining, Node.visit_eq_flatMap]
  exact List.flatMap_congr fun node _ => node.descendants_eq_preOrder

theorem remaining_ofNode (node : Node) : (ofNode node).remaining = node.preOrder := by
  rw [remaining_eq_flatMap]
  exact List.flatMap_singleton Node.preOrder node

theorem remaining_eq_nil_iff {walk : Walk} : walk.remaining = [] ↔ walk.stack = #[] := by
  rw [← fromTop_eq_nil_iff, remaining]
  cases walk.fromTop with
  | nil => simp
  | cons => simp

/-- A call yields the first of the nodes that remain and leaves the others. -/
theorem remaining_next (walk : Walk) :
    walk.next.1 = walk.remaining.head? ∧ walk.next.2.remaining = walk.remaining.tail := by
  cases nodes : walk.fromTop with
  | nil => simp [next_of_fromTop_eq_nil nodes, remaining, nodes]
  | cons node rest =>
      rcases next_of_fromTop_eq_cons nodes with ⟨yielded, left⟩
      simp [remaining, nodes, yielded, left]

theorem remaining_after (walk : Walk) (calls : Nat) :
    (walk.after calls).remaining = walk.remaining.drop calls := by
  induction calls generalizing walk with
  | zero => rfl
  | succ calls induction =>
      rw [after, Function.iterate_succ_apply, ← after, induction, walk.remaining_next.2,
        List.drop_tail]

theorem next_after (walk : Walk) (calls : Nat) :
    (walk.after calls).next.1 = walk.remaining[calls]? := by
  rw [(walk.after calls).remaining_next.1, remaining_after, List.head?_drop]

theorem stack_after_eq_empty_iff {walk : Walk} {calls : Nat} :
    (walk.after calls).stack = #[] ↔ walk.remaining.length ≤ calls := by
  rw [← remaining_eq_nil_iff, remaining_after, List.drop_eq_nil_iff]

end Walk

/-- The descendants of a node are its nodes in recursive pre-order. A walk from the node yields one
of them with each call, in this order, until its stack is empty; from then on it yields nothing.
They stand at the paths that lead down from the node, each path met once and in lexicographic
order. -/
theorem Node.descendants_preOrder (node : Node) :
    let walk := Walk.ofNode node
    node.descendants = node.preOrder ∧
      (∀ calls, (walk.after calls).next.1 = node.preOrder[calls]?) ∧
      (∀ calls, (walk.after calls).stack = #[] ↔ node.preOrder.length ≤ calls) ∧
      node.preOrder.map some = node.paths.map node.nodeAt? ∧
      node.paths.Pairwise (· < ·) ∧
      ∀ path, path ∈ node.paths ↔ (node.nodeAt? path).isSome := by
  intro walk
  have fromNode : walk.remaining = node.preOrder := Walk.remaining_ofNode node
  refine ⟨node.descendants_eq_preOrder, ?yielded, ?ended, node.map_nodeAt?_paths.symm,
    node.pairwise_paths, fun path => mem_paths_iff⟩
  case yielded =>
    intro calls
    rw [walk.next_after, fromNode]
  case ended =>
    intro calls
    rw [Walk.stack_after_eq_empty_iff, fromNode]

/-- The first operand is visited with all that is below it before the second. -/
example :
    let condition := Node.condition
      { connective := .and
        operands := [.list [.placeholder { ordinal := 1, location := 10 }], .null]
        location := 13 }
    (List.range 5).map (fun calls => ((Walk.ofNode condition).after calls).next.1.map Node.kind) =
      [some .condition, some .list, some .placeholder, some .null, none] := by
  decide

end PlaceholderTyping
