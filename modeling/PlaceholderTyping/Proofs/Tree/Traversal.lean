import PlaceholderTyping.Proofs.Tree.Refilling

/-!
# Passing children through a function

The children of a node are listed, passed through a function one after the other, and put back. That
is the same as to go through the places of the node itself, each with what it holds: nothing, one
node, a list or rows. So the function sees each child once, in the order in which they are listed,
and nothing but the children is new.
-/

namespace PlaceholderTyping

/-! ## Places one after the other -/

section

variable {m : Type → Type} [Monad m] {α γ : Type}

/-- The action has such results only, so what follows it need not be right for any other. -/
def Yields (action : m α) (such : α → Prop) : Prop :=
  ∀ {β : Type} {next other : α → m β}, (∀ result, such result → next result = other result) →
    action >>= next = action >>= other

theorem yields_true (action : m α) : Yields action fun _ => True :=
  fun same => bind_congr fun result => same result trivial

variable [LawfulMonad m]

theorem yields_listMapM {step : α → m γ} {below : α → γ → Prop}
    (each : ∀ place, Yields (step place) (below place)) (places : List α) :
    Yields (places.mapM step) (List.Forall₂ below places) := by
  intro β next other same
  induction places generalizing next other with
  | nil => simpa using same [] .nil
  | cons place places induction =>
      simp only [List.mapM_cons, bind_assoc, pure_bind]
      refine each place fun first firstBelow => induction fun filled restBelow => ?_
      exact same (first :: filled) (.cons firstBelow restBelow)

theorem yields_optionMapM {step : α → m γ} {below : α → γ → Prop}
    (each : ∀ place, Yields (step place) (below place)) (place : Option α) :
    Yields (place.mapM step) (Option.Rel below place) := by
  intro β next other same
  cases place with
  | none => simpa using same none .none
  | some content =>
      simp only [Option.mapM_some, bind_map_left]
      exact each content fun filled contentBelow => same (some filled) (.some contentBelow)

theorem mapM_toList {step : α → m γ} (place : Option α) :
    place.toList.mapM step = Option.toList <$> place.mapM step := by
  cases place <;> simp

theorem mapM_flatten {step : α → m γ} (rows : List (List α)) :
    rows.flatten.mapM step = List.flatten <$> rows.mapM (·.mapM step) := by
  induction rows with
  | nil => simp
  | cons row rows induction => simp [List.mapM_append, induction]

end

namespace Node

def mapPlacesM {m : Type → Type} [Monad m] (transform : Node → m Node) : Node → m Node
  | .list items => do
      let items ← items.mapM transform
      return .list items
  | .constant value location => do
      let value ← transform value
      return .constant value location
  | .column reference => do
      let fields ← reference.fields.mapM transform
      return .column { reference with fields }
  | .operation expression => do
      let left ← expression.left.mapM transform
      let right ← expression.right.mapM transform
      return .operation { expression with left, right }
  | .condition expression => do
      let operands ← expression.operands.mapM transform
      return .condition { expression with operands }
  | .call expression => do
      let arguments ← expression.arguments.mapM transform
      return .call { expression with arguments }
  | .namedArgument argument => do
      let value ← transform argument.value
      return .namedArgument { argument with value }
  | .cast expression => do
      let operand ← transform expression.operand
      return .cast { expression with operand }
  | .target entry => do
      let value ← entry.value.mapM transform
      return .target { entry with value }
  | .select statement => do
      let targets ← statement.targets.mapM transform
      let sources ← statement.sources.mapM transform
      let filter ← statement.filter.mapM transform
      let rows ← statement.rows.mapM (·.mapM transform)
      let limit ← statement.limit.mapM transform
      let offset ← statement.offset.mapM transform
      return .select { targets, sources, filter, rows, limit, offset }
  | .insert statement => do
      let source ← statement.source.mapM transform
      let returning ← statement.returning.mapM transform
      return .insert { statement with source, returning }
  | .update statement => do
      let assignments ← statement.assignments.mapM transform
      let sources ← statement.sources.mapM transform
      let filter ← statement.filter.mapM transform
      let returning ← statement.returning.mapM transform
      return .update { statement with assignments, sources, filter, returning }
  | .delete statement => do
      let filter ← statement.filter.mapM transform
      let returning ← statement.returning.mapM transform
      return .delete { statement with filter, returning }
  | .text value => return .text value
  | .integer value => return .integer value
  | .float value => return .float value
  | .null => return .null
  | .table reference => return .table reference
  | .placeholder parameter => return .placeholder parameter

/-- To list the children, pass them and put them back is to go through the places. -/
theorem mapChildrenM_eq_mapPlacesM {m : Type → Type} [Monad m] [LawfulMonad m]
    (transform : Node → m Node) (node : Node) :
    node.mapChildrenM transform = node.mapPlacesM transform := by
  -- Each place is filled by what fits it, so that the supply is divided among the places again.
  have ofList := yields_listMapM fun child => yields_true (transform child)
  have ofOption := yields_optionMapM fun child => yields_true (transform child)
  have ofRows := yields_listMapM ofList
  rw [mapChildrenM, ← bind_pure_comp]
  cases node with
  | list | column | condition | call =>
      refine ofList _ fun filled fills => ?_
      rw [children] at fills
      simp only [withChildren, refillList_of_related fills]
  | constant | namedArgument | cast => simp [children, withChildren, mapPlacesM]
  | operation expression =>
      simp only [children, mapPlacesM, List.mapM_append, mapM_toList, bind_map_left, bind_assoc,
        pure_bind]
      refine ofOption _ fun left leftFills => ?_
      refine ofOption _ fun right rightFills => ?_
      simp only [withChildren, refillOption_append_of_related leftFills,
        refillOption_of_related rightFills]
  | target entry =>
      simp only [children, mapPlacesM, mapM_toList, bind_map_left]
      refine ofOption _ fun value fills => ?_
      simp only [withChildren, refillOption_of_related fills]
  | select statement =>
      simp only [children, Select.children, mapPlacesM, List.mapM_append, mapM_toList,
        mapM_flatten, bind_map_left, bind_assoc, pure_bind]
      refine ofList _ fun targets targetsFill => ?_
      refine ofList _ fun sources sourcesFill => ?_
      refine ofOption _ fun filter filterFills => ?_
      refine ofRows _ fun rows rowsFill => ?_
      refine ofOption _ fun limit limitFills => ?_
      refine ofOption _ fun offset offsetFills => ?_
      simp only [withChildren, Select.withChildren, List.append_assoc,
        refillList_append_of_related targetsFill, refillList_append_of_related sourcesFill,
        refillOption_append_of_related filterFills, refillRows_append_of_related rowsFill,
        refillOption_append_of_related limitFills, refillOption_of_related offsetFills]
  | insert statement =>
      simp only [children, mapPlacesM, List.mapM_append, mapM_toList, bind_map_left, bind_assoc,
        pure_bind]
      refine ofOption _ fun source sourceFills => ?_
      refine ofList _ fun returning returningFills => ?_
      simp only [withChildren, refillOption_append_of_related sourceFills,
        refillList_of_related returningFills]
  | update statement =>
      simp only [children, Update.children, mapPlacesM, List.mapM_append, mapM_toList,
        bind_map_left, bind_assoc, pure_bind]
      refine ofList _ fun assignments assignmentsFill => ?_
      refine ofList _ fun sources sourcesFill => ?_
      refine ofOption _ fun filter filterFills => ?_
      refine ofList _ fun returning returningFills => ?_
      simp only [withChildren, Update.withChildren, List.append_assoc,
        refillList_append_of_related assignmentsFill, refillList_append_of_related sourcesFill,
        refillOption_append_of_related filterFills, refillList_of_related returningFills]
  | delete statement =>
      simp only [children, mapPlacesM, List.mapM_append, mapM_toList, bind_map_left, bind_assoc,
        pure_bind]
      refine ofOption _ fun filter filterFills => ?_
      refine ofList _ fun returning returningFills => ?_
      simp only [withChildren, refillOption_append_of_related filterFills,
        refillList_of_related returningFills]
  | text | integer | float | null | table | placeholder =>
      simp [children, withChildren, mapPlacesM]

/-! ## Calls and answers -/

/-- From a state on, the function is called for one node after the other, gives these answers, and
leaves a state behind. -/
inductive Answers {σ : Type} (transform : Node → StateM σ Node) :
    σ → List Node → List Node → σ → Prop where
  | done (state : σ) : Answers transform state [] [] state
  | call {state final : σ} {node : Node} {nodes answers : List Node}
      (later : Answers transform ((transform node).run state).2 nodes answers final) :
      Answers transform state (node :: nodes) (((transform node).run state).1 :: answers) final

section

variable {σ : Type} {transform : Node → StateM σ Node} {state final : σ}
  {nodes answers : List Node}

theorem answers_mapM (transform : Node → StateM σ Node) (nodes : List Node) (state : σ) :
    Answers transform state nodes ((nodes.mapM transform).run state).1
      ((nodes.mapM transform).run state).2 := by
  induction nodes generalizing state with
  | nil => exact .done state
  | cons node nodes induction =>
      rw [List.mapM_cons]
      exact .call (induction _)

theorem Answers.forall₂ (given : Answers transform state nodes answers final) :
    List.Forall₂ (fun _ _ => True) nodes answers := by
  induction given with
  | done => exact .nil
  | call _ induction => exact .cons trivial induction

theorem Answers.unique {otherAnswers : List Node} {otherFinal : σ}
    (given : Answers transform state nodes answers final)
    (alsoGiven : Answers transform state nodes otherAnswers otherFinal) :
    answers = otherAnswers ∧ final = otherFinal := by
  induction given generalizing otherAnswers with
  | done =>
      cases alsoGiven
      exact ⟨rfl, rfl⟩
  | call _ induction =>
      cases alsoGiven with
      | call later =>
          rcases induction later with ⟨rfl, rfl⟩
          exact ⟨rfl, rfl⟩

end

theorem mapChildren_mapChildren (first second : Node → Node) (node : Node) :
    (node.mapChildren first).mapChildren second = node.mapChildren (second ∘ first) := by
  rw [mapChildren, children_mapChildren, List.map_map, mapChildren]
  exact withChildren_withChildren _ (List.length_map _)

/-- A node is determined by the node it is remade from and by its children. -/
theorem Remade.eq_withChildren {below : Node → Node → Prop} {node result : Node}
    (remade : Remade below node result) : result = node.withChildren result.children := by
  rcases remade.exists_supply with ⟨supply, related, rfl⟩
  rw [children_withChildren related.length_eq.symm]

theorem run_mapChildrenM_eq_iff {σ : Type} {transform : Node → StateM σ Node}
    {node result : Node} {state final : σ} :
    (node.mapChildrenM transform).run state = (result, final) ↔
      Answers transform state node.children result.children final ∧
        Remade (fun _ _ => True) node result := by
  have given := answers_mapM transform node.children state
  have run_eq : (node.mapChildrenM transform).run state =
      (node.withChildren ((node.children.mapM transform).run state).1,
        ((node.children.mapM transform).run state).2) := rfl
  rw [run_eq]
  constructor
  · rintro ⟨⟩
    rw [children_withChildren given.forall₂.length_eq.symm]
    exact ⟨given, remade_withChildren given.forall₂⟩
  · rintro ⟨alsoGiven, remade⟩
    rcases given.unique alsoGiven with ⟨sameAnswers, sameFinal⟩
    rw [sameAnswers, sameFinal, ← remade.eq_withChildren]

/-- A function that keeps a state is called once for each child, in their order, and for nothing
else. What it answers are the children of the result, which agrees with the node in everything but
the children; there is no other such result. It makes no difference whether the children are listed
first or the node is gone through place by place. For functions that keep no state it follows that
the one that changes nothing gives back the node, and that two passes come to a single one. -/
theorem mapChildrenM_calls {σ : Type} (transform : Node → StateM σ Node) (node : Node)
    (state : σ) :
    (∀ result final, (node.mapChildrenM transform).run state = (result, final) ↔
        Answers transform state node.children result.children final ∧
          Remade (fun _ _ => True) node result) ∧
      node.mapChildrenM transform = node.mapPlacesM transform ∧
      (∀ change : Node → Node,
        node.mapChildrenM (fun child => (pure (change child) : StateM σ Node)) =
          pure (node.mapChildren change)) ∧
      node.mapChildren id = node ∧
      ∀ first second : Node → Node,
        (node.mapChildren first).mapChildren second = node.mapChildren (second ∘ first) := by
  refine ⟨fun result final => run_mapChildrenM_eq_iff, mapChildrenM_eq_mapPlacesM transform node,
    ?stateless, ?identity, fun first second => mapChildren_mapChildren first second node⟩
  case stateless =>
    intro change
    rw [mapChildrenM, List.mapM_pure, map_pure, mapChildren]
  case identity => rw [mapChildren, List.map_id, withChildren_children]

end Node

end PlaceholderTyping
