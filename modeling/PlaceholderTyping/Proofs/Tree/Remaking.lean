import Mathlib.Data.List.Forall2
import PlaceholderTyping.Tree.Children

/-!
# Remade nodes

What it means that a node differs from another one in its children only, field by field and without
the list of children. The main statements are that a node filled with other children is such a
node, and that every such node comes about that way.
-/

namespace PlaceholderTyping

/-! ## Related content of places -/

section

variable {α : Type} {below : α → α → Prop}

theorem forall₂_toList {place filled : Option α} (related : Option.Rel below place filled) :
    List.Forall₂ below place.toList filled.toList := by
  cases related with
  | some contentBelow => exact .cons contentBelow .nil
  | none => exact .nil

theorem map_eq_map_of_related {β : Type} {transform other : α → β} {values results : List α}
    (related : List.Forall₂ below values results)
    (alike : ∀ value ∈ values, ∀ result, below value result → other result = transform value) :
    results.map other = values.map transform := by
  induction related with
  | nil => rfl
  | cons firstBelow _ induction =>
      rw [List.map_cons, List.map_cons, alike _ List.mem_cons_self _ firstBelow, induction]
      intro value member
      exact alike value (List.mem_cons_of_mem _ member)

theorem eq_map_of_related {transform : α → α} {values results : List α}
    (related : List.Forall₂ below values results)
    (determined : ∀ value ∈ values, ∀ result, below value result → result = transform value) :
    results = values.map transform :=
  (List.map_id results).symm.trans (map_eq_map_of_related related determined)

/-- A supply that is related to the places and to more besides is divided accordingly. -/
theorem exists_refillList_related {places rest supply : List α}
    (related : List.Forall₂ below (places ++ rest) supply) :
    ∃ filled left, refillList places supply = (filled, left) ∧
      List.Forall₂ below places filled ∧ List.Forall₂ below rest left := by
  induction places generalizing supply with
  | nil => exact ⟨[], supply, by rw [refillList], .nil, related⟩
  | cons place places induction =>
      cases related with
      | cons placeBelow remaining =>
          rcases induction remaining with ⟨filled, left, refilled, placesBelow, restBelow⟩
          exact ⟨_, left, by rw [refillList, refilled], .cons placeBelow placesBelow, restBelow⟩

theorem exists_refillOption_related {place : Option α} {rest supply : List α}
    (related : List.Forall₂ below (place.toList ++ rest) supply) :
    ∃ filled left, refillOption place supply = (filled, left) ∧
      Option.Rel below place filled ∧ List.Forall₂ below rest left := by
  cases place with
  | none => exact ⟨none, supply, by rw [refillOption]; rintro _ _ _ ⟨⟩, .none, related⟩
  | some content =>
      cases related with
      | cons contentBelow remaining => exact ⟨_, _, rfl, .some contentBelow, remaining⟩

theorem exists_refillRows_related {rows : List (List α)} {rest supply : List α}
    (related : List.Forall₂ below (rows.flatten ++ rest) supply) :
    ∃ filled left, refillRows rows supply = (filled, left) ∧
      List.Forall₂ (List.Forall₂ below) rows filled ∧ List.Forall₂ below rest left := by
  induction rows generalizing supply with
  | nil => exact ⟨[], supply, by rw [refillRows], .nil, related⟩
  | cons row rows induction =>
      rw [List.flatten_cons, List.append_assoc] at related
      rcases exists_refillList_related related with ⟨newRow, afterRow, rowFilled, rowBelow, others⟩
      rcases induction others with ⟨newRows, left, rowsFilled, rowsBelow, restBelow⟩
      refine ⟨newRow :: newRows, left, ?_, .cons rowBelow rowsBelow, restBelow⟩
      simp only [refillRows, rowFilled, rowsFilled]

theorem refillList_append_of_related {places filled : List α}
    (related : List.Forall₂ below places filled) (rest : List α) :
    refillList places (filled ++ rest) = (filled, rest) := by
  induction related with
  | nil => rw [List.nil_append, refillList]
  | cons _ _ induction => rw [List.cons_append, refillList, induction]

theorem refillOption_append_of_related {place filled : Option α}
    (related : Option.Rel below place filled) (rest : List α) :
    refillOption place (filled.toList ++ rest) = (filled, rest) := by
  cases related with
  | some => rfl
  | none => rw [Option.toList_none, List.nil_append, refillOption]; rintro _ _ _ ⟨⟩

theorem refillRows_append_of_related {rows filled : List (List α)}
    (related : List.Forall₂ (List.Forall₂ below) rows filled) (rest : List α) :
    refillRows rows (filled.flatten ++ rest) = (filled, rest) := by
  induction related with
  | nil => rw [List.flatten_nil, List.nil_append, refillRows]
  | cons rowBelow _ induction =>
      simp only [List.flatten_cons, List.append_assoc, refillRows,
        refillList_append_of_related rowBelow, induction]

theorem refillList_of_related {places filled : List α}
    (related : List.Forall₂ below places filled) : refillList places filled = (filled, []) := by
  simpa using refillList_append_of_related related []

theorem refillOption_of_related {place filled : Option α}
    (related : Option.Rel below place filled) :
    refillOption place filled.toList = (filled, []) := by
  simpa using refillOption_append_of_related related []

end

namespace Node

/-- A node and another one of its kind that agree in everything but the children, which are related
place by place: what was absent stays absent, and lists and rows keep their lengths. -/
inductive Remade (below : Node → Node → Prop) : Node → Node → Prop where
  | list {items newItems : List Node} (itemsBelow : List.Forall₂ below items newItems) :
      Remade below (.list items) (.list newItems)
  | text (value : String) : Remade below (.text value) (.text value)
  | integer (value : Int) : Remade below (.integer value) (.integer value)
  | float (value : FloatLiteral) : Remade below (.float value) (.float value)
  | null : Remade below .null .null
  | constant {value newValue : Node} (valueBelow : below value newValue) (location : Nat) :
      Remade below (.constant value location) (.constant newValue location)
  | table (reference : TableRef) : Remade below (.table reference) (.table reference)
  | column (reference : ColumnRef Node) {fields : List Node}
      (fieldsBelow : List.Forall₂ below reference.fields fields) :
      Remade below (.column reference) (.column { reference with fields })
  | operation (expression : Operation Node) {left right : Option Node}
      (leftBelow : Option.Rel below expression.left left)
      (rightBelow : Option.Rel below expression.right right) :
      Remade below (.operation expression) (.operation { expression with left, right })
  | condition (expression : Condition Node) {operands : List Node}
      (operandsBelow : List.Forall₂ below expression.operands operands) :
      Remade below (.condition expression) (.condition { expression with operands })
  | call (expression : Call Node) {arguments : List Node}
      (argumentsBelow : List.Forall₂ below expression.arguments arguments) :
      Remade below (.call expression) (.call { expression with arguments })
  | namedArgument (argument : NamedArgument Node) {value : Node}
      (valueBelow : below argument.value value) :
      Remade below (.namedArgument argument) (.namedArgument { argument with value })
  | cast (expression : Cast Node) {operand : Node}
      (operandBelow : below expression.operand operand) :
      Remade below (.cast expression) (.cast { expression with operand })
  | target (entry : Target Node) {value : Option Node}
      (valueBelow : Option.Rel below entry.value value) :
      Remade below (.target entry) (.target { entry with value })
  | placeholder (parameter : Placeholder) :
      Remade below (.placeholder parameter) (.placeholder parameter)
  | select (statement : Select Node) {targets sources : List Node} {filter : Option Node}
      {rows : List (List Node)} {limit offset : Option Node}
      (targetsBelow : List.Forall₂ below statement.targets targets)
      (sourcesBelow : List.Forall₂ below statement.sources sources)
      (filterBelow : Option.Rel below statement.filter filter)
      (rowsBelow : List.Forall₂ (List.Forall₂ below) statement.rows rows)
      (limitBelow : Option.Rel below statement.limit limit)
      (offsetBelow : Option.Rel below statement.offset offset) :
      Remade below (.select statement)
        (.select { targets, sources, filter, rows, limit, offset })
  | insert (statement : Insert Node) {source : Option Node} {returning : List Node}
      (sourceBelow : Option.Rel below statement.source source)
      (returningBelow : List.Forall₂ below statement.returning returning) :
      Remade below (.insert statement) (.insert { statement with source, returning })
  | update (statement : Update Node) {assignments sources : List Node} {filter : Option Node}
      {returning : List Node}
      (assignmentsBelow : List.Forall₂ below statement.assignments assignments)
      (sourcesBelow : List.Forall₂ below statement.sources sources)
      (filterBelow : Option.Rel below statement.filter filter)
      (returningBelow : List.Forall₂ below statement.returning returning) :
      Remade below (.update statement)
        (.update { statement with assignments, sources, filter, returning })
  | delete (statement : Delete Node) {filter : Option Node} {returning : List Node}
      (filterBelow : Option.Rel below statement.filter filter)
      (returningBelow : List.Forall₂ below statement.returning returning) :
      Remade below (.delete statement) (.delete { statement with filter, returning })

end Node

namespace Select

variable {below : Node → Node → Prop}

theorem remade_withChildren {select : Select Node} {supply : List Node}
    (related : List.Forall₂ below select.children supply) :
    Node.Remade below (.select select) (.select (select.withChildren supply)) := by
  simp only [children, List.append_assoc] at related
  rw [← List.append_nil select.offset.toList] at related
  rcases exists_refillList_related related with ⟨_, _, targets, targetsBelow, related⟩
  rcases exists_refillList_related related with ⟨_, _, sources, sourcesBelow, related⟩
  rcases exists_refillOption_related related with ⟨_, _, filter, filterBelow, related⟩
  rcases exists_refillRows_related related with ⟨_, _, rows, rowsBelow, related⟩
  rcases exists_refillOption_related related with ⟨_, _, limit, limitBelow, related⟩
  rcases exists_refillOption_related related with ⟨_, _, offset, offsetBelow, _⟩
  simp only [withChildren, targets, sources, filter, rows, limit, offset]
  exact .select select targetsBelow sourcesBelow filterBelow rowsBelow limitBelow offsetBelow

end Select

namespace Update

variable {below : Node → Node → Prop}

theorem remade_withChildren {update : Update Node} {supply : List Node}
    (related : List.Forall₂ below update.children supply) :
    Node.Remade below (.update update) (.update (update.withChildren supply)) := by
  simp only [children, List.append_assoc] at related
  rw [← List.append_nil update.returning] at related
  rcases exists_refillList_related related with ⟨_, _, assignments, assignmentsBelow, related⟩
  rcases exists_refillList_related related with ⟨_, _, sources, sourcesBelow, related⟩
  rcases exists_refillOption_related related with ⟨_, _, filter, filterBelow, related⟩
  rcases exists_refillList_related related with ⟨_, _, returning, returningBelow, _⟩
  simp only [withChildren, assignments, sources, filter, returning]
  exact .update update assignmentsBelow sourcesBelow filterBelow returningBelow

end Update

namespace Node

variable {below : Node → Node → Prop}

/-- A node filled with related children is the node remade. -/
theorem remade_withChildren {node : Node} {supply : List Node}
    (related : List.Forall₂ below node.children supply) :
    Remade below node (node.withChildren supply) := by
  cases node with
  | list | column | condition | call =>
      rw [children] at related
      simp only [withChildren, refillList_of_related related]
      constructor
      exact related
  | constant | namedArgument | cast =>
      rcases related with _ | ⟨valueBelow, _ | _⟩
      constructor
      exact valueBelow
  | operation expression =>
      rw [children, ← List.append_nil expression.right.toList] at related
      rcases exists_refillOption_related related with ⟨_, _, left, leftBelow, related⟩
      rcases exists_refillOption_related related with ⟨_, _, right, rightBelow, _⟩
      simp only [withChildren, left, right]
      exact .operation expression leftBelow rightBelow
  | target entry =>
      rw [children, ← List.append_nil entry.value.toList] at related
      rcases exists_refillOption_related related with ⟨_, _, value, valueBelow, _⟩
      simp only [withChildren, value]
      exact .target entry valueBelow
  | select statement => exact Select.remade_withChildren related
  | insert statement =>
      rw [children, ← List.append_nil statement.returning] at related
      rcases exists_refillOption_related related with ⟨_, _, source, sourceBelow, related⟩
      rcases exists_refillList_related related with ⟨_, _, returning, returningBelow, _⟩
      simp only [withChildren, source, returning]
      exact .insert statement sourceBelow returningBelow
  | update statement => exact Update.remade_withChildren related
  | delete statement =>
      rw [children, ← List.append_nil statement.returning] at related
      rcases exists_refillOption_related related with ⟨_, _, filter, filterBelow, related⟩
      rcases exists_refillList_related related with ⟨_, _, returning, returningBelow, _⟩
      simp only [withChildren, filter, returning]
      exact .delete statement filterBelow returningBelow
  | text | integer | float | null | table | placeholder => constructor

/-- A remade node has related children, and nothing else about it is new. -/
theorem Remade.exists_supply {node result : Node} (remade : Remade below node result) :
    ∃ supply, List.Forall₂ below node.children supply ∧ result = node.withChildren supply := by
  cases remade with
  | list filled | column _ filled | condition _ filled | call _ filled =>
      refine ⟨_, filled, ?_⟩
      simp only [withChildren, refillList_of_related filled]
  | constant filled | namedArgument _ filled | cast _ filled =>
      exact ⟨[_], .cons filled .nil, rfl⟩
  | operation _ left right =>
      refine ⟨_, List.rel_append (forall₂_toList left) (forall₂_toList right), ?_⟩
      simp only [withChildren, refillOption_append_of_related left, refillOption_of_related right]
  | target _ value =>
      refine ⟨_, forall₂_toList value, ?_⟩
      simp only [withChildren, refillOption_of_related value]
  | select _ targets sources filter rows limit offset =>
      refine ⟨_, List.rel_append (List.rel_append (List.rel_append (List.rel_append
        (List.rel_append targets sources) (forall₂_toList filter)) (List.rel_flatten rows))
        (forall₂_toList limit)) (forall₂_toList offset), ?_⟩
      simp only [withChildren, Select.withChildren, List.append_assoc,
        refillList_append_of_related targets, refillList_append_of_related sources,
        refillOption_append_of_related filter, refillRows_append_of_related rows,
        refillOption_append_of_related limit, refillOption_of_related offset]
  | insert _ source returning =>
      refine ⟨_, List.rel_append (forall₂_toList source) returning, ?_⟩
      simp only [withChildren, refillOption_append_of_related source,
        refillList_of_related returning]
  | update _ assignments sources filter returning =>
      refine ⟨_, List.rel_append (List.rel_append (List.rel_append assignments sources)
        (forall₂_toList filter)) returning, ?_⟩
      simp only [withChildren, Update.withChildren, List.append_assoc,
        refillList_append_of_related assignments, refillList_append_of_related sources,
        refillOption_append_of_related filter, refillList_of_related returning]
  | delete _ filter returning =>
      refine ⟨_, List.rel_append (forall₂_toList filter) returning, ?_⟩
      simp only [withChildren, refillOption_append_of_related filter,
        refillList_of_related returning]
  | text | integer | float | null | table | placeholder => exact ⟨[], .nil, rfl⟩

theorem remade_mapChildren {node : Node} {transform : Node → Node}
    (ofChildren : ∀ child ∈ node.children, below child (transform child)) :
    Remade below node (node.mapChildren transform) := by
  apply remade_withChildren
  rw [List.forall₂_map_right_iff, List.forall₂_same]
  exact ofChildren

/-- If the children determine what takes their places, the node determines the remade one. -/
theorem Remade.eq_mapChildren {node result : Node} {transform : Node → Node}
    (remade : Remade below node result)
    (determined : ∀ child ∈ node.children, ∀ new, below child new → new = transform child) :
    result = node.mapChildren transform := by
  rcases remade.exists_supply with ⟨supply, related, rfl⟩
  rw [eq_map_of_related related determined, mapChildren]

end Node

end PlaceholderTyping
