import PlaceholderTyping.Occurrence.Search
import PlaceholderTyping.Proofs.Tree.Appearance

/-!
# Contexts and tables from surroundings

The context of a placeholder, and the table that goes with it, are read off the nodes above the
placeholder, without following places down the tree. The main statements are that the place which a
node is given on the way down says the same.
-/

namespace PlaceholderTyping

namespace Node

def tellsType : Node → Bool
  | .operation _ | .call _ | .cast _ | .target _ => true
  | _ => false

def isStatement : Node → Bool
  | .select _ | .insert _ | .update _ | .delete _ => true
  | _ => false

end Node

/-! ## Reading surroundings -/

namespace Surroundings

def typingNode? (above : Surroundings) : Option Node :=
  ((above.map Prod.fst).takeWhile (!·.isStatement)).find? Node.tellsType

def insertion? : Surroundings → Option (TableRef × List (Target Node))
  | (.insert statement, .source) :: _ => some (statement.relation, statement.columns)
  | _ => none

def assignment? : Surroundings → Option TableRef
  | (.update statement, .assignment) :: _ => some statement.relation
  | _ => none

/-- The column into which an `INSERT` puts the node, as a value at the column's position in a row,
and the table of that column. -/
def insertedColumn? : Surroundings → Option (TableRef × Target Node)
  | (.select _, .rowValue position) :: above =>
      (insertion? above).bind fun (relation, columns) =>
        columns[position]?.map fun column => (relation, column)
  | _ => none

def assignedTable? : Surroundings → Option TableRef
  | (.target _, _) :: above => assignment? above
  | _ => none

def context (parameter : Placeholder) (above : Surroundings) : Context :=
  match above with
  | (.select _, .limit) :: _ => .limit
  | (.select _, .offset) :: _ => .offset
  | _ =>
      match above.insertedColumn? with
      | some (_, column) => .node (.target column)
      | none => .node (above.typingNode?.getD (.placeholder parameter))

def table (latest : Option TableRef) (above : Surroundings) : Option TableRef :=
  match above with
  | (.select _, .limit) :: _ | (.select _, .offset) :: _ => none
  | _ => (above.insertedColumn?.map Prod.fst).or (above.assignedTable?.or latest)

end Surroundings

/-! ## Places by role -/

def Owner.table (latest : Option TableRef) : Owner → Option TableRef
  | .fixed table => table
  | .latest => latest

namespace Place

def insertion? : Place → Option (TableRef × List (Target Node))
  | .insertSource relation columns => some (relation, columns)
  | _ => none

def assignment? : Place → Option TableRef
  | .assignment relation => some relation
  | _ => none

def below (place : Place) (node : Node) (role : Role) : Place :=
  match node, role with
  | .select _, .limit => .limit
  | .select _, .offset => .offset
  | .select _, .rowValue position =>
      match place.insertion?.bind fun (relation, columns) =>
          columns[position]?.map fun column => (relation, column) with
      | some (relation, column) => .columnValue relation column
      | none => .under none
  | .insert statement, .source => .insertSource statement.relation statement.columns
  | .update statement, .assignment => .assignment statement.relation
  | .select _, _ | .insert _, _ | .update _, _ | .delete _, _ => .under none
  | .operation _, _ | .call _, _ | .cast _, _ => .under (some node)
  | .target entry, _ =>
      match place.assignment? with
      | some relation => .assignedValue relation entry
      | none => .under (some node)
  | _, _ => .under place.parent

theorem below_rowValue (place : Place) (statement : Select Node) (position : Nat) :
    place.below (.select statement) (.rowValue position) =
      match place.insertion?.bind fun (relation, columns) =>
          columns[position]?.map fun column => (relation, column) with
      | some (relation, column) => .columnValue relation column
      | none => .under none := rfl

theorem below_target (place : Place) (entry : Target Node) (role : Role) :
    place.below (.target entry) role =
      match place.assignment? with
      | some relation => .assignedValue relation entry
      | none => .under (some (.target entry)) := rfl

def ofSurroundings (above : Surroundings) : Place :=
  above.foldr (fun (node, role) place => place.below node role) (.under none)

theorem ofSurroundings_cons (node : Node) (role : Role) (above : Surroundings) :
    ofSurroundings ((node, role) :: above) = (ofSurroundings above).below node role := rfl

end Place

/-! ## Places of children -/

theorem placeRow_drop (relation : TableRef) (columns : List (Target Node)) (statement : Select Node)
    (row : List Node) (start : Nat) :
    placeRow relation (columns.drop start) row =
      (row.zipIdx start).map fun (value, position) =>
        ((Place.insertSource relation columns).below (.select statement) (.rowValue position),
          value) := by
  induction row generalizing start with
  | nil => rw [placeRow]; rfl
  | cons value values induction =>
      rw [List.zipIdx_cons, List.map_cons, ← induction (start + 1)]
      by_cases within : start < columns.length
      · rw [List.drop_eq_getElem_cons within, placeRow]
        simp [Place.below_rowValue, Place.insertion?, within]
      · have noColumn : columns.drop start = [] := List.drop_eq_nil_of_le (by omega)
        have noLaterColumn : columns.drop (start + 1) = [] := List.drop_eq_nil_of_le (by omega)
        rw [noColumn, noLaterColumn]
        cases values <;> simp [placeRow, Place.below_rowValue, Place.insertion?, within]

theorem map_below_rowRoles (relation : TableRef) (columns : List (Target Node))
    (statement : Select Node) (row : List Node) :
    (Node.rowRoles row).map (fun (role, value) =>
        ((Place.insertSource relation columns).below (.select statement) role, value)) =
      placeRow relation columns row := by
  have placed := placeRow_drop relation columns statement row 0
  rw [List.drop_zero] at placed
  rw [placed, Node.rowRoles, List.map_map]
  rfl

theorem map_below_rowRoles_of_insertion?_eq_none {place : Place}
    (noInsertion : place.insertion? = none) (statement : Select Node) (row : List Node) :
    (Node.rowRoles row).map (fun (role, value) => (place.below (.select statement) role, value)) =
      row.map (.under none, ·) := by
  conv_rhs => rw [← Node.map_snd_rowRoles row]
  rw [Node.rowRoles, List.map_map, List.map_map, List.map_map]
  apply List.map_congr_left
  intro entry _
  simp [Place.below_rowValue, noInsertion]

theorem Node.placed_eq_map_roles (place : Place) (node : Node) :
    node.placed place = node.roles.map fun (role, child) => (place.below node role, child) := by
  cases node with
  | select statement =>
      have rowPlaces : ∀ row, (rowRoles row).map (fun (role, value) =>
          (place.below (.select statement) role, value)) =
            match place with
            | .insertSource relation columns => placeRow relation columns row
            | _ => row.map (.under none, ·) := by
        intro row
        cases place with
        | insertSource relation columns => exact map_below_rowRoles relation columns statement row
        | _ => exact map_below_rowRoles_of_insertion?_eq_none rfl statement row
      simp only [roles, List.map_append, List.map_flatMap, rowPlaces]
      cases place <;>
        simp [placed, Select.placed, Place.below, Function.comp_def, List.flatMap_def]
  | target entry =>
      cases place <;> simp [placed, roles, Place.below, Place.assignment?, Function.comp_def]
  | _ => simp [placed, roles, Place.below, Function.comp_def]

/-! ## What a place tells -/

namespace Place

/-- Only the parent decides whether a node is the source of an `INSERT` or an assignment. -/
theorem source_assignment_ofSurroundings (above : Surroundings) :
    (ofSurroundings above).insertion? = above.insertion? ∧
      (ofSurroundings above).assignment? = above.assignment? := by
  cases above with
  | nil => exact ⟨rfl, rfl⟩
  | cons parent above =>
      rcases parent with ⟨node, role⟩
      rw [ofSurroundings_cons]
      cases node with
      | select =>
          cases role with
          | rowValue => rw [below_rowValue]; split <;> exact ⟨rfl, rfl⟩
          | _ => exact ⟨rfl, rfl⟩
      | insert | update => cases role <;> exact ⟨rfl, rfl⟩
      | target => rw [below_target]; split <;> exact ⟨rfl, rfl⟩
      | _ => exact ⟨rfl, rfl⟩

theorem parent_ofSurroundings (above : Surroundings) :
    (ofSurroundings above).parent = above.typingNode? := by
  induction above with
  | nil => rfl
  | cons parent above induction =>
      rcases parent with ⟨node, role⟩
      rw [ofSurroundings_cons]
      cases node with
      | select =>
          cases role with
          | rowValue => rw [below_rowValue]; split <;> rfl
          | _ => rfl
      | insert | update => cases role <;> rfl
      | target => rw [below_target]; split <;> rfl
      | operation | call | cast | delete => rfl
      | _ => exact induction

theorem context_ofSurroundings (parameter : Placeholder) (above : Surroundings) :
    (ofSurroundings above).context parameter = above.context parameter := by
  cases above with
  | nil => rfl
  | cons parent above =>
      rcases parent with ⟨node, role⟩
      have parentIs := parent_ofSurroundings ((node, role) :: above)
      rw [ofSurroundings_cons] at parentIs ⊢
      cases node with
      | select =>
          cases role with
          | rowValue =>
              simp only [below_rowValue, Surroundings.context, Surroundings.insertedColumn?,
                (source_assignment_ofSurroundings above).1]
              split <;> rfl
          | _ => rfl
      | insert | update => cases role <;> rfl
      | target => rw [below_target]; split <;> rfl
      | operation | call | cast | delete => rfl
      | _ =>
          exact congrArg (fun node? : Option Node =>
            Context.node (node?.getD (.placeholder parameter))) parentIs

theorem table_owner_ofSurroundings (latest : Option TableRef) (above : Surroundings) :
    (ofSurroundings above).owner.table latest = above.table latest := by
  cases above with
  | nil => rfl
  | cons parent above =>
      rcases parent with ⟨node, role⟩
      rw [ofSurroundings_cons]
      cases node with
      | select =>
          cases role with
          | rowValue =>
              simp only [below_rowValue, Surroundings.table, Surroundings.insertedColumn?,
                (source_assignment_ofSurroundings above).1]
              generalize Option.bind (Surroundings.insertion? above) _ = column?
              cases column? <;> rfl
          | _ => rfl
      | insert | update => cases role <;> rfl
      | target =>
          simp only [below_target, Surroundings.table, Surroundings.insertedColumn?,
            Surroundings.assignedTable?, (source_assignment_ofSurroundings above).2]
          cases Surroundings.assignment? above <;> rfl
      | _ => rfl

end Place

end PlaceholderTyping
