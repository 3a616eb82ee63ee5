import PlaceholderTyping.Proofs.Catalog.ScopeColumns
import PlaceholderTyping.Proofs.Occurrence.MentionedTables
import PlaceholderTyping.Proofs.Success
import PlaceholderTyping.Proofs.Typing.Resolution

/-!
# Placeholders that are assigned to columns

A placeholder that an `INSERT` or an `UPDATE` puts into a column takes the type that the catalog
tells of that column in the table of the statement. The other tables of the statement are of no
account.
-/

namespace PlaceholderTyping

/-! ## Surroundings of assigned values -/

namespace Surroundings

inductive AssignsTo : Surroundings → TableRef → Target Node → Prop where
  | inserted {rows : Select Node} {position : Nat} {statement : Insert Node} {above : Surroundings}
      {column : Target Node} (isColumn : statement.columns[position]? = some column) :
      AssignsTo ((.select rows, .rowValue position) :: (.insert statement, .source) :: above)
        statement.relation column
  | set {entry : Target Node} {role : Role} {statement : Update Node} {above : Surroundings} :
      AssignsTo ((.target entry, role) :: (.update statement, .assignment) :: above)
        statement.relation entry

variable {above : Surroundings} {relation : TableRef} {target : Target Node}

theorem AssignsTo.context (assigns : above.AssignsTo relation target) (parameter : Placeholder) :
    above.context parameter = .node (.target target) := by
  cases assigns with
  | inserted isColumn => simp [Surroundings.context, insertedColumn?, insertion?, isColumn]
  | set => rfl

theorem AssignsTo.table (assigns : above.AssignsTo relation target) (latest : Option TableRef) :
    above.table latest = some relation := by
  cases assigns with
  | inserted isColumn => simp [Surroundings.table, insertedColumn?, insertion?, isColumn]
  | set => rfl

theorem AssignsTo.exists_mentionedTable? (assigns : above.AssignsTo relation target) :
    ∃ ancestor ∈ above, ancestor.1.mentionedTable? = some relation := by
  cases assigns with
  | inserted | set => exact ⟨_, List.mem_cons_of_mem _ List.mem_cons_self, rfl⟩

end Surroundings

/-! ## What a catalog says of an assignment -/

def Parameter.ofColumn (names : PlaceholderNames) (ordinal : Nat) (table : QualifiedName)
    (name : String) (column : Column) : Parameter where
  ordinal := ordinal
  type := some {
    name := (names.get? ordinal).getD name
    dataType := column.type.dataType
    isNotNull := column.isNotNull
    isArray := column.isArray
    table := some table }

def CatalogView.assignedParameter (view : CatalogView) (names : PlaceholderNames) (ordinal : Nat)
    (table : QualifiedName) (target : Target Node) : Except TypingError Parameter :=
  match target.name with
  | none => .error (.missing .targetName target.location)
  | some name =>
      match view.lastColumn? table name with
      | none => .error (.columnNotFound name target.location)
      | some column => .ok (.ofColumn names ordinal table name column)

namespace CatalogView

variable {view : CatalogView} {names : PlaceholderNames} {ordinal : Nat} {table : QualifiedName}
  {target : Target Node}

theorem assignedParameter_eq_missing_iff :
    view.assignedParameter names ordinal table target =
        .error (.missing .targetName target.location) ↔
      target.name = none := by
  unfold assignedParameter
  cases target.name with
  | none => simp
  | some name => cases found : view.lastColumn? table name <;> simp [found]

theorem assignedParameter_eq_columnNotFound_iff {name : String} :
    view.assignedParameter names ordinal table target =
        .error (.columnNotFound name target.location) ↔
      target.name = some name ∧ view.lastColumn? table name = none := by
  unfold assignedParameter
  cases target.name with
  | none => simp
  | some given =>
      cases found : view.lastColumn? table given with
      | none =>
          simp only [found, Except.error.injEq, TypingError.columnNotFound.injEq, and_true,
            Option.some.injEq]
          exact iff_self_and.mpr fun same => same ▸ found
      | some column =>
          simp only [found, reduceCtorEq, Option.some.injEq, false_iff, not_and]
          intro same notFound
          rw [← same, found] at notFound
          cases notFound

theorem assignedParameter_eq_ok_iff {parameter : Parameter} :
    view.assignedParameter names ordinal table target = .ok parameter ↔
      ∃ name column, target.name = some name ∧ view.lastColumn? table name = some column ∧
        parameter = .ofColumn names ordinal table name column := by
  unfold assignedParameter
  cases target.name with
  | none => simp
  | some name => cases found : view.lastColumn? table name <;> simp [found, eq_comm]

end CatalogView

/-- An occurrence under a target is resolved by the catalog alone, if it comes with a table whose
columns the scope has as the catalog tells them. -/
theorem resolve_of_target {config : Config} {view : CatalogView} {names : PlaceholderNames}
    {tables : List TableRef} {occurrence : Occurrence} {relation : TableRef} {target : Target Node}
    (context : occurrence.context = .node (.target target))
    (table : occurrence.table = some relation)
    (known : ∀ name, (Scope.ofTables view tables).column? relation.tableName name =
      view.lastColumn? relation.tableName name) :
    resolve config view tables [occurrence] names =
      ([·]) <$> view.assignedParameter names occurrence.ordinal relation.tableName target := by
  have outcome : occurrence.outcome config view (.ofTables view tables) =
      .typed <$> Inference.ofTarget (.ofTables view tables) (some relation) target := by
    rw [Occurrence.outcome, context, table]
  rw [resolve_singleton, Occurrence.parameter?, outcome, Inference.ofTarget,
    CatalogView.assignedParameter]
  cases target.name with
  | none => rfl
  | some name =>
      simp only [Option.map_some, Option.some_or, known]
      cases view.lastColumn? relation.tableName name <;> rfl

/-! ## Assigned placeholders -/

theorem Statement.mem_tables_of_assignsTo {statement : Statement} {before : List Appearance}
    {parameter : Placeholder} {above : Surroundings} {relation : TableRef} {target : Target Node}
    (isFirst : Appearance.IsFirst statement.appearances before parameter above)
    (assigns : above.AssignsTo relation target) :
    relation ∈ statement.findPlaceholders.tables := by
  rcases isFirst.appears with ⟨after, split⟩
  rcases assigns.exists_mentionedTable? with ⟨ancestor, isAbove, mentions⟩
  have appears : ⟨.placeholder parameter, above⟩ ∈ statement.appearances :=
    split ▸ List.mem_append_right _ List.mem_cons_self
  exact mem_tables_of_mem_above appears isAbove mentions

/-- Suppose that no table is mentioned with an empty schema, and that the first placeholder of its
ordinal goes into a column itself. What is found of it resolves to what the catalog says of the
assignment, and nothing else of the statement has a part in that. -/
theorem Statement.resolve_assigned {config : Config} {view : CatalogView} {statement : Statement}
    {names : PlaceholderNames} {before : List Appearance} {parameter : Placeholder}
    {above : Surroundings} {relation : TableRef} {target : Target Node}
    (noEmptySchema : ∀ table ∈ statement.findPlaceholders.tables, table.schema ≠ some "")
    (isFirst : Appearance.IsFirst statement.appearances before parameter above)
    (assigns : above.AssignsTo relation target) :
    let found := statement.findPlaceholders
    let table := relation.tableName
    ∃ occurrence, found.occurrences.find? (·.ordinal = parameter.ordinal) = some occurrence ∧
      let resolved := resolve config view found.tables [occurrence] names
      resolved = ([·]) <$> view.assignedParameter names parameter.ordinal table target ∧
        (resolved = .error (.missing .targetName target.location) ↔ target.name = none) ∧
        (∀ name, resolved = .error (.columnNotFound name target.location) ↔
          target.name = some name ∧
            ((∃ failure, view.table table = .error failure) ∨
              ∃ source, view.table table = .ok source ∧
                ∀ column ∈ source.columns, column.name ≠ name)) ∧
        ∀ parameters, resolved = .ok parameters ↔
          ∃ name source column,
            target.name = some name ∧ view.table table = .ok source ∧
              source.lastColumn? name = some column ∧
              parameters = [.ofColumn names parameter.ordinal table name column] := by
  intro found table
  refine ⟨_, find?_occurrences_of_isFirst isFirst, ?_⟩
  intro resolved
  have isMentioned : relation ∈ found.tables := mem_tables_of_assignsTo isFirst assigns
  have resolvedIs : resolved =
      ([·]) <$> view.assignedParameter names parameter.ordinal table target :=
    resolve_of_target (assigns.context parameter) (assigns.table _)
      (Scope.column?_ofTables noEmptySchema isMentioned)
  refine ⟨resolvedIs, ?_, ?_, ?_⟩
  · rw [resolvedIs, map_eq_error_iff, CatalogView.assignedParameter_eq_missing_iff]
  · intro name
    rw [resolvedIs, map_eq_error_iff, CatalogView.assignedParameter_eq_columnNotFound_iff,
      CatalogView.lastColumn?_eq_none_iff]
  · intro parameters
    rw [resolvedIs, map_eq_ok_iff]
    simp only [CatalogView.assignedParameter_eq_ok_iff, CatalogView.lastColumn?_eq_some_iff]
    constructor
    · intro succeeds
      rcases succeeds with ⟨_, ⟨name, column, named, ⟨source, isTable, isColumn⟩, rfl⟩, rfl⟩
      exact ⟨name, source, column, named, isTable, isColumn, rfl⟩
    · intro succeeds
      rcases succeeds with ⟨name, source, column, named, isTable, isColumn, rfl⟩
      exact ⟨_, ⟨name, column, named, ⟨source, isTable, isColumn⟩, rfl⟩, rfl⟩

/-! ## A table that shares its name with another one -/

namespace Catalog

def withOrdersInTwoSchemas : Catalog :=
  let orders (type : String) : Table :=
    { name := "orders", columns := [.ofType "note" { name := type }] }
  ((empty "public").addTable "public" (orders "int4")).addTable "shop" (orders "text")

end Catalog

namespace Statement

def shopOrders : TableRef where
  schema := some "shop"
  relation := "orders"
  location := 12

def firstOrder : Node :=
  .select {
    targets := [
      .target {
        name := none
        value := some <| .column { fields := [.text "id"], location := 51 }
        location := 51 }]
    sources := [.table { relation := "orders", location := 59 }]
    filter := none
    rows := []
    limit := none
    offset := none }

def orderRows : Select Node where
  targets := []
  sources := []
  filter := none
  rows := [
    [firstOrder, .placeholder { ordinal := 1, location := 68 }],
    [.integer 2, .placeholder { ordinal := 1, location := 77 }]]
  limit := none
  offset := none

def noteColumn : Target Node where
  name := some "note"
  value := none
  location := 29

def orderInsert : Insert Node where
  relation := shopOrders
  columns := [{ name := some "id", value := none, location := 25 }, noteColumn]
  source := some (.select orderRows)
  returning := []

/-- `INSERT INTO shop.orders (id, note) VALUES ((SELECT id FROM orders), $1), (2, $1)` -/
def insertAfterOtherOrders : Statement where
  root := .insert orderInsert
  location := 0
  length := 80

theorem tables_insertAfterOtherOrders :
    insertAfterOtherOrders.findPlaceholders.tables =
      [shopOrders, { relation := "orders", location := 59 }] := by
  cbv

theorem find?_appearances_insertAfterOtherOrders :
    insertAfterOtherOrders.appearances.find? (·.hasOrdinal 1) =
      some {
        node := .placeholder { ordinal := 1, location := 68 }
        above := [(.select orderRows, .rowValue 1), (.insert orderInsert, .source)] } := by
  cbv

/-- The other table of that name is the one mentioned last before the placeholder. -/
theorem resolve_insertAfterOtherOrders :
    let found := insertAfterOtherOrders.findPlaceholders
    ∃ occurrence, found.occurrences.find? (·.ordinal = 1) = some occurrence ∧
      resolve {} Catalog.withOrdersInTwoSchemas.view found.tables [occurrence] ∅ =
        .ok [{
          ordinal := 1
          type := some {
            name := "note"
            dataType := "text"
            isNotNull := false
            isArray := false
            table := some { schema := some "shop", name := "orders" } } }] := by
  intro found
  have noEmptySchema : ∀ table ∈ found.tables, table.schema ≠ some "" := by
    unfold found
    rw [tables_insertAfterOtherOrders]
    decide
  have isFirst := (Appearance.isFirst_iff _ _ { ordinal := 1, location := 68 } _).mpr
    ⟨find?_appearances_insertAfterOtherOrders, rfl⟩
  rcases resolve_assigned noEmptySchema isFirst (.inserted rfl) with
    ⟨occurrence, isFound, _, _, _, succeeds⟩
  refine ⟨occurrence, isFound, (succeeds _).mpr ?_⟩
  exact ⟨"note", { name := "orders", columns := [.ofType "note" { name := "text" }] },
    .ofType "note" { name := "text" }, rfl, rfl, rfl, rfl⟩

end Statement

end PlaceholderTyping
