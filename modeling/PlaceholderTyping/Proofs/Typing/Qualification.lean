import Mathlib
import PlaceholderTyping.Proofs.Catalog.History
import PlaceholderTyping.Proofs.Catalog.ScopeColumns
import PlaceholderTyping.Proofs.Occurrence.MentionedTables
import PlaceholderTyping.Proofs.Typing.Relabeling

/-!
# Statements with all schemas written out

A table that is mentioned without a schema lives in the default one. If that schema is written
wherever there is none, the same tables are found under the same aliases and names, although the
mentions with and without it have been different before.
-/

namespace PlaceholderTyping

/-! ## Tables -/

theorem Catalog.lastColumn?_qualify (catalog : Catalog) (name : QualifiedName) (column : String) :
    catalog.view.lastColumn? (name.relabel (.qualify catalog.defaultSchema)) column =
      catalog.view.lastColumn? name column := by
  have sameTable : (catalog.table (name.relabel (.qualify catalog.defaultSchema))).toOption =
      (catalog.table name).toOption := by
    rw [toOption_table, toOption_table]
    rfl
  exact congrArg (Option.bind · (·.lastColumn? column)) sameTable

/-- With an empty schema a table would share its key with a table that has none, and only one of
their columns would be known. -/
theorem Catalog.keepsColumns_qualify (catalog : Catalog) {tables : List TableRef}
    (noEmptySchema : ∀ table ∈ tables, table.schema ≠ some "") :
    (Relabeling.qualify catalog.defaultSchema).KeepsColumns catalog.view tables
      (· ∈ tables.map TableRef.tableName) where
  mentioned table mentioned := List.mem_map_of_mem mentioned
  columns name isName column := by
    rcases List.mem_map.mp isName with ⟨table, mentioned, rfl⟩
    have unambiguous : ∀ other ∈ tables.map (TableRef.relabel (.qualify catalog.defaultSchema)),
        other.tableName.key =
          (table.relabel (.qualify catalog.defaultSchema)).tableName.key →
        other.tableName = (table.relabel (.qualify catalog.defaultSchema)).tableName := by
      intro other otherMentioned
      rcases List.mem_map.mp otherMentioned with ⟨_, _, rfl⟩
      exact QualifiedName.eq_of_key_eq_of_isSome rfl rfl
    rw [← TableRef.tableName_relabel,
      Scope.column?_ofTables_of_unambiguous (List.mem_map_of_mem mentioned) unambiguous,
      TableRef.tableName_relabel, catalog.lastColumn?_qualify,
      Scope.column?_ofTables noEmptySchema mentioned]

/-! ## Errors -/

theorem TypingError.relabel_qualify (schema : String) (failure : TypingError) :
    failure.relabel (.qualify schema) = failure := by
  cases failure <;> rfl

theorem relabelResult_qualify {α β : Type} (schema : String) (transform : α → β)
    (result : Except TypingError α) :
    relabelResult (.qualify schema) transform result = transform <$> result := by
  cases result with
  | error failure => exact congrArg Except.error (failure.relabel_qualify schema)
  | ok value => rfl

/-! ## Statements -/

/-- Suppose that no table is mentioned with an empty schema. It makes no difference to a statement if
the default schema is written wherever a table is mentioned without one, except that the table of a
parameter comes with it as well. -/
theorem Statement.resolve_qualify (config : Config) (catalog : Catalog) (names : PlaceholderNames)
    {statement : Statement}
    (noEmptySchema : ∀ table ∈ statement.findPlaceholders.tables, table.schema ≠ some "") :
    let qualify : Relabeling := .qualify catalog.defaultSchema
    let found := statement.findPlaceholders
    let qualified := (statement.relabel qualify).findPlaceholders
    resolve config catalog.view qualified.tables qualified.occurrences names =
      List.map (Parameter.relabel qualify) <$>
        resolve config catalog.view found.tables found.occurrences names := by
  intro qualify found qualified
  have qualifiedIs : qualified = found.relabel qualify := findPlaceholders_relabel qualify statement
  have owned : ∀ occurrence ∈ found.occurrences, ∀ table ∈ occurrence.table,
      table.tableName ∈ found.tables.map TableRef.tableName := by
    intro occurrence isFound table isTable
    exact List.mem_map_of_mem (mem_tables_of_mem_occurrences isFound isTable)
  rw [qualifiedIs, ← relabelResult_qualify]
  exact resolve_relabel (catalog.keepsColumns_qualify noEmptySchema) names owned

/-! ## A table with and without its schema -/

def Catalog.withOrders : Catalog :=
  (empty "public").addTable "public" {
    name := "orders"
    columns := [.ofType "id" { name := "int4" }, .ofType "note" { name := "text" }] }

def ordersTarget : TableRef where
  relation := "orders"
  location := 7

def ordersSource : TableRef where
  schema := some "public"
  relation := "orders"
  aliasName := some "o"
  location := 33

/-- `UPDATE orders SET note = $1 FROM public.orders AS o WHERE o.id = $2` -/
def Statement.updateFromItself : Statement where
  root := .update {
    relation := ordersTarget
    assignments := [
      .target {
        name := some "note"
        value := some (.placeholder { ordinal := 1, location := 25 })
        location := 18 }]
    sources := [.table ordersSource]
    filter := some <| .operation {
      name := ["="]
      left := some (.column { fields := [.text "o", .text "id"], location := 58 })
      right := some (.placeholder { ordinal := 2, location := 65 })
      location := 63 }
    returning := [] }
  location := 0
  length := 67

def orderParameters (schemaOfNote : Option String) : List Parameter :=
  [ { ordinal := 1
      type := some {
        name := "note"
        dataType := "text"
        isNotNull := false
        isArray := false
        table := some { schema := schemaOfNote, name := "orders" } } },
    { ordinal := 2
      type := some {
        name := "id"
        dataType := "int4"
        isNotNull := false
        isArray := false
        table := some { schema := some "public", name := "orders" } } } ]

namespace Statement

theorem tables_updateFromItself :
    updateFromItself.findPlaceholders.tables = [ordersTarget, ordersSource] := by
  cbv

theorem resolve_updateFromItself :
    let found := updateFromItself.findPlaceholders
    resolve {} Catalog.withOrders.view found.tables found.occurrences ∅ =
      .ok (orderParameters none) := by
  cbv

/-- The assigned placeholder gets the schema that its table was mentioned without. -/
theorem resolve_qualifiedUpdate :
    let qualified := (updateFromItself.relabel (.qualify "public")).findPlaceholders
    resolve {} Catalog.withOrders.view qualified.tables qualified.occurrences ∅ =
      .ok (orderParameters (some "public")) := by
  have noEmptySchema : ∀ table ∈ updateFromItself.findPlaceholders.tables,
      table.schema ≠ some "" := by
    rw [tables_updateFromItself]
    decide
  have qualified := resolve_qualify {} Catalog.withOrders ∅ noEmptySchema
  dsimp only at qualified
  rw [resolve_updateFromItself] at qualified
  exact qualified

end Statement

end PlaceholderTyping
