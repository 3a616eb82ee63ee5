import Mathlib.Data.List.Induction
import PlaceholderTyping.Proofs.Success
import PlaceholderTyping.Scope

/-!
# What a scope knows of a table

A scope keeps the columns of its tables under keys in which a schema that is missing and one with
an empty name are the same. Of the tables under a key it has the last one that the catalog knows,
and of several columns of one name the last. If no table is mentioned with an empty schema, these
are exactly the columns that the catalog tells of a table.
-/

namespace PlaceholderTyping

/-! ## Keys -/

def QualifiedName.key (qualified : QualifiedName) : String × String :=
  (qualified.schemaKey, qualified.name)

theorem QualifiedName.eq_of_key_eq {left right : QualifiedName}
    (leftSchema : left.schema ≠ some "") (rightSchema : right.schema ≠ some "")
    (sameKey : left.key = right.key) : left = right := by
  rcases left with ⟨leftSchemaName, leftName⟩
  rcases right with ⟨rightSchemaName, rightName⟩
  rcases Prod.mk.inj sameKey with ⟨sameSchemaKey, sameName⟩
  cases leftSchemaName <;> cases rightSchemaName <;>
    simp_all [schemaKey, eq_comm]

/-- With a schema, even an empty one, a name is told by its key. -/
theorem QualifiedName.eq_of_key_eq_of_isSome {left right : QualifiedName}
    (leftSchema : left.schema.isSome = true) (rightSchema : right.schema.isSome = true)
    (sameKey : left.key = right.key) : left = right := by
  rcases left with ⟨leftSchemaName, leftName⟩
  rcases right with ⟨rightSchemaName, rightName⟩
  rcases Prod.mk.inj sameKey with ⟨sameSchemaKey, sameName⟩
  cases leftSchemaName <;> cases rightSchemaName <;> simp_all [schemaKey]

/-! ## Columns of one table -/

theorem mem_of_find?_name {columns : List Column} {name : String} {column : Column}
    (found : columns.find? (·.name = name) = some column) :
    column ∈ columns ∧ column.name = name := by
  have named := List.find?_some found
  exact ⟨List.mem_of_find?_eq_some found, of_decide_eq_true named⟩

def Table.lastColumn? (table : Table) (name : String) : Option Column :=
  table.columns.reverse.find? (·.name = name)

def Table.columnIndex (table : Table) : ColumnIndex :=
  .ofList (table.columns.map fun column => (column.name, column))

theorem lookup_map_columns (columns : List Column) (name : String) :
    (columns.map fun column => (column.name, column)).lookup name =
      columns.find? (·.name = name) := by
  induction columns with
  | nil => rfl
  | cons first rest induction =>
      rw [List.map_cons, List.lookup_cons, List.find?_cons, induction]
      by_cases same : first.name = name
      · simp [same]
      · simp [same, beq_false_of_ne (Ne.symm same)]

theorem Table.get?_columnIndex (table : Table) (name : String) :
    table.columnIndex.get? name = table.lastColumn? name := by
  rw [columnIndex, OrderedMap.get?_ofList, ← List.map_reverse, lookup_map_columns, lastColumn?]

theorem Table.lastColumn?_eq_none_iff {table : Table} {name : String} :
    table.lastColumn? name = none ↔ ∀ column ∈ table.columns, column.name ≠ name := by
  simp [lastColumn?]

/-! ## Columns of mentioned tables -/

def CatalogView.lastColumn? (view : CatalogView) (table : QualifiedName) (name : String) :
    Option Column :=
  (view.table table).toOption.bind (·.lastColumn? name)

/-- The table that stands under a key: of the tables of that key the last one that the catalog
knows. -/
def CatalogView.indexedTable? (view : CatalogView) (names : List QualifiedName)
    (key : String × String) : Option Table :=
  (names.reverse.filter (key = ·.key)).findSome? fun name => (view.table name).toOption

namespace CatalogView

variable {view : CatalogView} {table : QualifiedName} {name : String}

theorem lastColumn?_eq_some_iff {column : Column} :
    view.lastColumn? table name = some column ↔
      ∃ source, view.table table = .ok source ∧ source.lastColumn? name = some column := by
  unfold lastColumn?
  cases view.table table <;> simp [Except.toOption]

theorem lastColumn?_eq_none_iff :
    view.lastColumn? table name = none ↔
      (∃ failure, view.table table = .error failure) ∨
        ∃ source, view.table table = .ok source ∧
          ∀ column ∈ source.columns, column.name ≠ name := by
  unfold lastColumn?
  cases view.table table <;> simp [Except.toOption, Table.lastColumn?_eq_none_iff]

theorem indexedTable?_concat (view : CatalogView) (names : List QualifiedName)
    (last : QualifiedName) (key : String × String) :
    view.indexedTable? (names ++ [last]) key =
      if key = last.key then (view.table last).toOption.or (view.indexedTable? names key)
      else view.indexedTable? names key := by
  rw [indexedTable?, List.reverse_concat, List.filter_cons]
  by_cases isLast : key = last.key
  · rw [if_pos (decide_eq_true isLast), if_pos isLast, List.findSome?_cons]
    cases (view.table last).toOption <;> rfl
  · rw [if_neg (mt of_decide_eq_true isLast), if_neg isLast]
    rfl

theorem exists_of_indexedTable?_eq_some {names : List QualifiedName} {key : String × String}
    {source : Table} (indexed : view.indexedTable? names key = some source) :
    ∃ name ∈ names, name.key = key ∧ view.table name = .ok source := by
  rcases List.exists_of_findSome?_eq_some indexed with ⟨name, isNamesake, known⟩
  rcases List.mem_filter.mp isNamesake with ⟨isName, sameKey⟩
  refine ⟨name, List.mem_reverse.mp isName, (of_decide_eq_true sameKey).symm, ?_⟩
  exact toOption_eq_some_iff.mp known

/-- A table stands under its key, if the catalog knows it and no other table has that key. -/
theorem indexedTable?_of_unambiguous {names : List QualifiedName} {table : QualifiedName}
    (isName : table ∈ names) (unambiguous : ∀ other ∈ names, other.key = table.key → other = table) :
    view.indexedTable? names table.key = (view.table table).toOption := by
  have namesakes : ∀ other ∈ names.reverse.filter (table.key = ·.key), other = table := by
    intro other isNamesake
    rcases List.mem_filter.mp isNamesake with ⟨isOtherName, sameKey⟩
    exact unambiguous other (List.mem_reverse.mp isOtherName) (of_decide_eq_true sameKey).symm
  have isNamesake : table ∈ names.reverse.filter (table.key = ·.key) :=
    List.mem_filter.mpr ⟨List.mem_reverse.mpr isName, decide_eq_true rfl⟩
  rw [indexedTable?, List.eq_replicate_of_mem namesakes,
    List.findSome?_replicate_of_pos (List.length_pos_of_mem isNamesake)]

end CatalogView

namespace Scope

theorem get?_indexTable_eq (view : CatalogView) (index : OrderedMap (String × String) ColumnIndex)
    (name : QualifiedName) (key : String × String) :
    (indexTable view index name).get? key =
      if key = name.key then
        ((view.table name).toOption.map Table.columnIndex).or (index.get? key)
      else
        index.get? key := by
  unfold indexTable
  cases view.table name with
  | error failure => simp [Except.toOption]
  | ok table =>
      rw [OrderedMap.get?_insert]
      rfl

/-- An index holds the columns of the last table of each key that the catalog knows. -/
theorem get?_foldl_indexTable (view : CatalogView) (names : List QualifiedName)
    (key : String × String) :
    (names.foldl (indexTable view) ∅).get? key =
      (view.indexedTable? names key).map Table.columnIndex := by
  induction names using List.reverseRecOn with
  | nil => rfl
  | append_singleton names last induction =>
      rw [List.foldl_append, List.foldl_cons, List.foldl_nil, get?_indexTable_eq, induction,
        CatalogView.indexedTable?_concat]
      by_cases isLast : key = last.key
      · rw [if_pos isLast, if_pos isLast, Option.map_or]
      · rw [if_neg isLast, if_neg isLast]

/-- What a scope knows of a table, mentioned or not, is what stands under the table's key. -/
theorem column?_ofTables_eq (view : CatalogView) (tables : List TableRef) (table : QualifiedName)
    (name : String) :
    (ofTables view tables).column? table name =
      (view.indexedTable? (tables.map TableRef.tableName) table.key).bind
        (·.lastColumn? name) := by
  change ((tables.map TableRef.tableName).foldl (indexTable view) ∅).get? table.key >>=
    (·.get? name) = _
  rw [get?_foldl_indexTable]
  cases view.indexedTable? (tables.map TableRef.tableName) table.key with
  | none => rfl
  | some source => exact source.get?_columnIndex name

/-- A scope has the columns that the catalog tells of a table, if no other table that is mentioned
has the same key. -/
theorem column?_ofTables_of_unambiguous {view : CatalogView} {tables : List TableRef}
    {table : TableRef} (mentioned : table ∈ tables)
    (unambiguous : ∀ other ∈ tables, other.tableName.key = table.tableName.key →
      other.tableName = table.tableName) (name : String) :
    (ofTables view tables).column? table.tableName name =
      view.lastColumn? table.tableName name := by
  rw [column?_ofTables_eq, CatalogView.indexedTable?_of_unambiguous
    (List.mem_map_of_mem mentioned) (List.forall_mem_map.mpr unambiguous)]
  rfl

theorem column?_ofTables {view : CatalogView} {tables : List TableRef}
    (noEmptySchema : ∀ table ∈ tables, table.schema ≠ some "") {table : TableRef}
    (mentioned : table ∈ tables) (name : String) :
    (ofTables view tables).column? table.tableName name =
      view.lastColumn? table.tableName name := by
  apply column?_ofTables_of_unambiguous mentioned
  intro other otherMentioned
  exact QualifiedName.eq_of_key_eq (noEmptySchema other otherMentioned)
    (noEmptySchema table mentioned)

end Scope

end PlaceholderTyping
