import PlaceholderTyping.Catalog.Loading
import PlaceholderTyping.Catalog.Lookup
import PlaceholderTyping.Proofs.Catalog.ScopeColumns

/-!
# Columns

The columns that a statement can see are columns of the catalog. In a catalog that is built up by
additions, a column is an array exactly if its type is, because columns are made that way; catalogs
that come from elsewhere may say otherwise.
-/

namespace PlaceholderTyping

/-! ## Columns of a catalog -/

theorem mem_modifyFirstOrAppend {α : Type} {test : α → Bool} {change : α → α} {new element : α}
    {elements : List α} (member : element ∈ modifyFirstOrAppend test change new elements) :
    element ∈ elements ∨ (∃ old ∈ elements, element = change old) ∨ element = new := by
  induction elements with
  | nil => exact .inr (.inr (List.mem_singleton.mp member))
  | cons first rest induction =>
      rw [modifyFirstOrAppend] at member
      split at member
      · rcases List.mem_cons.mp member with isChanged | later
        · exact .inr (.inl ⟨first, List.mem_cons_self, isChanged⟩)
        · exact .inl (List.mem_cons_of_mem _ later)
      · rcases List.mem_cons.mp member with isFirst | later
        · exact .inl (isFirst ▸ List.mem_cons_self)
        · rcases induction later with known | ⟨old, oldMember, isChanged⟩ | isNew
          · exact .inl (List.mem_cons_of_mem _ known)
          · exact .inr (.inl ⟨old, List.mem_cons_of_mem _ oldMember, isChanged⟩)
          · exact .inr (.inr isNew)

def Schema.columns (schema : Schema) : List Column :=
  schema.tables.flatMap Table.columns

theorem Schema.mem_columns_addTable {schema : Schema} {table : Table} {column : Column}
    (member : column ∈ (schema.addTable table).columns) :
    column ∈ schema.columns ∨ column ∈ table.columns := by
  rcases List.mem_flatMap.mp member with ⟨owner, ownerMember, inOwner⟩
  rcases mem_modifyFirstOrAppend ownerMember with known | ⟨_, _, rfl⟩ | rfl
  · exact .inl (List.mem_flatMap.mpr ⟨owner, known, inOwner⟩)
  · exact .inr inOwner
  · exact .inr inOwner

namespace Catalog

def columns (catalog : Catalog) : List Column :=
  catalog.schemas.flatMap Schema.columns

theorem mem_columns_of_table {catalog : Catalog} {name : QualifiedName} {table : Table}
    (found : catalog.table name = .ok table) {column : Column} (member : column ∈ table.columns) :
    column ∈ catalog.columns := by
  simp only [Catalog.table] at found
  split at found
  · cases found
  · next schema schemaFound =>
      split at found
      · cases found
      · next tableFound =>
          cases found
          refine List.mem_flatMap.mpr ⟨schema, List.mem_of_find?_eq_some schemaFound, ?_⟩
          exact List.mem_flatMap.mpr ⟨table, List.mem_of_find?_eq_some tableFound, member⟩

/-- A change of a schema makes no columns but those that it makes in the schema or in an empty
one. -/
theorem mem_columns_modifySchema {catalog : Catalog} {name : String} {change : Schema → Schema}
    {column : Column} (member : column ∈ (catalog.modifySchema name change).columns) :
    column ∈ catalog.columns ∨ (∃ schema ∈ catalog.schemas, column ∈ (change schema).columns) ∨
      column ∈ (change { name }).columns := by
  rcases List.mem_flatMap.mp member with ⟨schema, schemaMember, inSchema⟩
  rcases mem_modifyFirstOrAppend schemaMember with known | ⟨old, oldMember, rfl⟩ | rfl
  · exact .inl (List.mem_flatMap.mpr ⟨schema, known, inSchema⟩)
  · exact .inr (.inl ⟨old, oldMember, inSchema⟩)
  · exact .inr (.inr inSchema)

theorem mem_columns_addTable {catalog : Catalog} {schema : String} {table : Table}
    {column : Column} (member : column ∈ (catalog.addTable schema table).columns) :
    column ∈ catalog.columns ∨ column ∈ table.columns := by
  rcases mem_columns_modifySchema member with known | ⟨old, oldMember, inChanged⟩ | inNew
  · exact .inl known
  · rcases Schema.mem_columns_addTable inChanged with inOld | inTable
    · exact .inl (List.mem_flatMap.mpr ⟨old, oldMember, inOld⟩)
    · exact .inr inTable
  · rcases Schema.mem_columns_addTable inNew with inEmpty | inTable
    · cases inEmpty
    · exact .inr inTable

theorem mem_columns_addFunction {catalog : Catalog} {schema : String} {function : Signature}
    {column : Column} (member : column ∈ (catalog.addFunction schema function).columns) :
    column ∈ catalog.columns := by
  rcases mem_columns_modifySchema member with known | ⟨old, oldMember, inChanged⟩ | inNew
  · exact known
  · exact List.mem_flatMap.mpr ⟨old, oldMember, inChanged⟩
  · cases inNew

/-! ## Catalogs built by additions -/

/-- Catalogs made from an empty one by adding functions and tables, the columns of which are given
by a name, a type and whether they may be null. -/
inductive Built : Catalog → Prop where
  | empty (defaultSchema : String) : Built (.empty defaultSchema)
  | addTable {catalog : Catalog} (built : Built catalog) (schema : String) (table : Table)
      (columns : ∀ column ∈ table.columns, ∃ name type isNotNull,
        column = { Column.ofType name type with isNotNull }) :
      Built (catalog.addTable schema table)
  | addFunction {catalog : Catalog} (built : Built catalog) (schema : String)
      (function : Signature) : Built (catalog.addFunction schema function)

theorem Built.isArray_eq {catalog : Catalog} (built : Built catalog) {column : Column}
    (member : column ∈ catalog.columns) : column.isArray = column.type.isArray := by
  induction built with
  | empty => cases member
  | addTable built schema table columns induction =>
      rcases mem_columns_addTable member with known | new
      · exact induction known
      · rcases columns column new with ⟨_, _, _, rfl⟩
        rfl
  | addFunction built schema function induction =>
      exact induction (mem_columns_addFunction member)

/-- A column that is loaded is no array unless it is marked as one, whatever its type. -/
example :
    Column.codec.decodeText "\x7b\"name\": \"tags\", \"type\": \"text[]\"\x7d" =
      .ok { name := "tags", type := { name := "text", arrayBounds := 1 }, isArray := false } := by
  cbv

end Catalog

/-! ## Columns in a scope -/

/-- A table that is mentioned has the column, as far as the catalog knows. The mention need not be
written like the table's name, but it stands for the same key of the index. -/
def CatalogView.HasColumn (view : CatalogView) (tables : List TableRef) (table : QualifiedName)
    (column : Column) : Prop :=
  ∃ mention ∈ tables, ∃ source,
    mention.tableName.schemaKey = table.schemaKey ∧ mention.tableName.name = table.name ∧
      view.table mention.tableName = .ok source ∧ column ∈ source.columns

namespace Scope

/-- What a scope finds under a name is a column of that name that the table has. -/
theorem hasColumn_of_column? {view : CatalogView} {tables : List TableRef}
    {table : QualifiedName} {name : String} {column : Column}
    (found : (ofTables view tables).column? table name = some column) :
    column.name = name ∧ view.HasColumn tables table column := by
  rw [column?_ofTables_eq] at found
  rcases Option.bind_eq_some_iff.mp found with ⟨source, indexed, columnFound⟩
  rcases CatalogView.exists_of_indexedTable?_eq_some indexed with
    ⟨tableName, isName, sameKey, known⟩
  rcases List.mem_map.mp isName with ⟨mention, mentioned, rfl⟩
  rcases Prod.mk.inj sameKey with ⟨sameSchema, sameName⟩
  rcases mem_of_find?_name columnFound with ⟨isReversed, named⟩
  have member := List.mem_reverse.mp isReversed
  exact ⟨named, mention, mentioned, source, sameSchema, sameName, known, member⟩

end Scope

end PlaceholderTyping
