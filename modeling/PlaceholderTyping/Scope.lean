import PlaceholderTyping.Catalog.Lookup
import PlaceholderTyping.OrderedMap
import PlaceholderTyping.Tree.Basic

/-!
# Scopes

The tables that a statement can see, under the names by which it can refer to them, with their
columns. Tables that the catalog does not know are seen but have no columns.
-/

namespace PlaceholderTyping

abbrev ColumnIndex := OrderedMap String Column

/-- What a statement can see. Every mention of a table counts in `tables`. The columns are kept
under the schema key and the name of their table. -/
structure Scope where
  aliases : OrderedMap String QualifiedName
  tables : List QualifiedName
  columns : OrderedMap (String × String) ColumnIndex

namespace Scope

def indexTable (view : CatalogView) (index : OrderedMap (String × String) ColumnIndex)
    (name : QualifiedName) : OrderedMap (String × String) ColumnIndex :=
  match view.table name with
  | .ok table =>
      index.insert (name.schemaKey, name.name)
        (.ofList (table.columns.map fun column => (column.name, column)))
  | .error _ => index

/-- The scope of a statement that mentions the given tables. An alias that is used again stands for
the last table that bears it. -/
def ofTables (view : CatalogView) (tables : List TableRef) : Scope :=
  let names := tables.map TableRef.tableName
  { aliases := .ofList <| tables.filterMap fun table =>
      table.aliasName.map fun aliasName => (aliasName, table.tableName)
    tables := names
    columns := names.foldl (indexTable view) ∅ }

/-- The table mentioned first, which stands in for a target that has no table of its own. -/
def defaultTable? (scope : Scope) : Option QualifiedName :=
  scope.tables.head?

def column? (scope : Scope) (table : QualifiedName) (column : String) : Option Column := do
  let columns ← scope.columns.get? (table.schemaKey, table.name)
  columns.get? column

/-- The tables to which a column may belong. A qualifier is an alias or else the name of a table,
and singles one table out. Without a qualifier, and with one that is neither, every table comes into
question. -/
def candidates (scope : Scope) (qualifier : Option String) : List QualifiedName :=
  match qualifier with
  | none => scope.tables
  | some qualifier =>
      match (scope.aliases.get? qualifier).or (scope.tables.find? (·.name = qualifier)) with
      | some table => [table]
      | none => scope.tables

end Scope

end PlaceholderTyping
