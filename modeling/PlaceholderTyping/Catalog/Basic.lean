import PlaceholderTyping.QualifiedName
import PlaceholderTyping.TypeName

/-!
# Catalogs

What is known of a database: schemas with their tables and functions. A catalog is built up by
adding tables, which replace an earlier table of the same name, and functions, which may be
overloaded. Catalogs that come from elsewhere may hold the same name several times; look-ups then
find the first.
-/

namespace PlaceholderTyping

/-! ## Contents -/

structure Column where
  name : String
  type : TypeName
  isNotNull : Bool := false
  isArray : Bool := false
deriving DecidableEq, Repr

/-- A nullable column that is an array if its type is. -/
def Column.ofType (name : String) (type : TypeName) : Column :=
  { name, type, isArray := type.isArray }

structure Table where
  name : String
  columns : List Column := []
deriving DecidableEq, Repr

def Table.column? (table : Table) (name : String) : Option Column :=
  table.columns.find? (·.name = name)

/-- An argument of a function. Positional arguments have an empty name. -/
structure Argument where
  name : String := ""
  type : TypeName
deriving DecidableEq, Repr

structure Signature where
  name : String
  arguments : List Argument := []
  result : TypeName
deriving DecidableEq, Repr

def TypeName.any : TypeName :=
  { name := "any" }

def Signature.unknown (name : String) (arity : Nat) : Signature :=
  { name, arguments := List.replicate arity { type := .any }, result := .any }

structure Schema where
  name : String
  tables : List Table := []
  functions : List Signature := []
deriving DecidableEq, Repr

namespace Schema

def table? (schema : Schema) (name : String) : Option Table :=
  schema.tables.find? (·.name = name)

def function? (schema : Schema) (name : String) (arity : Nat) : Option Signature :=
  schema.functions.find? fun function =>
    function.name = name && function.arguments.length = arity

end Schema

/-- Schemas, one of which stands in where a name has no schema of its own. That one need not be
there. -/
structure Catalog where
  defaultSchema : String := "public"
  schemas : List Schema := []
deriving DecidableEq, Repr

/-! ## Construction -/

def modifyFirstOrAppend {α : Type} (test : α → Bool) (change : α → α) (new : α) : List α → List α
  | [] => [new]
  | element :: rest =>
      if test element then
        change element :: rest
      else
        element :: modifyFirstOrAppend test change new rest

namespace Schema

/-- Adds a table in the place of the one with its name, or at the end. -/
def addTable (table : Table) (schema : Schema) : Schema :=
  { schema with
    tables := modifyFirstOrAppend (·.name = table.name) (fun _ => table) table schema.tables }

def addFunction (function : Signature) (schema : Schema) : Schema :=
  { schema with functions := schema.functions ++ [function] }

end Schema

namespace Catalog

def empty (defaultSchema : String) : Catalog :=
  { defaultSchema, schemas := [{ name := defaultSchema }] }

instance : Inhabited Catalog where
  default := empty "public"

def schema? (catalog : Catalog) (name : String) : Option Schema :=
  catalog.schemas.find? (·.name = name)

/-- Changes a schema, which is created at the end if there is none of that name. -/
def modifySchema (name : String) (change : Schema → Schema) (catalog : Catalog) : Catalog :=
  { catalog with
    schemas :=
      modifyFirstOrAppend (·.name = name) change (change { name }) catalog.schemas }

def addTable (schema : String) (table : Table) (catalog : Catalog) : Catalog :=
  catalog.modifySchema schema (·.addTable table)

def addFunction (schema : String) (function : Signature) (catalog : Catalog) : Catalog :=
  catalog.modifySchema schema (·.addFunction function)

end Catalog

end PlaceholderTyping
