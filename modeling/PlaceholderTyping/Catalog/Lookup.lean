import PlaceholderTyping.Catalog.Basic

/-!
# Looking things up in a catalog

Statements name tables and functions with or without a schema. A table without one lives in the
default schema. A function without one is looked for in the default schema first and then in the
others, so that built-in functions are found wherever they are kept.
-/

namespace PlaceholderTyping

inductive LookupError where
  | schemaNotFound (schema : String)
  | tableNotFound (table : QualifiedName)
  | functionNotFound (function : QualifiedName) (arity : Nat)
deriving DecidableEq, Repr

def LookupError.message : LookupError → String
  | .schemaNotFound schema => s!"schema \"{schema}\" does not exist"
  | .tableNotFound table => s!"relation \"{table.text}\" does not exist"
  | .functionNotFound function arity => s!"function {function.text}/{arity} does not exist"

/-- What typing asks of a catalog, whatever keeps the answers. -/
structure CatalogView where
  table : QualifiedName → Except LookupError Table
  function : QualifiedName → Nat → Except LookupError Signature

namespace Catalog

def table (catalog : Catalog) (name : QualifiedName) : Except LookupError Table :=
  let schemaName := name.schema.getD catalog.defaultSchema
  match catalog.schema? schemaName with
  | none => .error (.schemaNotFound schemaName)
  | some schema =>
      match schema.table? name.name with
      | none => .error (.tableNotFound name)
      | some table => .ok table

/-- The schemas in which a function of the given name may live, in the order in which they are
searched. -/
def functionSchemas (catalog : Catalog) (name : QualifiedName) : List Schema :=
  match name.schema with
  | some schema => (catalog.schema? schema).toList
  | none =>
      (catalog.schema? catalog.defaultSchema).toList ++
        catalog.schemas.filter (·.name != catalog.defaultSchema)

def function (catalog : Catalog) (name : QualifiedName) (arity : Nat) :
    Except LookupError Signature :=
  match (catalog.functionSchemas name).findSome? (·.function? name.name arity) with
  | some function => .ok function
  | none => .error (.functionNotFound name arity)

def view (catalog : Catalog) : CatalogView where
  table := catalog.table
  function := catalog.function

end Catalog

end PlaceholderTyping
