/-!
# Qualified names

Tables and functions are named with or without the schema they live in. A schema that was left out
differs from a schema with an empty name.
-/

namespace PlaceholderTyping

structure QualifiedName where
  schema : Option String := none
  name : String
deriving DecidableEq, Repr

namespace QualifiedName

def text (qualified : QualifiedName) : String :=
  match qualified.schema with
  | some schema => schema ++ "." ++ qualified.name
  | none => qualified.name

/-- The schema as a key of an index. A name without a schema and one with an empty schema have the
same key. -/
def schemaKey (qualified : QualifiedName) : String :=
  qualified.schema.getD ""

end QualifiedName

end PlaceholderTyping
