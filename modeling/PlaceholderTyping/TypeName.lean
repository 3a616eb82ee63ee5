import PlaceholderTyping.Text.Blank
import PlaceholderTyping.Text.ByteOffset
import PlaceholderTyping.Text.DecimalDigit

/-!
# Type names

A declared type is a name, perhaps qualified by a schema, with any number of array bounds behind
it: `int4`, `pg_catalog.int8`, `text[][3]`. How long a bound is does not matter, only how many there
are.
-/

namespace PlaceholderTyping

structure TypeName where
  schema : Option String := none
  name : String
  arrayBounds : Nat := 0
deriving DecidableEq, Repr

structure TypeNameError where
  text : String
deriving DecidableEq, Repr

def TypeNameError.message (error : TypeNameError) : String :=
  s!"invalid type name '{error.text}'"

namespace TypeName

/-! ## Writing -/

/-- The name with its schema and without array bounds. An empty schema is not written. -/
def dataType (type : TypeName) : String :=
  match type.schema with
  | some schema => if schema.isEmpty then type.name else schema ++ "." ++ type.name
  | none => type.name

def text (type : TypeName) : String :=
  type.dataType ++ String.join (List.replicate type.arrayBounds "[]")

/-- The text, unless it is longer than a text can be. This is settled before it is put together. -/
def text? (type : TypeName) : Option String :=
  if Text.byteLength type.dataType.toList + 2 * type.arrayBounds ≤ Text.maxByteLength then
    some type.text
  else
    none

def isArray (type : TypeName) : Bool :=
  0 < type.arrayBounds

/-! ## Reading -/

/-- The number of bounds in a text that consists of nothing else. With `opened`, the text starts
inside a bound. Only digits may stand between the brackets of a bound, those of any script, and none
have to. -/
def boundCount? (opened : Bool) : List Char → Option Nat
  | [] => if opened then none else some 0
  | character :: rest =>
      if opened then
        if character = ']' then (boundCount? false rest).map (· + 1)
        else if Text.isDecimalDigit character then boundCount? true rest
        else none
      else if character = '[' then boundCount? true rest
      else none

/-- The schema, if a dot separates one off, and the name. Neither may be missing beside a dot, and
there is at most one dot. -/
def splitSchema? (stem : List Char) : Option (Option (List Char) × List Char) :=
  match stem.span (· != '.') with
  | ([], _) => none
  | (name, []) => some (none, name)
  | (schema, _ :: name) =>
      if name.isEmpty || name.contains '.' then none else some (some schema, name)

/-- Reads a type name. Blanks around the whole, the schema and the name do not count, but the check
that a part is not missing comes before the blanks are taken off. -/
def ofText (text : String) : Except TypeNameError TypeName :=
  let (stem, bounds) := (Text.trim text.toList).span fun character =>
    character != '[' && character != ']'
  match splitSchema? stem, boundCount? false bounds with
  | some (schema, name), some arrayBounds =>
      .ok {
        schema := schema.map fun schema => String.ofList (Text.trim schema)
        name := String.ofList (Text.trim name)
        arrayBounds }
  | _, _ => .error { text }

end TypeName

end PlaceholderTyping
