import PlaceholderTyping.Json.Codec
import PlaceholderTyping.Catalog.Document
import PlaceholderTyping.Edit.Basic
import PlaceholderTyping.QualifiedName

/-!
# Parameters

A placeholder with what was inferred about it, for a code generator to use, and the JSON form of
parameters and edits.
-/

namespace PlaceholderTyping

/-- What is known of a parameter: a name, which is empty where nothing suggested one, its type
without array bounds, and the table of the column that it is compared with or assigned to. -/
structure ParameterType where
  name : String
  dataType : String
  isNotNull : Bool
  isArray : Bool
  table : Option QualifiedName := none
deriving DecidableEq, Repr

structure Parameter where
  ordinal : Nat
  type : Option ParameterType
deriving DecidableEq, Repr

open Json

def ParameterType.codec : Codec ParameterType :=
  .record "ParamColumn"
    (.cons (.required "name" .string) <|
      .cons (.required "data_type" .string) <|
      .cons (.required "not_null" .boolean) <|
      .cons (.required "is_array" .boolean) <|
      .cons (.optional "table" QualifiedName.tableCodec) .nil)
    (fun type => (type.name, type.dataType, type.isNotNull, type.isArray, type.table, ()))
    (fun (name, dataType, isNotNull, isArray, table, _) =>
      { name, dataType, isNotNull, isArray, table })

def Parameter.codec : Codec Parameter :=
  .record "Parameter"
    (.cons (.required "number" .unsigned) <|
      .cons (.nullable "column" ParameterType.codec) .nil)
    (fun parameter => (parameter.ordinal, parameter.type, ()))
    (fun (ordinal, type, _) => { ordinal, type })

def Edit.codec : Codec Edit :=
  .record "Edit"
    (.cons (.required "location" .unsigned) <|
      .cons (.required "old" .string) <|
      .cons (.required "new" .string) .nil)
    (fun edit => (edit.location, edit.old, edit.new, ()))
    (fun (location, old, new, _) => { location, old, new })

end PlaceholderTyping
