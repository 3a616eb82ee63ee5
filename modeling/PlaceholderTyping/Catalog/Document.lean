import PlaceholderTyping.Catalog.Basic
import PlaceholderTyping.Json.Codec

/-!
# Catalogs as JSON documents

The records of a catalog file. Types are written as their text and read from it.
-/

namespace PlaceholderTyping

open Json

def TypeName.codec : Codec TypeName where
  encode? type := type.text?.map .text
  decode found := do
    let text ← Codec.string.decode found
    (TypeName.ofText text).mapError .typeName

def QualifiedName.codec (record : String) : Codec QualifiedName :=
  .record record
    (.cons (.optional "schema" .string) <| .cons (.required "name" .string) .nil)
    (fun qualified => (qualified.schema, qualified.name, ()))
    (fun (schema, name, _) => { schema, name })

def QualifiedName.functionCodec : Codec QualifiedName :=
  QualifiedName.codec "FuncName"

def QualifiedName.tableCodec : Codec QualifiedName :=
  QualifiedName.codec "TableName"

def Column.codec : Codec Column :=
  .record "Column"
    (.cons (.required "name" .string) <|
      .cons (.required "type" TypeName.codec) <|
      .cons (.defaulted "is_not_null" .boolean false) <|
      .cons (.defaulted "is_array" .boolean false) .nil)
    (fun column => (column.name, column.type, column.isNotNull, column.isArray, ()))
    (fun (name, type, isNotNull, isArray, _) => { name, type, isNotNull, isArray })

def Table.codec : Codec Table :=
  .record "Table"
    (.cons (.required "name" .string) <|
      .cons (.defaulted "columns" (.list Column.codec) []) .nil)
    (fun table => (table.name, table.columns, ()))
    (fun (name, columns, _) => { name, columns })

def Argument.codec : Codec Argument :=
  .record "Argument"
    (.cons (.defaulted "name" .string "") <| .cons (.required "type" TypeName.codec) .nil)
    (fun argument => (argument.name, argument.type, ()))
    (fun (name, type, _) => { name, type })

def Signature.codec : Codec Signature :=
  .record "Function"
    (.cons (.required "name" .string) <|
      .cons (.defaulted "args" (.list Argument.codec) []) <|
      .cons (.required "return_type" TypeName.codec) .nil)
    (fun function => (function.name, function.arguments, function.result, ()))
    (fun (name, arguments, result, _) => { name, arguments, result })

def Schema.codec : Codec Schema :=
  .record "Schema"
    (.cons (.required "name" .string) <|
      .cons (.defaulted "tables" (.list Table.codec) []) <|
      .cons (.defaulted "functions" (.list Signature.codec) []) .nil)
    (fun schema => (schema.name, schema.tables, schema.functions, ()))
    (fun (name, tables, functions, _) => { name, tables, functions })

/-- A document without members is the catalog without schemas. -/
def Catalog.codec : Codec Catalog :=
  .record "MemoryCatalog"
    (.cons (.defaulted "default_schema" .string "public") <|
      .cons (.defaulted "schemas" (.list Schema.codec) []) .nil)
    (fun catalog => (catalog.defaultSchema, catalog.schemas, ()))
    (fun (defaultSchema, schemas, _) => { defaultSchema, schemas })

end PlaceholderTyping
