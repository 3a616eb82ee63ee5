import Mathlib
import PlaceholderTyping.Catalog.Loading
import PlaceholderTyping.Parameter
import PlaceholderTyping.Proofs.Json.MemberOrder
import PlaceholderTyping.Proofs.Json.Recovery
import PlaceholderTyping.Proofs.TypeName.RoundTrip

/-!
# Documents that are read back

Everything that has a JSON form is read back from it, except for types that have no text or whose
text does not read as the same type again. The main statement says so for each kind of value, and of catalogs also that
their documents may have the members of objects in any order.
-/

namespace PlaceholderTyping

open Json

/-! ## Types in a value -/

def Table.types (table : Table) : List TypeName :=
  table.columns.map (·.type)

def Signature.types (function : Signature) : List TypeName :=
  function.arguments.map (·.type) ++ [function.result]

def Schema.types (schema : Schema) : List TypeName :=
  schema.tables.flatMap Table.types ++ schema.functions.flatMap Signature.types

def Catalog.types (catalog : Catalog) : List TypeName :=
  catalog.schemas.flatMap Schema.types

/-! ## Recovery -/

theorem TypeName.recovers_iff (type : TypeName) :
    TypeName.codec.Recovers type ↔ type.ReadsBack := by
  simp only [Codec.Recovers, codec, Option.map_eq_some_iff, bind_eq_ok_iff]
  constructor
  · rintro ⟨_, ⟨text, written, rfl⟩, _, isText, read⟩
    cases isText
    exact ⟨text, written, mapError_eq_ok_iff.mp read⟩
  · rintro ⟨text, written, read⟩
    exact ⟨_, ⟨text, written, rfl⟩, text, rfl, mapError_eq_ok_iff.mpr read⟩

theorem QualifiedName.recovers (record : String) (name : QualifiedName) :
    (QualifiedName.codec record).Recovers name := by
  refine (Codec.recovers_record_iff (by decide) (fun _ => rfl) (fun _ => rfl) name).mpr ?_
  have notNull : ∀ content, Codec.string.encode? content ≠ some .null := fun _ => nofun
  simp [Fields.Recover, Field.recovers_optional_iff _ notNull]

theorem Column.recovers_iff (column : Column) :
    Column.codec.Recovers column ↔ column.type.ReadsBack := by
  refine (Codec.recovers_record_iff (by decide) (fun _ => rfl) (fun _ => rfl) column).trans ?_
  simp [Fields.Recover, TypeName.recovers_iff]

theorem Table.recovers_iff (table : Table) :
    Table.codec.Recovers table ↔ ∀ type ∈ table.types, type.ReadsBack := by
  refine (Codec.recovers_record_iff (by decide) (fun _ => rfl) (fun _ => rfl) table).trans ?_
  simp [Fields.Recover, Codec.recovers_list_iff, Column.recovers_iff, types]

theorem Argument.recovers_iff (argument : Argument) :
    Argument.codec.Recovers argument ↔ argument.type.ReadsBack := by
  refine (Codec.recovers_record_iff (by decide) (fun _ => rfl) (fun _ => rfl) argument).trans ?_
  simp [Fields.Recover, TypeName.recovers_iff]

theorem Signature.recovers_iff (function : Signature) :
    Signature.codec.Recovers function ↔ ∀ type ∈ function.types, type.ReadsBack := by
  refine (Codec.recovers_record_iff (by decide) (fun _ => rfl) (fun _ => rfl) function).trans ?_
  simp [Fields.Recover, Codec.recovers_list_iff, Argument.recovers_iff, TypeName.recovers_iff,
    types, or_imp, forall_and]

theorem Schema.recovers_iff (schema : Schema) :
    Schema.codec.Recovers schema ↔ ∀ type ∈ schema.types, type.ReadsBack := by
  refine (Codec.recovers_record_iff (by decide) (fun _ => rfl) (fun _ => rfl) schema).trans ?_
  simp only [Fields.Recover, Field.recovers_required_iff, Field.recovers_defaulted_iff,
    Codec.recovers_string, Codec.recovers_list_iff, Table.recovers_iff, Signature.recovers_iff,
    types, List.forall_mem_append, List.forall_mem_flatMap, and_true, true_and]

theorem Catalog.recovers_iff (catalog : Catalog) :
    Catalog.codec.Recovers catalog ↔ ∀ type ∈ catalog.types, type.ReadsBack := by
  refine (Codec.recovers_record_iff (by decide) (fun _ => rfl) (fun _ => rfl) catalog).trans ?_
  simp only [Fields.Recover, Field.recovers_defaulted_iff, Codec.recovers_string,
    Codec.recovers_list_iff, Schema.recovers_iff, types, List.forall_mem_flatMap, and_true,
    true_and]

theorem ParameterType.recovers (type : ParameterType) :
    ParameterType.codec.Recovers type := by
  refine (Codec.recovers_record_iff (by decide) (fun _ => rfl) (fun _ => rfl) type).mpr ?_
  have notNull : ∀ name, QualifiedName.tableCodec.encode? name ≠ some .null :=
    Codec.encode?_record_ne_null _ _ _ _
  have table : (Field.optional "table" QualifiedName.tableCodec).Recovers type.table :=
    (Field.recovers_optional_iff _ notNull).mpr fun name _ => name.recovers "TableName"
  simp [Fields.Recover, table]

theorem Parameter.recovers (parameter : Parameter) :
    Parameter.codec.Recovers parameter := by
  refine (Codec.recovers_record_iff (by decide) (fun _ => rfl) (fun _ => rfl) parameter).mpr ?_
  have notNull : ∀ type, ParameterType.codec.encode? type ≠ some .null :=
    Codec.encode?_record_ne_null _ _ _ _
  have column : (Field.nullable "column" ParameterType.codec).Recovers parameter.type :=
    (Field.recovers_nullable_iff _ notNull).mpr fun type _ => type.recovers
  simp [Fields.Recover, column]

theorem Edit.recovers (edit : Edit) : Edit.codec.Recovers edit := by
  refine (Codec.recovers_record_iff (by decide) (fun _ => rfl) (fun _ => rfl) edit).mpr ?_
  simp [Fields.Recover]

/-! ## The order of members -/

theorem TypeName.ignoresOrder : TypeName.codec.IgnoresOrder := by
  intro found type
  simp only [TypeName.codec, bind_eq_ok_iff, Codec.string_ignoresOrder _ _]

theorem Column.ignoresOrder : Column.codec.IgnoresOrder := by
  apply Codec.record_ignoresOrder (by decide)
  exact ⟨Codec.string_ignoresOrder, TypeName.ignoresOrder, Codec.boolean_ignoresOrder,
    Codec.boolean_ignoresOrder, trivial⟩

theorem Table.ignoresOrder : Table.codec.IgnoresOrder := by
  apply Codec.record_ignoresOrder (by decide)
  exact ⟨Codec.string_ignoresOrder, Column.ignoresOrder.list, trivial⟩

theorem Argument.ignoresOrder : Argument.codec.IgnoresOrder := by
  apply Codec.record_ignoresOrder (by decide)
  exact ⟨Codec.string_ignoresOrder, TypeName.ignoresOrder, trivial⟩

theorem Signature.ignoresOrder : Signature.codec.IgnoresOrder := by
  apply Codec.record_ignoresOrder (by decide)
  exact ⟨Codec.string_ignoresOrder, Argument.ignoresOrder.list, TypeName.ignoresOrder, trivial⟩

theorem Schema.ignoresOrder : Schema.codec.IgnoresOrder := by
  apply Codec.record_ignoresOrder (by decide)
  exact ⟨Codec.string_ignoresOrder, Table.ignoresOrder.list, Signature.ignoresOrder.list, trivial⟩

theorem Catalog.ignoresOrder : Catalog.codec.IgnoresOrder := by
  apply Codec.record_ignoresOrder (by decide)
  exact ⟨Codec.string_ignoresOrder, Schema.ignoresOrder.list, trivial⟩

/-! ## Documents -/

/-- A catalog is loaded from its own document, whatever the order of members there, exactly if its
types read back. -/
theorem Catalog.ofJson_eq_ok_iff (catalog : Catalog) {text : String} {found document : Value}
    (isText : Value.ofText? text = some found)
    (written : Catalog.codec.encode? catalog = some document)
    (isDocument : found.sortMembers = document.sortMembers) :
    Catalog.ofJson text = .ok catalog ↔ ∀ type ∈ catalog.types, type.ReadsBack := by
  have recovers_iff : Catalog.codec.Recovers catalog ↔
      Catalog.codec.decode document = .ok catalog := by
    simp only [Codec.Recovers, written, Option.some.injEq, exists_eq_left']
  rw [← catalog.recovers_iff, recovers_iff, ← Catalog.ignoresOrder, ← isDocument,
    Catalog.ignoresOrder]
  simp only [ofJson, Codec.decodeText, isText, mapError_eq_ok_iff]

/-- A value can be written and is read again from what is written exactly if every type in it reads
back. Names, edits and parameters have no types in them, so they are always read back. The document of a catalog
may have the members of its objects in any order. -/
theorem documents_recovered_iff :
    (∀ type, TypeName.codec.Recovers type ↔ type.ReadsBack) ∧
      (∀ column, Column.codec.Recovers column ↔ column.type.ReadsBack) ∧
      (∀ table, Table.codec.Recovers table ↔ ∀ type ∈ table.types, type.ReadsBack) ∧
      (∀ argument, Argument.codec.Recovers argument ↔ argument.type.ReadsBack) ∧
      (∀ function, Signature.codec.Recovers function ↔
        ∀ type ∈ function.types, type.ReadsBack) ∧
      (∀ schema, Schema.codec.Recovers schema ↔ ∀ type ∈ schema.types, type.ReadsBack) ∧
      (∀ catalog, Catalog.codec.Recovers catalog ↔ ∀ type ∈ catalog.types, type.ReadsBack) ∧
      (∀ name, QualifiedName.functionCodec.Recovers name) ∧
      (∀ name, QualifiedName.tableCodec.Recovers name) ∧
      (∀ edit, Edit.codec.Recovers edit) ∧
      (∀ type, ParameterType.codec.Recovers type) ∧
      (∀ parameter, Parameter.codec.Recovers parameter) ∧
      ∀ (catalog : Catalog) (text : String) (found document : Value),
        Value.ofText? text = some found → Catalog.codec.encode? catalog = some document →
        found.sortMembers = document.sortMembers →
        (Catalog.ofJson text = .ok catalog ↔ ∀ type ∈ catalog.types, type.ReadsBack) :=
  ⟨TypeName.recovers_iff, Column.recovers_iff, Table.recovers_iff, Argument.recovers_iff,
    Signature.recovers_iff, Schema.recovers_iff, Catalog.recovers_iff,
    QualifiedName.recovers "FuncName", QualifiedName.recovers "TableName", Edit.recovers,
    ParameterType.recovers, Parameter.recovers,
    fun catalog _ _ _ isText written isDocument =>
      catalog.ofJson_eq_ok_iff isText written isDocument⟩

/-! ## Two catalogs with one document -/

def Catalog.withResult (type : TypeName) : Catalog where
  schemas := [{ name := "s", functions := [{ name := "f", result := type }] }]

def resultDocument : String :=
  "\x7b\"schemas\": [\x7b\"functions\": [\x7b\"return_type\": \"t\", \"name\": \"f\", \"args\": []\x7d], " ++
    "\"tables\": [], \"name\": \"s\"\x7d], \"default_schema\": \"public\"\x7d"

def resultValue : Value :=
  .object [
    (.ok "schemas", .array [
      .object [
        (.ok "functions", .array [
          .object [
            (.ok "return_type", .text "t"),
            (.ok "name", .text "f"),
            (.ok "args", .array [])]]),
        (.ok "tables", .array []),
        (.ok "name", .text "s")]]),
    (.ok "default_schema", .text "public")]

set_option maxRecDepth 4000 in
theorem ofText?_resultDocument : Value.ofText? resultDocument = some resultValue := by
  cbv

def resultCatalogValue : Value :=
  .object [
    (.ok "default_schema", .text "public"),
    (.ok "schemas", .array [
      .object [
        (.ok "name", .text "s"),
        (.ok "tables", .array []),
        (.ok "functions", .array [
          .object [
            (.ok "name", .text "f"),
            (.ok "args", .array []),
            (.ok "return_type", .text "t")]])]])]

theorem sortMembers_resultValue : resultValue.sortMembers = resultCatalogValue.sortMembers := by
  rw [resultValue, resultCatalogValue]
  simp [Value.sortMembers_object, Value.sortMembers_array, Value.sortMembers, Value.precedes,
    Value.text, List.mergeSort, List.MergeSort.Internal.splitInTwo]

/-- An empty schema is not written, so a type that has one shares its text with a type that has
none. Only the latter comes back. -/
theorem ofJson_resultDocument :
    Catalog.ofJson resultDocument = .ok (.withResult { name := "t" }) ∧
      Catalog.ofJson resultDocument ≠ .ok (.withResult { schema := some "", name := "t" }) := by
  rcases documents_recovered_iff with ⟨_, _, _, _, _, _, _, _, _, _, _, _, loaded⟩
  have written : Catalog.codec.encode? (.withResult { name := "t" }) = some resultCatalogValue :=
    rfl
  have writtenToo : Catalog.codec.encode? (.withResult { schema := some "", name := "t" }) =
      some resultCatalogValue := rfl
  have isLoaded := (loaded _ _ _ _ ofText?_resultDocument written sortMembers_resultValue).mpr
    (by decide)
  refine ⟨isLoaded, ?_⟩
  intro isLoadedToo
  have readsBack := (loaded _ _ _ _ ofText?_resultDocument writtenToo
    sortMembers_resultValue).mp isLoadedToo
  revert readsBack
  decide

end PlaceholderTyping
