import Mathlib
import PlaceholderTyping.Proofs.Catalog.Additions
import PlaceholderTyping.Proofs.Typing.Resolution

/-!
# What a resolution asks of a catalog

A resolution asks for the tables that are mentioned and for the functions under whose calls
placeholders stand, and of the answers only what was found matters to it, not why something was not
found. So what is added to a catalog makes no difference to it unless it is asked for.
-/

namespace PlaceholderTyping

/-! ## Asking -/

section

variable {config : Config} {view other : CatalogView} {tables : List TableRef}

theorem Scope.indexTable_congr {name : QualifiedName}
    (foundAlike : (other.table name).toOption = (view.table name).toOption)
    (index : OrderedMap (String × String) ColumnIndex) :
    indexTable other index name = indexTable view index name := by
  unfold indexTable
  cases otherIs : other.table name <;> cases viewIs : view.table name <;>
    simp_all [Except.toOption]

theorem Scope.ofTables_congr
    (foundAlike : ∀ table ∈ tables,
      (other.table table.tableName).toOption = (view.table table.tableName).toOption) :
    ofTables other tables = ofTables view tables := by
  rw [ofTables, ofTables]
  apply congrArg (Scope.mk _ _)
  apply List.foldl_ext
  intro index name isMentioned
  rcases List.mem_map.mp isMentioned with ⟨table, mentioned, rfl⟩
  exact indexTable_congr (foundAlike table mentioned) index

theorem Inference.calledFunction_congr {call : Call Node}
    (foundAlike : (other.function call.function call.arguments.length).toOption =
      (view.function call.function call.arguments.length).toOption) :
    calledFunction other call = calledFunction view call := by
  unfold calledFunction
  cases otherIs : other.function call.function call.arguments.length <;>
    cases viewIs : view.function call.function call.arguments.length <;>
    simp_all [Except.toOption]

theorem Occurrence.outcome_congr (scope : Scope) {occurrence : Occurrence}
    (foundAlike : ∀ call, occurrence.context = .node (.call call) →
      (other.function call.function call.arguments.length).toOption =
        (view.function call.function call.arguments.length).toOption) :
    occurrence.outcome config other scope = occurrence.outcome config view scope := by
  rcases occurrence with ⟨parameter, context, table, rename⟩
  cases context with
  | limit | offset => rfl
  | node parent =>
      cases parent with
      | call expression =>
          have sameFunction := Inference.calledFunction_congr (foundAlike expression rfl)
          simp only [outcome, Inference.ofCall, sameFunction]
      | _ => rfl

/-- Two catalogs in which the same is found of all that a resolution asks for resolve alike. -/
theorem resolve_view_congr {names : PlaceholderNames} {occurrences : List Occurrence}
    (tablesAlike : ∀ table ∈ tables,
      (other.table table.tableName).toOption = (view.table table.tableName).toOption)
    (functionsAlike : ∀ occurrence ∈ occurrences, ∀ call,
      occurrence.context = .node (.call call) →
        (other.function call.function call.arguments.length).toOption =
          (view.function call.function call.arguments.length).toOption) :
    resolve config other tables occurrences names =
      resolve config view tables occurrences names := by
  apply resolve_congr
  intro occurrence member
  rw [Scope.ofTables_congr tablesAlike]
  exact Occurrence.outcome_congr _ (functionsAlike occurrence member)

end

/-! ## Adding -/

namespace Catalog

/-- A table that is added makes no difference unless it is mentioned, where a mention without a
schema means a table of the default schema. A function that is added makes no difference unless a
placeholder stands under a call of its name with its number of arguments. -/
theorem resolve_added (config : Config) (catalog : Catalog) (schema : String)
    (tables : List TableRef) (occurrences : List Occurrence) (names : PlaceholderNames) :
    let resolved (catalog : Catalog) := resolve config catalog.view tables occurrences names
    (∀ table : Table,
        (∀ mention ∈ tables,
          ¬ (mention.schema.getD catalog.defaultSchema = schema ∧
            mention.relation = table.name)) →
        resolved (catalog.addTable schema table) = resolved catalog) ∧
      ∀ function : Signature,
        (∀ occurrence ∈ occurrences, ∀ call, occurrence.context = .node (.call call) →
          ¬ (call.function.name = function.name ∧
            call.arguments.length = function.arguments.length)) →
        resolved (catalog.addFunction schema function) = resolved catalog := by
  intro resolved
  constructor
  · intro table unmentioned
    apply resolve_view_congr
    · intro mention mentioned
      exact toOption_table_addTable (unmentioned mention mentioned)
    · intro occurrence _ call _
      exact congrArg Except.toOption (function_addTable catalog schema table)
  · intro function uncalled
    apply resolve_view_congr
    · intro mention _
      exact toOption_table_addFunction catalog schema function mention.tableName
    · intro occurrence member call context
      exact congrArg Except.toOption
        (function_addFunction (uncalled occurrence member call context) catalog schema)

/-! ## Namesakes in a new default schema -/

def withRepeatedSchema : Catalog where
  defaultSchema := "public"
  schemas := [
    { name := "app"
      tables := [{ name := "users", columns := [.ofType "id" { name := "int4" }] }]
      functions := [{
        name := "lower"
        arguments := [{ type := { name := "text" } }]
        result := { name := "text" } }] },
    { name := "app", tables := [{ name := "users" }] }]

/-- `$1` in `id = $1`, where `id` is at 27, and `$2` in `lower($2)`. -/
def userOccurrences : List Occurrence :=
  let first : Placeholder := { ordinal := 1, location := 32 }
  let second : Placeholder := { ordinal := 2, location := 52 }
  [ { placeholder := first
      context := .node <| .operation {
        name := ["="]
        left := some (.column { fields := [.text "id"], location := 27 })
        right := some (.placeholder first)
        location := 30 } },
    { placeholder := second
      context := .node <| .call {
        function := { name := "lower" }
        arguments := [.placeholder second]
        location := 46 } } ]

def appUsers : TableRef where
  schema := some "app"
  relation := "users"
  location := 14

def userParameters : List Parameter :=
  [ { ordinal := 1
      type := some {
        name := "id"
        dataType := "int4"
        isNotNull := false
        isArray := false
        table := some appUsers.tableName } },
    { ordinal := 2
      type := some {
        name := "lower"
        dataType := "text"
        isNotNull := true
        isArray := false } } ]

theorem resolve_withRepeatedSchema :
    resolve {} withRepeatedSchema.view [appUsers] userOccurrences ∅ = .ok userParameters := by
  cbv

/-- The default schema is created and comes first in searches, but what is in it is not asked for. -/
theorem resolve_addedNamesakes :
    let resolved (catalog : Catalog) := resolve {} catalog.view [appUsers] userOccurrences ∅
    let otherLower : Signature := {
      name := "lower"
      arguments := [{ type := .any }, { type := .any }]
      result := .any }
    resolved (withRepeatedSchema.addTable "public" { name := "users" }) = .ok userParameters ∧
      resolved (withRepeatedSchema.addFunction "public" otherLower) = .ok userParameters := by
  intro resolved otherLower
  rcases resolve_added {} withRepeatedSchema "public" [appUsers] userOccurrences ∅ with
    ⟨tables, functions⟩
  refine ⟨(tables _ ?_).trans resolve_withRepeatedSchema,
    (functions _ ?_).trans resolve_withRepeatedSchema⟩
  · decide
  · intro occurrence member call context
    rcases List.mem_pair.mp member with rfl | rfl
    · cases context
    · cases context
      decide

end Catalog

end PlaceholderTyping
