import Mathlib.Data.List.Nodup
import PlaceholderTyping.Proofs.Catalog.ScopeColumns

/-!
# Scopes and direct look-ups

A look-up in a catalog itself finds the table and in it the first column of a name. A scope answers
from an index: it finds the last column of that name, and it finds it in the table that stands under
the key. The main statement says what a scope finds of a table that is mentioned, and when that is
what the catalog finds.
-/

namespace PlaceholderTyping

def CatalogView.column? (view : CatalogView) (table : QualifiedName) (name : String) :
    Option Column :=
  (view.table table).toOption.bind (·.column? name)

namespace Table

variable {table : Table} {name : String}

theorem column?_eq_none_iff :
    table.column? name = none ↔ ∀ column ∈ table.columns, column.name ≠ name := by
  simp [column?]

/-- In a table without namesakes among its columns it does not matter from which end one looks. -/
theorem lastColumn?_eq_column? (distinct : (table.columns.map Column.name).Nodup) :
    table.lastColumn? name = table.column? name := by
  cases last : table.lastColumn? name with
  | none => exact (column?_eq_none_iff.mpr (lastColumn?_eq_none_iff.mp last)).symm
  | some column =>
      rcases mem_of_find?_name last with ⟨isReversed, named⟩
      have member := List.mem_reverse.mp isReversed
      cases first : table.column? name with
      | none => exact absurd named (column?_eq_none_iff.mp first column member)
      | some other =>
          rcases mem_of_find?_name first with ⟨otherMember, otherNamed⟩
          have sameName : column.name = other.name := named.trans otherNamed.symm
          exact congrArg some (List.inj_on_of_nodup_map distinct member otherMember sameName)

end Table

namespace CatalogView

variable {view : CatalogView} {table : QualifiedName} {name : String}

theorem lastColumn?_eq_column?_iff :
    view.lastColumn? table name = view.column? table name ↔
      ∀ source, view.table table = .ok source →
        source.lastColumn? name = source.column? name := by
  unfold lastColumn? column?
  cases view.table table <;> simp [Except.toOption]

end CatalogView

/-- A scope finds of a table that is mentioned the last column of a name in the table under its
key. If no other table that is mentioned has the same key, then this is the column that the catalog
itself finds exactly if the first and the last column of that name are the same. So scope and
catalog agree on a table in which no two columns share a name. -/
theorem Scope.column?_ofTables_eq_column?_iff (view : CatalogView) {tables : List TableRef}
    {table : TableRef} (mentioned : table ∈ tables) :
    let scope := ofTables view tables
    let owner := table.tableName
    (∀ name, scope.column? owner name =
        (view.indexedTable? (tables.map TableRef.tableName) owner.key).bind
          (·.lastColumn? name)) ∧
      ((∀ other ∈ tables, other.tableName.key = owner.key → other.tableName = owner) →
        (∀ name, scope.column? owner name = view.column? owner name ↔
          ∀ source, view.table owner = .ok source →
            source.lastColumn? name = source.column? name) ∧
        ((∀ source, view.table owner = .ok source → (source.columns.map Column.name).Nodup) →
          ∀ name, scope.column? owner name = view.column? owner name)) := by
  intro scope owner
  refine ⟨column?_ofTables_eq view tables owner, ?_⟩
  intro unambiguous
  have agreesIff : ∀ name, scope.column? owner name = view.column? owner name ↔
      ∀ source, view.table owner = .ok source →
        source.lastColumn? name = source.column? name := by
    intro name
    rw [column?_ofTables_of_unambiguous mentioned unambiguous,
      CatalogView.lastColumn?_eq_column?_iff]
  refine ⟨agreesIff, ?_⟩
  intro distinct name
  apply (agreesIff name).mpr
  intro source found
  exact Table.lastColumn?_eq_column? (distinct source found)

/-! ## Repeated columns and shared keys -/

namespace Catalog

/-- A catalog that came from elsewhere, with a column twice. -/
def withRepeatedColumn : Catalog where
  schemas := [{
    name := "public"
    tables := [{
      name := "users"
      columns := [
        .ofType "id" { name := "int4" },
        .ofType "note" { name := "text" },
        .ofType "id" { name := "text" }] }] }]

def usersMention : TableRef where
  relation := "users"
  location := 14

def usersMentionAgain : TableRef where
  schema := some "public"
  relation := "users"
  aliasName := some "u"
  location := 21

theorem column?_withRepeatedColumn :
    let scope := Scope.ofTables withRepeatedColumn.view [usersMention, usersMentionAgain]
    let users := usersMention.tableName
    scope.column? users "note" = withRepeatedColumn.view.column? users "note" ∧
      scope.column? users "id" ≠ withRepeatedColumn.view.column? users "id" := by
  intro scope users
  rcases Scope.column?_ofTables_eq_column?_iff withRepeatedColumn.view
    (List.mem_cons_self : usersMention ∈ [usersMention, usersMentionAgain]) with ⟨_, agrees⟩
  rcases agrees (by decide) with ⟨agreesIff, _⟩
  constructor
  · apply (agreesIff "note").mpr
    intro source found
    cases found
    rfl
  · intro agreesOnId
    have sameColumn := (agreesIff "id").mp agreesOnId _ rfl
    revert sameColumn
    decide

def withNamelessSchema : Catalog where
  schemas := [
    { name := "public"
      tables := [{ name := "users", columns := [.ofType "id" { name := "int4" }] }] },
    { name := ""
      tables := [{ name := "users", columns := [.ofType "id" { name := "text" }] }] }]

def namelessUsersMention : TableRef where
  schema := some ""
  relation := "users"
  location := 21

/-- A scope misses the first of two columns, and a table whose key another table has. -/
theorem column?_ofTables_misses :
    let users := usersMention.tableName
    let repeatedColumn := withRepeatedColumn.view
    let sharedKey := withNamelessSchema.view
    (Scope.ofTables repeatedColumn [usersMention]).column? users "id" =
        some (.ofType "id" { name := "text" }) ∧
      repeatedColumn.column? users "id" = some (.ofType "id" { name := "int4" }) ∧
      (Scope.ofTables sharedKey [usersMention, namelessUsersMention]).column? users "id" =
        some (.ofType "id" { name := "text" }) ∧
      sharedKey.column? users "id" = some (.ofType "id" { name := "int4" }) :=
  ⟨rfl, rfl, rfl, rfl⟩

end Catalog

end PlaceholderTyping
