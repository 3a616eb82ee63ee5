import PlaceholderTyping.Proofs.Catalog.Candidates
import PlaceholderTyping.Proofs.Typing.Assignment
import PlaceholderTyping.Proofs.Typing.Inference

/-!
# Placeholders that are compared with columns

A placeholder under an operator takes the type of the first column on the left. The main statement
says which failure there is and when, and which column it is that tells the type otherwise, going by
the tables that are mentioned and by the catalog. Each mention of a table counts, so that a table
that is mentioned twice makes its columns ambiguous, unless a qualifier singles one mention out.
-/

namespace PlaceholderTyping

/-! ## Tables with a column -/

def CatalogView.declares (view : CatalogView) (name : String) (table : TableRef) : Bool :=
  match view.table table.tableName with
  | .ok source => source.columns.any (·.name = name)
  | .error _ => false

variable {view : CatalogView} {tables : List TableRef} {name : String}

theorem CatalogView.isSome_lastColumn? (view : CatalogView) (name : String) (table : TableRef) :
    (view.lastColumn? table.tableName name).isSome = view.declares name table := by
  unfold lastColumn? declares
  cases view.table table.tableName with
  | error failure => rfl
  | ok source =>
      apply Bool.eq_iff_iff.mpr
      simp [Except.toOption, Table.lastColumn?]

def CatalogView.candidateColumn? (view : CatalogView) (name : String) (table : TableRef) :
    Option (QualifiedName × Column) :=
  (view.lastColumn? table.tableName name).map fun column => (table.tableName, column)

theorem CatalogView.isSome_candidateColumn? (view : CatalogView) (name : String)
    (table : TableRef) :
    (view.candidateColumn? name table).isSome = view.declares name table := by
  rw [candidateColumn?, Option.isSome_map, isSome_lastColumn?]

namespace Inference

theorem candidateColumns_ofTables (noEmptySchema : ∀ table ∈ tables, table.schema ≠ some "")
    (qualifier : Option String) (name : String) :
    candidateColumns (.ofTables view tables) qualifier name =
      (TableRef.inQuestion tables qualifier).filterMap (view.candidateColumn? name) := by
  rw [candidateColumns, Scope.candidates_ofTables, List.filterMap_map]
  apply List.filterMap_congr
  intro table isInQuestion
  rw [Function.comp_apply,
    Scope.column?_ofTables noEmptySchema (TableRef.mem_of_mem_inQuestion isInQuestion)]
  rfl

theorem length_filterMap_candidateColumn? (candidates : List TableRef) :
    (candidates.filterMap (view.candidateColumn? name)).length =
      candidates.countP (view.declares name) := by
  rw [List.length_filterMap_eq_countP]
  apply List.countP_congr
  intro table _
  rw [view.isSome_candidateColumn?]

theorem filterMap_candidateColumn?_of_filter_declares {candidates : List TableRef}
    {owner : TableRef} (unique : candidates.filter (view.declares name) = [owner]) :
    ∃ source column, view.table owner.tableName = .ok source ∧
      source.lastColumn? name = some column ∧
      candidates.filterMap (view.candidateColumn? name) = [(owner.tableName, column)] := by
  have declares : view.declares name owner = true :=
    List.of_mem_filter (unique ▸ List.mem_singleton_self owner)
  rw [← view.isSome_lastColumn?] at declares
  rcases Option.isSome_iff_exists.mp declares with ⟨column, isLast⟩
  rcases CatalogView.lastColumn?_eq_some_iff.mp isLast with ⟨source, known, isColumn⟩
  refine ⟨source, column, known, isColumn, ?_⟩
  have onlyOwner : candidates.filterMap (view.candidateColumn? name) =
      [owner].filterMap (view.candidateColumn? name) := by
    rw [← unique, List.filterMap_filter]
    apply List.filterMap_congr
    intro table _
    rw [← view.isSome_candidateColumn?]
    cases view.candidateColumn? name table <;> rfl
  rw [onlyOwner, List.filterMap_cons, CatalogView.candidateColumn?, isLast]
  rfl

end Inference

/-! ## Resolving a comparison -/

section

variable {config : Config} {names : PlaceholderNames} {occurrence : Occurrence}
  {operation : Operation Node}

theorem resolve_of_operation (context : occurrence.context = .node (.operation operation)) :
    resolve config view tables [occurrence] names =
      (fun inference =>
          ((Outcome.typed inference).parameter? names occurrence.ordinal).toList) <$>
        Inference.ofOperation (.ofTables view tables) occurrence.rename operation := by
  have outcome : occurrence.outcome config view (.ofTables view tables) =
      .typed <$> Inference.ofOperation (.ofTables view tables) occurrence.rename operation := by
    rw [Occurrence.outcome, context]
  rw [resolve_singleton_eq, outcome]
  cases Inference.ofOperation (.ofTables view tables) occurrence.rename operation <;> rfl

theorem resolve_of_operation_eq_error_iff
    (context : occurrence.context = .node (.operation operation)) (failure : TypingError) :
    resolve config view tables [occurrence] names = .error failure ↔
      Inference.ofOperation (.ofTables view tables) occurrence.rename operation =
        .error failure := by
  rw [resolve_of_operation context, map_eq_error_iff]

theorem resolve_eq_noColumnReference_iff
    (context : occurrence.context = .node (.operation operation)) (location : Nat) :
    resolve config view tables [occurrence] names = .error (.noColumnReference location) ↔
      operation.left.bind Node.firstColumn? = none ∧ location = operation.location ∨
        ∃ reference, operation.left.bind Node.firstColumn? = some reference ∧
          reference.names = [] ∧ location = reference.location := by
  rw [resolve_of_operation_eq_error_iff context, Inference.ofOperation_eq_error_iff]
  simp [Inference.columnName_eq_error_iff]

theorem resolve_eq_tooManyQualifiers_iff
    (context : occurrence.context = .node (.operation operation)) (components : List String)
    (location : Nat) :
    resolve config view tables [occurrence] names =
        .error (.tooManyQualifiers components location) ↔
      ∃ reference, operation.left.bind Node.firstColumn? = some reference ∧
        3 ≤ reference.names.length ∧ components = reference.names ∧
        location = reference.location := by
  rw [resolve_of_operation_eq_error_iff context, Inference.ofOperation_eq_error_iff]
  simp [Inference.columnName_eq_error_iff]

variable {reference : ColumnRef Node} {qualifier : Option String}

theorem resolve_eq_columnNotFound_iff (noEmptySchema : ∀ table ∈ tables, table.schema ≠ some "")
    (context : occurrence.context = .node (.operation operation))
    (isFirst : operation.left.bind Node.firstColumn? = some reference)
    (spelled : reference.names = qualifier.toList ++ [name]) :
    resolve config view tables [occurrence] names =
        .error (.columnNotFound name reference.location) ↔
      ∀ candidate ∈ TableRef.inQuestion tables qualifier,
        view.declares name candidate = false := by
  have isName := Inference.columnName_eq_ok_iff.mpr spelled
  rw [resolve_of_operation_eq_error_iff context,
    Inference.ofOperation_eq_error_iff_of_columnName isFirst isName,
    Inference.candidateColumns_ofTables noEmptySchema, ← List.length_eq_zero_iff,
    Inference.length_filterMap_candidateColumn?, List.countP_eq_zero]
  simp

theorem resolve_eq_ambiguousColumn_iff (noEmptySchema : ∀ table ∈ tables, table.schema ≠ some "")
    (context : occurrence.context = .node (.operation operation))
    (isFirst : operation.left.bind Node.firstColumn? = some reference)
    (spelled : reference.names = qualifier.toList ++ [name]) :
    resolve config view tables [occurrence] names =
        .error (.ambiguousColumn name reference.location) ↔
      2 ≤ (TableRef.inQuestion tables qualifier).countP (view.declares name) := by
  have isName := Inference.columnName_eq_ok_iff.mpr spelled
  rw [resolve_of_operation_eq_error_iff context,
    Inference.ofOperation_eq_error_iff_of_columnName isFirst isName,
    Inference.candidateColumns_ofTables noEmptySchema,
    Inference.length_filterMap_candidateColumn?]
  simp

theorem resolve_of_unique_candidate
    (noEmptySchema : ∀ table ∈ tables, table.schema ≠ some "")
    (context : occurrence.context = .node (.operation operation))
    (isFirst : operation.left.bind Node.firstColumn? = some reference)
    (spelled : reference.names = qualifier.toList ++ [name]) {owner : TableRef}
    (unique : (TableRef.inQuestion tables qualifier).filter (view.declares name) = [owner]) :
    ∃ source column, view.table owner.tableName = .ok source ∧
      source.lastColumn? name = some column ∧
      resolve config view tables [occurrence] names =
        .ok [.ofColumn names occurrence.ordinal owner.tableName (occurrence.rename.getD name)
          column] := by
  rcases Inference.filterMap_candidateColumn?_of_filter_declares unique with
    ⟨source, column, known, isColumn, found⟩
  refine ⟨source, column, known, isColumn, ?_⟩
  rw [← Inference.candidateColumns_ofTables noEmptySchema] at found
  have inferred := (Inference.ofOperation_eq_ok_iff _ occurrence.rename operation _).mpr
    ⟨reference, qualifier, name, owner.tableName, column, isFirst,
      Inference.columnName_eq_ok_iff.mpr spelled, found, rfl⟩
  rw [resolve_of_operation context, inferred]
  rfl

end

/-- Suppose that no table is mentioned with an empty schema. A placeholder under an operator is
resolved by the first column on the left. That column has to be there and to have one or two
components. It has to be declared by exactly one of the mentioned tables in question, counting each
mention, and then its declaration is what the parameter shows. So no column is ambiguous under a
qualifier that singles a table out, and any other qualifier has no effect. -/
theorem resolve_compared (config : Config) (view : CatalogView) (names : PlaceholderNames)
    {tables : List TableRef} (occurrence : Occurrence) {operation : Operation Node}
    (noEmptySchema : ∀ table ∈ tables, table.schema ≠ some "")
    (context : occurrence.context = .node (.operation operation)) :
    let resolved := resolve config view tables [occurrence] names
    let first := operation.left.bind Node.firstColumn?
    (∀ location, resolved = .error (.noColumnReference location) ↔
        first = none ∧ location = operation.location ∨
          ∃ reference, first = some reference ∧ reference.names = [] ∧
            location = reference.location) ∧
      (∀ components location, resolved = .error (.tooManyQualifiers components location) ↔
        ∃ reference, first = some reference ∧ 3 ≤ reference.names.length ∧
          components = reference.names ∧ location = reference.location) ∧
      ∀ reference qualifier name, first = some reference →
        reference.names = qualifier.toList ++ [name] →
        let candidates := TableRef.inQuestion tables qualifier
        (resolved = .error (.columnNotFound name reference.location) ↔
            ∀ candidate ∈ candidates, view.declares name candidate = false) ∧
          (resolved = .error (.ambiguousColumn name reference.location) ↔
            2 ≤ candidates.countP (view.declares name)) ∧
          (∀ owner, candidates.filter (view.declares name) = [owner] →
            ∃ source column, view.table owner.tableName = .ok source ∧
              source.lastColumn? name = some column ∧
              resolved = .ok [.ofColumn names occurrence.ordinal owner.tableName
                (occurrence.rename.getD name) column]) ∧
          ((∃ spelled ∈ qualifier, ∃ table ∈ tables,
              table.aliasName = some spelled ∨ table.relation = spelled) →
            resolved ≠ .error (.ambiguousColumn name reference.location)) ∧
          ((∀ spelled ∈ qualifier, ¬ ∃ table ∈ tables,
              table.aliasName = some spelled ∨ table.relation = spelled) →
            candidates = tables) := by
  intro resolved first
  refine ⟨resolve_eq_noColumnReference_iff context, resolve_eq_tooManyQualifiers_iff context, ?_⟩
  intro reference qualifier name isFirst spelled candidates
  have isAmbiguous : resolved = .error (.ambiguousColumn name reference.location) ↔
      2 ≤ candidates.countP (view.declares name) :=
    resolve_eq_ambiguousColumn_iff noEmptySchema context isFirst spelled
  refine ⟨resolve_eq_columnNotFound_iff noEmptySchema context isFirst spelled, isAmbiguous, ?_, ?_,
    TableRef.inQuestion_eq_self⟩
  · intro owner unique
    exact resolve_of_unique_candidate noEmptySchema context isFirst spelled unique
  · intro ⟨given, isGiven, singlesOut⟩ ambiguous
    cases isGiven
    have oneCandidate : candidates.length = 1 := TableRef.length_inQuestion singlesOut
    have atMostOne : candidates.countP (view.declares name) ≤ candidates.length :=
      List.countP_le_length
    have atLeastTwo : 2 ≤ candidates.countP (view.declares name) := isAmbiguous.mp ambiguous
    omega

/-! ## Aliases that are used again -/

namespace Catalog

def withUsersAndPosts : Catalog :=
  let ofId (name type : String) : Table := { name, columns := [.ofType "id" { name := type }] }
  (((empty "public").addTable "public" (ofId "users" "int4")).addTable "public"
    (ofId "posts" "int8")).addTable "shop" (ofId "users" "uuid")

end Catalog

def usersAsPosts : TableRef where
  relation := "users"
  aliasName := some "posts"
  location := 14

def shopUsersAsP : TableRef where
  schema := some "shop"
  relation := "users"
  aliasName := some "p"
  location := 52

/-- `FROM users AS posts, ghosts, posts AS p, shop.users AS p` -/
def aliasedMentions : List TableRef :=
  [ usersAsPosts,
    { relation := "ghosts", location := 30 },
    { relation := "posts", aliasName := some "p", location := 38 },
    shopUsersAsP ]

def comparedWith (components : List String) : Occurrence where
  placeholder := { ordinal := 1, location := 92 }
  context := .node <| .operation {
    name := ["="]
    left := some (.column { fields := components.map .text, location := 80 })
    right := some (.placeholder { ordinal := 1, location := 92 })
    location := 90 }

/-- The last alias `p` counts, the alias `posts` hides the table of that name, and a table that the
catalog does not know has no columns. -/
theorem resolve_comparedWith :
    let resolved (components : List String) :=
      resolve {} Catalog.withUsersAndPosts.view aliasedMentions [comparedWith components] ∅
    resolved ["p", "id"] =
        .ok [.ofColumn ∅ 1 shopUsersAsP.tableName "id" (.ofType "id" { name := "uuid" })] ∧
      resolved ["posts", "id"] =
        .ok [.ofColumn ∅ 1 usersAsPosts.tableName "id" (.ofType "id" { name := "int4" })] ∧
      resolved ["ghosts", "id"] = .error (.columnNotFound "id" 80) ∧
      resolved ["id"] = .error (.ambiguousColumn "id" 80) := by
  intro resolved
  have noEmptySchema : ∀ table ∈ aliasedMentions, table.schema ≠ some "" := by decide
  have decided (components : List String) := resolve_compared {} Catalog.withUsersAndPosts.view ∅
    (comparedWith components) noEmptySchema rfl
  refine ⟨?_, ?_, ?_, ?_⟩
  · rcases decided ["p", "id"] with ⟨_, _, ofReference⟩
    rcases ofReference _ (some "p") "id" (by cbv) rfl with ⟨_, _, succeeds, _⟩
    rcases succeeds shopUsersAsP rfl with ⟨source, column, known, isColumn, resolvedIs⟩
    cases known
    cases isColumn
    exact resolvedIs
  · rcases decided ["posts", "id"] with ⟨_, _, ofReference⟩
    rcases ofReference _ (some "posts") "id" (by cbv) rfl with ⟨_, _, succeeds, _⟩
    rcases succeeds usersAsPosts rfl with ⟨source, column, known, isColumn, resolvedIs⟩
    cases known
    cases isColumn
    exact resolvedIs
  · rcases decided ["ghosts", "id"] with ⟨_, _, ofReference⟩
    rcases ofReference _ (some "ghosts") "id" (by cbv) rfl with ⟨notFoundIff, _⟩
    exact notFoundIff.mpr (by decide)
  · rcases decided ["id"] with ⟨_, _, ofReference⟩
    rcases ofReference _ none "id" (by cbv) rfl with ⟨_, ambiguousIff, _⟩
    exact ambiguousIff.mpr (by decide)

end PlaceholderTyping
