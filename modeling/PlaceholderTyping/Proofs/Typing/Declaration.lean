import Mathlib
import PlaceholderTyping.Proofs.Catalog.Columns
import PlaceholderTyping.Proofs.Typing.Inference
import PlaceholderTyping.Proofs.Typing.Resolution

/-!
# Declarations

A typed parameter counts rows, or else its type is declared: with a column, with an argument of a
function or in a cast. The parameter shows the declared type without its array bounds, and a mark
in their place. The main statement is when that mark is right. It is not for an argument that is an
array, nor for a column that is marked otherwise than its type says.
-/

namespace PlaceholderTyping

inductive Declaration where
  | column (column : Column)
  | argument (argument : Argument)
  | cast (type : TypeName)

namespace Declaration

def type : Declaration → TypeName
  | .column declared => declared.type
  | .argument declared => declared.type
  | .cast declared => declared

/-- What a parameter is told of array bounds. A column has a mark of its own for them, and an
argument always passes for a single value. -/
def isArray : Declaration → Bool
  | .column declared => declared.isArray
  | .argument _ => false
  | .cast declared => declared.isArray

def IsFaithful : Declaration → Prop
  | .column declared => declared.isArray = declared.type.isArray
  | .argument declared => declared.type.arrayBounds = 0
  | .cast _ => True

theorem isFaithful_iff (declaration : Declaration) :
    declaration.IsFaithful ↔
      (declaration.isArray = true ↔ 0 < declaration.type.arrayBounds) := by
  cases declaration with
  | column declared =>
      change declared.isArray = decide (0 < declared.type.arrayBounds) ↔
        (declared.isArray = true ↔ 0 < declared.type.arrayBounds)
      rw [Bool.eq_iff_iff, decide_eq_true_iff]
  | argument declared =>
      change declared.type.arrayBounds = 0 ↔ (false = true ↔ 0 < declared.type.arrayBounds)
      simp
  | cast declared => exact iff_of_true trivial decide_eq_true_iff

end Declaration

namespace Occurrence

/-- An occurrence has its type from a declaration: that of a column that it is compared with or
assigned to, which comes with the name of the table, that of an argument that it is passed for, or
that of a cast around it. -/
inductive DeclaredBy (view : CatalogView) (tables : List TableRef) (occurrence : Occurrence) :
    Option QualifiedName → Declaration → Prop where
  | comparison {operation : Operation Node} {reference : ColumnRef Node}
      {qualifier : Option String} {name : String} {table : QualifiedName} {column : Column}
      (context : occurrence.context = .node (.operation operation))
      (compared : operation.left.bind Node.firstColumn? = some reference)
      (spelled : Inference.columnName reference = .ok (qualifier, name))
      (unique : Inference.candidateColumns (.ofTables view tables) qualifier name =
        [(table, column)]) :
      DeclaredBy view tables occurrence (some table) (.column column)
  | assignment {target : Target Node} {name : String} {table : QualifiedName} {column : Column}
      (context : occurrence.context = .node (.target target))
      (assigned : target.name = some name)
      (inTable : (occurrence.table.map TableRef.tableName).or
        (Scope.ofTables view tables).defaultTable? = some table)
      (found : (Scope.ofTables view tables).column? table name = some column) :
      DeclaredBy view tables occurrence (some table) (.column column)
  | argument {call : Call Node} {position : Nat} {label : Option String} {argument : Argument}
      (context : occurrence.context = .node (.call call))
      (passed : Inference.argumentSlot? occurrence.ordinal call.arguments = some (position, label))
      (declared : (Inference.calledFunction view call).1.arguments[position]? = some argument) :
      DeclaredBy view tables occurrence none (.argument argument)
  | cast {expression : Cast Node} {type : TypeName}
      (context : occurrence.context = .node (.cast expression))
      (declared : expression.type = some type) :
      DeclaredBy view tables occurrence none (.cast type)

def CountsRows (occurrence : Occurrence) : Prop :=
  occurrence.context = .limit ∨ occurrence.context = .offset

/-- A column that an occurrence has its type from is one of a table that is mentioned. -/
theorem DeclaredBy.hasColumn {view : CatalogView} {tables : List TableRef}
    {occurrence : Occurrence} {table : QualifiedName} {column : Column}
    (declared : occurrence.DeclaredBy view tables (some table) (.column column)) :
    view.HasColumn tables table column := by
  cases declared with
  | comparison _ _ _ unique =>
      have isCandidate : (table, column) ∈ Inference.candidateColumns _ _ _ :=
        unique ▸ List.mem_singleton_self _
      have found := Inference.column?_of_mem_candidateColumns isCandidate
      exact (Scope.hasColumn_of_column? found).2
  | assignment _ _ _ found => exact (Scope.hasColumn_of_column? found).2

theorem DeclaredBy.mem_columns {catalog : Catalog} {tables : List TableRef}
    {occurrence : Occurrence} {owner : Option QualifiedName} {column : Column}
    (declared : occurrence.DeclaredBy catalog.view tables owner (.column column)) :
    column ∈ catalog.columns := by
  cases owner with
  | none => cases declared
  | some table =>
      rcases declared.hasColumn with ⟨mention, _, source, _, _, found, member⟩
      exact Catalog.mem_columns_of_table found member

/-- In a catalog that is built up by additions only arrays among the arguments go wrong. -/
theorem DeclaredBy.isFaithful_iff {catalog : Catalog} (built : catalog.Built)
    {tables : List TableRef} {occurrence : Occurrence} {owner : Option QualifiedName}
    {declaration : Declaration}
    (declared : occurrence.DeclaredBy catalog.view tables owner declaration) :
    declaration.IsFaithful ↔
      ¬ ∃ argument, declaration = .argument argument ∧ 0 < argument.type.arrayBounds := by
  cases declaration with
  | column column =>
      refine iff_of_true (built.isArray_eq declared.mem_columns) ?_
      rintro ⟨argument, same, _⟩
      cases same
  | argument argument => simp [Declaration.IsFaithful]
  | cast type =>
      refine iff_of_true trivial ?_
      rintro ⟨argument, same, _⟩
      cases same

variable {config : Config} {view : CatalogView} {tables : List TableRef} {occurrence : Occurrence}
  {inference : Inference}

/-- Whatever types an occurrence is a number of rows or a declaration. -/
theorem declaredBy_of_outcome_eq_typed
    (typed : occurrence.outcome config view (.ofTables view tables) = .ok (.typed inference)) :
    occurrence.CountsRows ∨
      ∃ declaration, occurrence.DeclaredBy view tables inference.table declaration ∧
        inference.dataType = declaration.type.dataType ∧
        inference.isArray = declaration.isArray := by
  unfold outcome at typed
  split at typed
  · next context => exact .inl (.inl context)
  · next context => exact .inl (.inr context)
  · next operation context =>
      rcases map_eq_ok_iff.mp typed with ⟨_, ofOperation, same⟩
      cases same
      rcases (Inference.ofOperation_eq_ok_iff _ _ _ _).mp ofOperation with
        ⟨reference, qualifier, name, table, column, compared, spelled, unique, rfl⟩
      exact .inr ⟨.column column, .comparison context compared spelled unique, rfl, rfl⟩
  · next call context =>
      rcases (Inference.ofCall_eq_typed_iff _ _ _ _ _).mp typed with
        ⟨position, label, argument, passed, declared, rfl⟩
      exact .inr ⟨.argument argument, .argument context passed declared, rfl, rfl⟩
  · next target context =>
      rcases map_eq_ok_iff.mp typed with ⟨_, ofTarget, same⟩
      cases same
      rcases (Inference.ofTarget_eq_ok_iff _ _ _ _).mp ofTarget with
        ⟨name, table, column, assigned, inTable, found, rfl⟩
      exact .inr ⟨.column column, .assignment context assigned inTable found, rfl, rfl⟩
  · next expression context =>
      rcases map_eq_ok_iff.mp typed with ⟨_, ofCast, same⟩
      cases same
      rcases (Inference.ofCast_eq_ok_iff _ _ _).mp ofCast with ⟨type, declared, rfl⟩
      exact .inr ⟨.cast type, .cast context declared, rfl, rfl⟩
  · cases typed
  · split at typed <;> cases typed

theorem outcome_of_parameter?_eq_some {names : PlaceholderNames} {scope : Scope}
    {parameter : Parameter}
    (isParameter : occurrence.parameter? config view names scope = .ok (some parameter))
    {type : ParameterType} (hasType : parameter.type = some type) :
    ∃ inference, occurrence.outcome config view scope = .ok (.typed inference) ∧
      type.dataType = inference.dataType ∧ type.isArray = inference.isArray ∧
      type.table = inference.table := by
  rcases exists_inference_of_parameter?_eq_some isParameter hasType with ⟨inference, typed, rfl⟩
  exact ⟨inference, typed, rfl, rfl, rfl⟩

end Occurrence

/-- The type of a parameter is that of a number of rows, or it is declared for the occurrence that
the parameter comes of. The parameter is marked as an array exactly if the declared type has array
bounds, unless the declaration is an argument with such bounds or a column with a mark that is at
odds with its type. Catalogs that are built up by additions have no such columns. -/
theorem Parameter.exists_declaration_of_resolve {config : Config} {catalog : Catalog}
    {tables : List TableRef} {occurrences : List Occurrence} {names : PlaceholderNames}
    {parameters : List Parameter}
    (resolved : resolve config catalog.view tables occurrences names = .ok parameters) :
    ∀ parameter ∈ parameters, ∀ type, parameter.type = some type →
      ∃ occurrence ∈ occurrences,
        occurrence.parameter? config catalog.view names (.ofTables catalog.view tables) =
            .ok (some parameter) ∧
          (occurrence.CountsRows ∨
            ∃ declaration, occurrence.DeclaredBy catalog.view tables type.table declaration ∧
              type.dataType = declaration.type.dataType ∧
              ((type.isArray = true ↔ 0 < declaration.type.arrayBounds) ↔
                declaration.IsFaithful) ∧
              (catalog.Built → (declaration.IsFaithful ↔
                ¬ ∃ argument, declaration = .argument argument ∧
                  0 < argument.type.arrayBounds))) := by
  intro parameter member type hasType
  rcases exists_parameter?_of_mem_resolve resolved member with ⟨occurrence, occurs, isParameter⟩
  rcases Occurrence.outcome_of_parameter?_eq_some isParameter hasType with
    ⟨inference, typed, sameType, sameMark, sameTable⟩
  refine ⟨occurrence, occurs, isParameter, ?_⟩
  rcases Occurrence.declaredBy_of_outcome_eq_typed typed with
    counts | ⟨declaration, declared, dataType, isArray⟩
  · exact .inl counts
  · rw [← sameTable] at declared
    refine .inr ⟨declaration, declared, sameType.trans dataType, ?_, ?_⟩
    · rw [sameMark, isArray]
      exact declaration.isFaithful_iff.symm
    · intro built
      exact declared.isFaithful_iff built

/-! ## An array that passes for a single value -/

namespace Catalog

def withCardinality : Catalog :=
  (empty "public").addFunction "pg_catalog" {
    name := "cardinality"
    arguments := [{ type := { name := "int4", arrayBounds := 1 } }]
    result := { name := "int4" } }

theorem built_withCardinality : withCardinality.Built :=
  .addFunction (.empty "public") "pg_catalog" _

end Catalog

namespace Statement

def cardinalityCall : Call Node where
  function := { name := "cardinality" }
  arguments := [.placeholder { ordinal := 1, location := 19 }]
  location := 7

def cardinalityOfParameter : Statement where
  root := .select {
    targets := [.target { name := none, value := some (.call cardinalityCall), location := 7 }]
    sources := []
    filter := none
    rows := []
    limit := none
    offset := none }
  location := 0
  length := 22

theorem occurrences_cardinalityOfParameter :
    (cardinalityOfParameter.normalize {}).statement.findPlaceholders.occurrences =
      [{ placeholder := { ordinal := 1, location := 19 }
         context := .node (.call cardinalityCall) }] := by
  cbv

theorem parameters_cardinalityOfParameter :
    (cardinalityOfParameter.normalize {}).parameters {} Catalog.withCardinality.view =
      .ok [{
        ordinal := 1
        type := some {
          name := "cardinality", dataType := "int4", isNotNull := true, isArray := false } }] := by
  cbv

theorem cardinalityOfParameter_isDeclared :
    let found := (cardinalityOfParameter.normalize {}).statement.findPlaceholders
    ∃ occurrence ∈ found.occurrences, ∃ declaration,
      occurrence.DeclaredBy Catalog.withCardinality.view found.tables none declaration ∧
        declaration.type.dataType = "int4" ∧
        (declaration.IsFaithful ↔ declaration.type.arrayBounds = 0) := by
  intro found
  rcases Parameter.exists_declaration_of_resolve parameters_cardinalityOfParameter _
    List.mem_cons_self _ rfl with ⟨occurrence, member, _, counts | declares⟩
  · rw [occurrences_cardinalityOfParameter, List.mem_singleton] at member
    subst member
    rcases counts with counts | counts <;> cases counts
  · rcases declares with ⟨declaration, declared, dataType, marked, _⟩
    refine ⟨occurrence, member, declaration, declared, dataType.symm, ?_⟩
    rw [← marked]
    simp

theorem arrayArgument_passesForElement :
    let found := (cardinalityOfParameter.normalize {}).statement.findPlaceholders
    Catalog.withCardinality.Built ∧
      (∃ occurrence ∈ found.occurrences, ∃ argument,
        occurrence.DeclaredBy Catalog.withCardinality.view found.tables none
            (.argument argument) ∧
          0 < argument.type.arrayBounds) ∧
      (cardinalityOfParameter.normalize {}).parameters {} Catalog.withCardinality.view =
        .ok [{
          ordinal := 1
          type := some {
            name := "cardinality"
            dataType := "int4"
            isNotNull := true
            isArray := false } }] := by
  intro found
  refine ⟨Catalog.built_withCardinality, ?_, parameters_cardinalityOfParameter⟩
  have occurrences : found.occurrences = _ := occurrences_cardinalityOfParameter
  rw [occurrences]
  exact ⟨_, List.mem_singleton_self _, _, .argument rfl rfl rfl, Nat.one_pos⟩

end Statement

end PlaceholderTyping
