import PlaceholderTyping.Proofs.Success
import PlaceholderTyping.Typing.Inference

/-!
# When a context tells a type

For each kind of context, all that has to be there for it to tell a type, and the type it tells
then.
-/

namespace PlaceholderTyping

namespace Inference

/-! ## Columns -/

theorem columnName_eq_ok_iff {reference : ColumnRef Node} {qualifier : Option String}
    {name : String} :
    columnName reference = .ok (qualifier, name) ↔
      reference.names = qualifier.toList ++ [name] := by
  unfold columnName
  rcases reference.names with _ | ⟨first, _ | ⟨second, _ | ⟨third, others⟩⟩⟩ <;>
    cases qualifier <;> simp

theorem columnName_eq_error_iff {reference : ColumnRef Node} {failure : TypingError} :
    columnName reference = .error failure ↔
      reference.names = [] ∧ failure = .noColumnReference reference.location ∨
        3 ≤ reference.names.length ∧
          failure = .tooManyQualifiers reference.names reference.location := by
  unfold columnName
  rcases reference.names with _ | ⟨first, _ | ⟨second, _ | ⟨third, others⟩⟩⟩ <;>
    simp [@eq_comm _ failure]

def candidateColumns (scope : Scope) (qualifier : Option String) (name : String) :
    List (QualifiedName × Column) :=
  (scope.candidates qualifier).filterMap fun table =>
    (scope.column? table name).map fun column => (table, column)

theorem column?_of_mem_candidateColumns {scope : Scope} {qualifier : Option String} {name : String}
    {table : QualifiedName} {column : Column}
    (member : (table, column) ∈ candidateColumns scope qualifier name) :
    scope.column? table name = some column := by
  rcases List.mem_filterMap.mp member with ⟨candidate, _, isFound⟩
  rcases Option.map_eq_some_iff.mp isFound with ⟨found, columnFound, same⟩
  cases same
  exact columnFound

theorem ofOperation_eq_ok_iff (scope : Scope) (rename : Option String) (operation : Operation Node)
    (inference : Inference) :
    ofOperation scope rename operation = .ok inference ↔
      ∃ reference qualifier name table column,
        operation.left.bind Node.firstColumn? = some reference ∧
          columnName reference = .ok (qualifier, name) ∧
          candidateColumns scope qualifier name = [(table, column)] ∧
          inference = .ofColumn (rename.getD name) table column := by
  unfold ofOperation
  cases operation.left.bind Node.firstColumn? with
  | none => simp
  | some reference =>
      constructor
      · intro typed
        rcases bind_eq_ok_iff.mp typed with ⟨⟨qualifier, name⟩, spelled, chosen⟩
        dsimp only at chosen
        split at chosen
        · cases chosen
        · next table column unique =>
            cases chosen
            exact ⟨reference, qualifier, name, table, column, rfl, spelled, unique, rfl⟩
        · cases chosen
      · rintro ⟨_, qualifier, name, table, column, found, spelled, unique, rfl⟩
        cases found
        refine bind_eq_ok_iff.mpr ⟨(qualifier, name), spelled, ?_⟩
        unfold candidateColumns at unique
        dsimp only
        rw [unique]
        rfl

theorem ofOperation_eq_error_iff (scope : Scope) (rename : Option String)
    (operation : Operation Node) (failure : TypingError) :
    ofOperation scope rename operation = .error failure ↔
      operation.left.bind Node.firstColumn? = none ∧
          failure = .noColumnReference operation.location ∨
        ∃ reference, operation.left.bind Node.firstColumn? = some reference ∧
          (columnName reference = .error failure ∨
            ∃ qualifier name, columnName reference = .ok (qualifier, name) ∧
              (candidateColumns scope qualifier name = [] ∧
                  failure = .columnNotFound name reference.location ∨
                2 ≤ (candidateColumns scope qualifier name).length ∧
                  failure = .ambiguousColumn name reference.location)) := by
  unfold ofOperation
  cases operation.left.bind Node.firstColumn? with
  | none => simp
  | some reference =>
      refine bind_eq_error_iff.trans ?_
      simp only [reduceCtorEq, false_and, false_or, Option.some.injEq, exists_eq_left',
        Prod.exists]
      refine or_congr_right (exists_congr fun qualifier => exists_congr fun name =>
        and_congr_right fun _ => ?_)
      unfold candidateColumns
      -- There is no column, exactly one, or more than one.
      generalize List.filterMap _ _ = found
      rcases found with _ | ⟨first, _ | ⟨second, others⟩⟩ <;> simp

/-- With a name of a column on the left, the operation fails only if the columns of that name are
none or many. -/
theorem ofOperation_eq_error_iff_of_columnName {scope : Scope} {rename : Option String}
    {operation : Operation Node} {reference : ColumnRef Node} {qualifier : Option String}
    {name : String} (isFirst : operation.left.bind Node.firstColumn? = some reference)
    (isName : columnName reference = .ok (qualifier, name)) (failure : TypingError) :
    ofOperation scope rename operation = .error failure ↔
      candidateColumns scope qualifier name = [] ∧
          failure = .columnNotFound name reference.location ∨
        2 ≤ (candidateColumns scope qualifier name).length ∧
          failure = .ambiguousColumn name reference.location := by
  rw [ofOperation_eq_error_iff, isFirst]
  simp [isName]

theorem ofTarget_eq_ok_iff (scope : Scope) (mentioned : Option TableRef) (target : Target Node)
    (inference : Inference) :
    ofTarget scope mentioned target = .ok inference ↔
      ∃ name table column,
        target.name = some name ∧
          (mentioned.map TableRef.tableName).or scope.defaultTable? = some table ∧
          scope.column? table name = some column ∧
          inference = .ofColumn name table column := by
  unfold ofTarget
  cases target.name with
  | none => simp
  | some name =>
      cases (mentioned.map TableRef.tableName).or scope.defaultTable? with
      | none => simp
      | some table => cases columnIs : scope.column? table name <;> simp [columnIs]

/-! ## Arguments and casts -/

theorem ofCall_eq_typed_iff (view : CatalogView) (ordinal : Nat) (rename : Option String)
    (call : Call Node) (inference : Inference) :
    ofCall view ordinal rename call = .ok (.typed inference) ↔
      ∃ position label argument,
        argumentSlot? ordinal call.arguments = some (position, label) ∧
          (calledFunction view call).1.arguments[position]? = some argument ∧
          inference = {
            suggestedName := (rename.or label).getD <|
              if argument.name.isEmpty then (calledFunction view call).1.name else argument.name
            dataType := argument.type.dataType
            isNotNull := (calledFunction view call).2
            isArray := false } := by
  unfold ofCall
  cases argumentSlot? ordinal call.arguments with
  | none => simp
  | some slot =>
      rcases slot with ⟨position, label⟩
      rcases calledFunction view call with ⟨function, isKnown⟩
      constructor
      · intro typed
        cases declared : function.arguments[position]? with
        | none => simp [declared] at typed
        | some argument =>
            simp only [declared, pure_eq_ok_iff, Outcome.typed.injEq] at typed
            exact ⟨position, label, argument, rfl, declared, typed⟩
      · rintro ⟨_, _, argument, same, declared, rfl⟩
        cases same
        dsimp only
        rw [declared]
        rfl

theorem ofCast_eq_ok_iff (rename : Option String) (cast : Cast Node) (inference : Inference) :
    ofCast rename cast = .ok inference ↔
      ∃ type, cast.type = some type ∧
        inference = {
          suggestedName := rename.getD ""
          dataType := type.dataType
          isNotNull := true
          isArray := type.isArray } := by
  unfold ofCast
  cases cast.type <;> simp

end Inference

end PlaceholderTyping
