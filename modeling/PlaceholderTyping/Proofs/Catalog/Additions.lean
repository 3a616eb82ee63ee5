import PlaceholderTyping.Proofs.Catalog.History

/-!
# What additions leave as it is

A table that is added changes the answer to questions for that table, a function the answer to
questions for its name with its number of arguments. To other questions the catalog finds the same
as before, even where a schema was created, which is searched like the others.
-/

namespace PlaceholderTyping

theorem findSome?_toList {α β : Type} (answer : α → Option β) (place : Option α) :
    place.toList.findSome? answer = place.bind answer := by
  cases place with
  | none => rfl
  | some element => exact List.findSome?_singleton

theorem findSome?_filter_modifyFirstOrAppend {α β : Type} {test kept : α → Bool}
    {change : α → α} {new : α} (answer : α → Option β)
    (keptAlike : ∀ element, kept (change element) = kept element)
    (answersAlike : ∀ element, answer (change element) = answer element)
    (noAnswer : answer new = none) (elements : List α) :
    ((modifyFirstOrAppend test change new elements).filter kept).findSome? answer =
      (elements.filter kept).findSome? answer := by
  induction elements with
  | nil => cases isKept : kept new <;> simp [modifyFirstOrAppend, isKept, noAnswer]
  | cons first rest induction =>
      rw [modifyFirstOrAppend]
      split
      · cases isKept : kept first <;> simp [List.findSome?_cons, isKept, keptAlike, answersAlike]
      · cases isKept : kept first <;> simp [List.findSome?_cons, isKept, induction]

/-- A new function is found where there was none, behind all that were there. -/
theorem Schema.function?_addFunction_eq (schema : Schema) (function : Signature) (name : String)
    (arity : Nat) :
    (schema.addFunction function).function? name arity =
      (schema.function? name arity).or
        (if function.name = name ∧ function.arguments.length = arity then some function
          else none) := by
  rw [function?, addFunction, List.find?_append, List.find?_singleton, function?]
  simp only [Bool.and_eq_true, decide_eq_true_eq]

theorem Schema.function?_addFunction {name : String} {arity : Nat} {function : Signature}
    (isOther : ¬ (name = function.name ∧ arity = function.arguments.length)) (schema : Schema) :
    (schema.addFunction function).function? name arity = schema.function? name arity := by
  rw [function?_addFunction_eq, if_neg fun same => isOther ⟨same.1.symm, same.2.symm⟩,
    Option.or_none]

namespace Catalog

/-! ## Functions -/

section

variable {name : QualifiedName} {arity : Nat}

/-- A change of a schema does not show in a search for functions that the change does not touch. -/
theorem function_modifySchema {change : Schema → Schema}
    (keepsName : ∀ schema, (change schema).name = schema.name)
    (keepsFunction : ∀ schema, (change schema).function? name.name arity =
      schema.function? name.name arity) (catalog : Catalog) (changed : String) :
    (catalog.modifySchema changed change).function name arity = catalog.function name arity := by
  have sameSearch : ((catalog.modifySchema changed change).functionSchemas name).findSome?
        (·.function? name.name arity) =
      (catalog.functionSchemas name).findSome? (·.function? name.name arity) := by
    have ofSchema (other : String) :
        ((catalog.modifySchema changed change).schema? other).bind
            (·.function? name.name arity) =
          (catalog.schema? other).bind (·.function? name.name arity) :=
      bind_schema?_modifySchema keepsName keepsFunction rfl catalog other
    unfold functionSchemas
    cases name.schema with
    | some schema =>
        rw [findSome?_toList, findSome?_toList]
        exact ofSchema schema
    | none =>
        rw [List.findSome?_append, List.findSome?_append, findSome?_toList, findSome?_toList]
        apply congrArg₂ Option.or (ofSchema catalog.defaultSchema)
        apply findSome?_filter_modifyFirstOrAppend
          (fun schema : Schema => schema.function? name.name arity)
        · intro schema
          rw [keepsName]
        · exact keepsFunction
        · exact keepsFunction { name := changed }
  rw [function, function, sameSearch]

theorem function_addTable (catalog : Catalog) (schema : String) (table : Table) :
    (catalog.addTable schema table).function name arity = catalog.function name arity :=
  function_modifySchema (Schema.name_addTable table) (fun _ => rfl) catalog schema

theorem function_addFunction {function : Signature}
    (isOther : ¬ (name.name = function.name ∧ arity = function.arguments.length))
    (catalog : Catalog) (schema : String) :
    (catalog.addFunction schema function).function name arity = catalog.function name arity :=
  function_modifySchema (Schema.name_addFunction function) (Schema.function?_addFunction isOther)
    catalog schema

end

/-! ## Tables -/

theorem toOption_table_addTable {catalog : Catalog} {schema : String} {table : Table}
    {name : QualifiedName}
    (isOther : ¬ (name.schema.getD catalog.defaultSchema = schema ∧ name.name = table.name)) :
    ((catalog.addTable schema table).table name).toOption = (catalog.table name).toOption := by
  rw [toOption_table, toOption_table, keptTable?_addTable]
  apply if_neg
  intro same
  exact isOther ⟨same.1.symm, same.2.symm⟩

theorem toOption_table_addFunction (catalog : Catalog) (schema : String) (function : Signature)
    (name : QualifiedName) :
    ((catalog.addFunction schema function).table name).toOption =
      (catalog.table name).toOption := by
  rw [toOption_table, toOption_table, keptTable?_addFunction]
  rfl

end Catalog

end PlaceholderTyping
