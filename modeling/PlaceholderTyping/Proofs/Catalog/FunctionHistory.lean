import PlaceholderTyping.Proofs.Catalog.Additions

/-!
# Functions in the history of a catalog

Functions are only ever added, so that the first of its signature remains the one that is found in
its schema. The search through all schemas is put together of these answers: that of the schema that
is the default by then, and those of the others in the order in which they were created.
-/

namespace PlaceholderTyping

namespace Catalog

variable {catalog : Catalog} {first : String} {changes : List Change}

/-! ## Functions of one schema -/

def keptFunction? (catalog : Catalog) (schema name : String) (arity : Nat) : Option Signature :=
  (catalog.schema? schema).bind (·.function? name arity)

theorem keptFunction?_empty (first schema name : String) (arity : Nat) :
    (empty first).keptFunction? schema name arity = none := by
  rw [keptFunction?, schema?, empty, List.find?_cons]
  split <;> rfl

theorem keptFunction?_addTable (catalog : Catalog) (owner : String) (table : Table)
    (schema name : String) (arity : Nat) :
    (catalog.addTable owner table).keptFunction? schema name arity =
      catalog.keptFunction? schema name arity :=
  bind_schema?_modifySchema (Schema.name_addTable table) (fun _ => rfl) rfl catalog schema

theorem keptFunction?_addFunction (catalog : Catalog) (owner : String) (function : Signature)
    (schema name : String) (arity : Nat) :
    (catalog.addFunction owner function).keptFunction? schema name arity =
      (catalog.keptFunction? schema name arity).or
        (if owner = schema ∧ function.name = name ∧ function.arguments.length = arity then
          some function else none) := by
  rw [keptFunction?, schema?_addFunction, keptFunction?]
  by_cases sameSchema : schema = owner
  · subst sameSchema
    rw [if_pos rfl, Option.bind_some, Schema.function?_addFunction_eq]
    simp only [true_and]
    cases catalog.schema? schema <;> rfl
  · rw [if_neg sameSchema, if_neg fun same => sameSchema same.1.symm, Option.or_none]

def Change.newFunction? (schema name : String) (arity : Nat) : Change → Option Signature
  | .addFunction owner function =>
      if owner = schema ∧ function.name = name ∧ function.arguments.length = arity then
        some function
      else none
  | _ => none

def earliestFunction? (changes : List Change) (schema name : String) (arity : Nat) :
    Option Signature :=
  changes.findSome? (Change.newFunction? schema name arity)

theorem earliestFunction?_append (changes more : List Change) (schema name : String)
    (arity : Nat) :
    earliestFunction? (changes ++ more) schema name arity =
      (earliestFunction? changes schema name arity).or
        (earliestFunction? more schema name arity) :=
  List.findSome?_append

theorem keptFunction?_apply (catalog : Catalog) (change : Change) (schema name : String)
    (arity : Nat) :
    (change.apply catalog).keptFunction? schema name arity =
      (catalog.keptFunction? schema name arity).or (change.newFunction? schema name arity) := by
  cases change with
  | addTable owner table =>
      refine (keptFunction?_addTable catalog owner table schema name arity).trans ?_
      exact Option.or_none.symm
  | addFunction owner function =>
      exact keptFunction?_addFunction catalog owner function schema name arity
  | setDefault newDefault => exact Option.or_none.symm

theorem keptFunction?_ofChanges (first : String) (changes : List Change) (schema name : String)
    (arity : Nat) :
    (ofChanges first changes).keptFunction? schema name arity =
      earliestFunction? changes schema name arity := by
  induction changes using List.reverseRecOn with
  | nil => exact keptFunction?_empty first schema name arity
  | append_singleton changes last induction =>
      rw [ofChanges, List.foldl_append, List.foldl_cons, List.foldl_nil, keptFunction?_apply,
        ← ofChanges, induction, earliestFunction?_append, earliestFunction?,
        earliestFunction?, List.findSome?_singleton]

theorem mem_mentionedSchemas_of_earliestFunction? {schema name : String} {arity : Nat}
    {function : Signature}
    (earliest : earliestFunction? changes schema name arity = some function) (first : String) :
    schema ∈ mentionedSchemas first changes := by
  rcases List.exists_of_findSome?_eq_some earliest with ⟨change, member, isNew⟩
  rw [mem_mentionedSchemas_iff]
  refine .inr ⟨change, member, ?_⟩
  cases change with
  | addTable owner table => cases isNew
  | addFunction owner function =>
      rw [Change.newFunction?, Option.ite_none_right_eq_some] at isNew
      exact congrArg some isNew.1.1
  | setDefault schema => cases isNew

/-! ## Searches -/

theorem findSome?_congr {α β : Type} {answer otherAnswer : α → Option β} {elements : List α}
    (answersAlike : ∀ element ∈ elements, answer element = otherAnswer element) :
    elements.findSome? answer = elements.findSome? otherAnswer := by
  induction elements with
  | nil => rfl
  | cons head rest induction =>
      rw [List.forall_mem_cons] at answersAlike
      rw [List.findSome?_cons, List.findSome?_cons, answersAlike.1, induction answersAlike.2]

theorem function_eq_ok_iff {name : QualifiedName} {arity : Nat} {function : Signature} :
    catalog.function name arity = .ok function ↔
      (catalog.functionSchemas name).findSome? (·.function? name.name arity) =
        some function := by
  rw [Catalog.function]
  split <;> simp [*]

theorem function_eq_notFound_iff {name : QualifiedName} {arity : Nat} :
    catalog.function name arity = .error (.functionNotFound name arity) ↔
      (catalog.functionSchemas name).findSome? (·.function? name.name arity) = none := by
  rw [Catalog.function]
  split <;> simp [*]

theorem schema?_name (distinct : (catalog.schemas.map (·.name)).Nodup) {schema : Schema}
    (member : schema ∈ catalog.schemas) : catalog.schema? schema.name = some schema := by
  have isThere : (catalog.schema? schema.name).isSome = true :=
    (isSome_schema?_iff catalog schema.name).mpr (List.mem_map_of_mem member)
  rcases Option.isSome_iff_exists.mp isThere with ⟨found, isFound⟩
  have foundMember : found ∈ catalog.schemas := List.mem_of_find?_eq_some isFound
  have sameName : found.name = schema.name := by simpa using List.find?_some isFound
  rw [isFound, List.inj_on_of_nodup_map distinct foundMember member sameName]

theorem findSome?_functionSchemas_qualified (catalog : Catalog) (schema name : String)
    (arity : Nat) :
    (catalog.functionSchemas { schema := some schema, name }).findSome? (·.function? name arity) =
      catalog.keptFunction? schema name arity :=
  findSome?_toList _ _

/-- Where no name of a schema comes twice, a search through schemas asks each under its name. -/
theorem findSome?_functionSchemas_unqualified (distinct : (catalog.schemas.map (·.name)).Nodup)
    (name : String) (arity : Nat) :
    (catalog.functionSchemas { name }).findSome? (·.function? name arity) =
      (catalog.keptFunction? catalog.defaultSchema name arity).or
        (((catalog.schemas.map (·.name)).filter (· != catalog.defaultSchema)).findSome?
          (catalog.keptFunction? · name arity)) := by
  rw [functionSchemas, List.findSome?_append, findSome?_toList, List.filter_map,
    List.findSome?_map]
  apply congrArg (Option.or (catalog.keptFunction? catalog.defaultSchema name arity))
  apply findSome?_congr
  intro schema member
  have known := schema?_name distinct (List.mem_filter.mp member).1
  rw [Function.comp, keptFunction?, known, Option.bind_some]

/-! ## Answers -/

theorem function_qualified_eq_ok_iff (first : String) (changes : List Change)
    (schema name : String) (arity : Nat) (function : Signature) :
    (ofChanges first changes).function { schema := some schema, name } arity = .ok function ↔
      earliestFunction? changes schema name arity = some function := by
  rw [function_eq_ok_iff, findSome?_functionSchemas_qualified, keptFunction?_ofChanges]

theorem function_qualified_eq_notFound_iff (first : String) (changes : List Change)
    (schema name : String) (arity : Nat) :
    (ofChanges first changes).function { schema := some schema, name } arity =
        .error (.functionNotFound { schema := some schema, name } arity) ↔
      earliestFunction? changes schema name arity = none := by
  rw [function_eq_notFound_iff, findSome?_functionSchemas_qualified, keptFunction?_ofChanges]

def otherSchemas (first : String) (changes : List Change) : List String :=
  (mentionedSchemas first changes).filter (· != latestDefault first changes)

theorem findSome?_functionSchemas_ofChanges (first : String) (changes : List Change)
    (name : String) (arity : Nat) :
    ((ofChanges first changes).functionSchemas { name }).findSome? (·.function? name arity) =
      (earliestFunction? changes (latestDefault first changes) name arity).or
        ((otherSchemas first changes).findSome? (earliestFunction? changes · name arity)) := by
  have records : (ofChanges first changes).Records first changes := records_ofChanges first changes
  have distinct : ((ofChanges first changes).schemas.map (·.name)).Nodup := by
    rw [records.schemas]
    exact nodup_eraseDups _
  rw [findSome?_functionSchemas_unqualified distinct, records.schemas, records.defaultSchema]
  simp only [keptFunction?_ofChanges]
  rfl

theorem function_unqualified_eq_ok_iff (first : String) (changes : List Change) (name : String)
    (arity : Nat) (function : Signature) :
    (ofChanges first changes).function { name } arity = .ok function ↔
      earliestFunction? changes (latestDefault first changes) name arity = some function ∨
        earliestFunction? changes (latestDefault first changes) name arity = none ∧
          ∃ before schema after, otherSchemas first changes = before ++ schema :: after ∧
            earliestFunction? changes schema name arity = some function ∧
            ∀ earlier ∈ before, earliestFunction? changes earlier name arity = none := by
  rw [function_eq_ok_iff, findSome?_functionSchemas_ofChanges, Option.or_eq_some_iff,
    List.findSome?_eq_some_iff]

/-- A search through all schemas fails only where none of them has the function, not even one that
was never mentioned. -/
theorem function_unqualified_eq_notFound_iff (first : String) (changes : List Change)
    (name : String) (arity : Nat) :
    (ofChanges first changes).function { name } arity =
        .error (.functionNotFound { name } arity) ↔
      ∀ schema, earliestFunction? changes schema name arity = none := by
  rw [function_eq_notFound_iff, findSome?_functionSchemas_ofChanges, Option.or_eq_none_iff,
    List.findSome?_eq_none_iff]
  constructor
  · rintro ⟨noDefault, noOther⟩ schema
    by_cases isDefault : schema = latestDefault first changes
    · rw [isDefault]
      exact noDefault
    · rw [Option.eq_none_iff_forall_ne_some]
      intro function earliest
      have mentioned : schema ∈ otherSchemas first changes := by
        rw [otherSchemas, List.mem_filter, bne_iff_ne]
        exact ⟨mem_mentionedSchemas_of_earliestFunction? earliest first, isDefault⟩
      cases (noOther schema mentioned).symm.trans earliest
  · intro noFunction
    exact ⟨noFunction _, fun schema _ => noFunction schema⟩

/-- A catalog that was built up by changes. A schema's function is found exactly if one was added
with the name and the number of arguments, and it is the one that was added first; it remains the
answer whatever else is added and whichever schema becomes the default. Without a schema, the
default schema of the moment answers if it can, and else the first of the others that can, in the
order in which they were first mentioned. The search fails exactly if no schema can answer. -/
theorem function_ofChanges (first : String) (changes : List Change) (name : String)
    (arity : Nat) :
    let inSchema := fun schema =>
      (ofChanges first changes).function { schema := some schema, name } arity
    let anywhere := (ofChanges first changes).function { name } arity
    let default := latestDefault first changes
    let others := (mentionedSchemas first changes).filter (· != default)
    (∀ schema,
        (∀ function, inSchema schema = .ok function ↔
          earliestFunction? changes schema name arity = some function) ∧
        (inSchema schema = .error (.functionNotFound { schema := some schema, name } arity) ↔
          earliestFunction? changes schema name arity = none)) ∧
      (∀ function, anywhere = .ok function ↔
        inSchema default = .ok function ∨
          (∀ found, inSchema default ≠ .ok found) ∧
            ∃ before schema after, others = before ++ schema :: after ∧
              inSchema schema = .ok function ∧
              ∀ earlier ∈ before, ∀ found, inSchema earlier ≠ .ok found) ∧
      (anywhere = .error (.functionNotFound { name } arity) ↔
        ∀ schema found, inSchema schema ≠ .ok found) ∧
      (∀ schema function more, inSchema schema = .ok function →
        (ofChanges first (changes ++ more)).function { schema := some schema, name } arity =
          .ok function) ∧
      (∀ function, anywhere = .ok function → ∃ schema, inSchema schema = .ok function) := by
  intro inSchema anywhere default others
  have isFound (schema : String) (function : Signature) : inSchema schema = .ok function ↔
      earliestFunction? changes schema name arity = some function :=
    function_qualified_eq_ok_iff first changes schema name arity function
  have isMissing (schema : String) : (∀ found, inSchema schema ≠ .ok found) ↔
      earliestFunction? changes schema name arity = none := by
    simp only [ne_eq, isFound, Option.eq_none_iff_forall_ne_some]
  have isAnswer (function : Signature) :=
    function_unqualified_eq_ok_iff first changes name arity function
  refine ⟨fun schema => ⟨isFound schema, ?notFound⟩, ?search, ?nowhere, ?remains, ?somewhere⟩
  case notFound => exact function_qualified_eq_notFound_iff first changes schema name arity
  case search =>
    intro function
    simp only [isFound, isMissing]
    exact isAnswer function
  case nowhere =>
    simp only [isMissing]
    exact function_unqualified_eq_notFound_iff first changes name arity
  case remains =>
    intro schema function more found
    rw [isFound] at found
    rw [function_qualified_eq_ok_iff, earliestFunction?_append, found, Option.some_or]
  case somewhere =>
    intro function found
    rcases (isAnswer function).mp found with inDefault | ⟨-, -, schema, -, -, inOther, -⟩
    · exact ⟨default, (isFound default function).mpr inDefault⟩
    · exact ⟨schema, (isFound schema function).mpr inOther⟩

/-- A second function with a known signature is not found, not even under a new default schema. -/
example :
    let lower (result : TypeName) : Signature :=
      { name := "lower", arguments := [{ type := .any }], result }
    let changes : List Change :=
      [.addFunction "old" (lower { name := "text" }), .setDefault "new",
        .addFunction "old" (lower { name := "integer" })]
    (ofChanges "public" changes).function { name := "lower" } 1 =
      .ok (lower { name := "text" }) := by
  decide

end Catalog

end PlaceholderTyping
