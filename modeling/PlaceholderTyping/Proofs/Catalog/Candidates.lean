import PlaceholderTyping.Scope

/-!
# Tables in question

The tables to which a column may belong, told from the mentions themselves. A qualifier stands for
the last table that bears it as an alias, or else for the first table of that name.
-/

namespace PlaceholderTyping

namespace TableRef

def qualified? (tables : List TableRef) (qualifier : String) : Option TableRef :=
  (tables.reverse.find? (·.aliasName = some qualifier)).or
    (tables.find? (·.relation = qualifier))

/-- The tables to which a column may belong. Without a qualifier, and with one that singles no table
out, these are all tables, each as often as it is mentioned. -/
def inQuestion (tables : List TableRef) : Option String → List TableRef
  | none => tables
  | some qualifier =>
      match qualified? tables qualifier with
      | some table => [table]
      | none => tables

variable {tables : List TableRef}

theorem mem_of_qualified?_eq_some {qualifier : String} {table : TableRef}
    (isQualified : qualified? tables qualifier = some table) : table ∈ tables := by
  rcases Option.or_eq_some_iff.mp isQualified with isAlias | ⟨_, isName⟩
  · exact List.mem_reverse.mp (List.mem_of_find?_eq_some isAlias)
  · exact List.mem_of_find?_eq_some isName

theorem isSome_qualified?_iff {qualifier : String} :
    (qualified? tables qualifier).isSome = true ↔
      ∃ table ∈ tables, table.aliasName = some qualifier ∨ table.relation = qualifier := by
  simp [qualified?, and_or_left, exists_or]

theorem mem_of_mem_inQuestion {qualifier : Option String} {table : TableRef}
    (isInQuestion : table ∈ inQuestion tables qualifier) : table ∈ tables := by
  cases qualifier with
  | none => exact isInQuestion
  | some qualifier =>
      rw [inQuestion] at isInQuestion
      split at isInQuestion
      · next isQualified =>
          rw [List.mem_singleton.mp isInQuestion]
          exact mem_of_qualified?_eq_some isQualified
      · exact isInQuestion

/-- Which tables are in question only depends on their aliases and their names. -/
theorem inQuestion_map (change : TableRef → TableRef)
    (sameAlias : ∀ table, (change table).aliasName = table.aliasName)
    (sameRelation : ∀ table, (change table).relation = table.relation)
    {qualifier : Option String} :
    inQuestion (tables.map change) qualifier = (inQuestion tables qualifier).map change := by
  cases qualifier with
  | none => rfl
  | some qualifier =>
      have sameQualified : qualified? (tables.map change) qualifier =
          (qualified? tables qualifier).map change := by
        rw [qualified?, qualified?, Option.map_or, ← List.map_reverse, List.find?_map,
          List.find?_map]
        simp only [Function.comp_def, sameAlias, sameRelation]
      rw [inQuestion, inQuestion, sameQualified]
      cases qualified? tables qualifier <;> rfl

/-- A qualifier that is an alias or the name of a table leaves a single mention in question. -/
theorem length_inQuestion {qualifier : String}
    (singlesOut : ∃ table ∈ tables,
      table.aliasName = some qualifier ∨ table.relation = qualifier) :
    (inQuestion tables (some qualifier)).length = 1 := by
  rcases Option.isSome_iff_exists.mp (isSome_qualified?_iff.mpr singlesOut) with
    ⟨table, isQualified⟩
  rw [inQuestion, isQualified]
  rfl

/-- A qualifier that is neither has no effect. -/
theorem inQuestion_eq_self {qualifier : Option String}
    (singlesOutNone : ∀ spelled ∈ qualifier, ¬ ∃ table ∈ tables,
      table.aliasName = some spelled ∨ table.relation = spelled) :
    inQuestion tables qualifier = tables := by
  cases qualifier with
  | none => rfl
  | some spelled =>
      have notQualified := mt isSome_qualified?_iff.mp (singlesOutNone spelled rfl)
      rw [inQuestion, Option.not_isSome_iff_eq_none.mp notQualified]

end TableRef

namespace Scope

variable (view : CatalogView) (tables : List TableRef)

theorem lookup_aliases (qualifier : String) :
    (tables.filterMap fun table =>
        table.aliasName.map fun aliasName => (aliasName, table.tableName)).lookup qualifier =
      (tables.find? (·.aliasName = some qualifier)).map TableRef.tableName := by
  induction tables with
  | nil => rfl
  | cons first rest induction =>
      rw [List.filterMap_cons, List.find?_cons]
      cases isAlias : first.aliasName with
      | none => simpa using induction
      | some aliasName =>
          rw [Option.map_some]
          dsimp only
          rw [List.lookup_cons, induction]
          by_cases same : aliasName = qualifier
          · simp [same]
          · simp [same, beq_false_of_ne (Ne.symm same)]

/-- Of several tables with one alias, the alias stands for the last one. -/
theorem get?_aliases_ofTables (qualifier : String) :
    (ofTables view tables).aliases.get? qualifier =
      (tables.reverse.find? (·.aliasName = some qualifier)).map TableRef.tableName := by
  rw [ofTables, OrderedMap.get?_ofList, ← List.filterMap_reverse, lookup_aliases]

theorem candidates_ofTables (qualifier : Option String) :
    (ofTables view tables).candidates qualifier =
      (TableRef.inQuestion tables qualifier).map TableRef.tableName := by
  cases qualifier with
  | none => rfl
  | some qualifier =>
      have named : (ofTables view tables).tables.find? (·.name = qualifier) =
          (tables.find? (·.relation = qualifier)).map TableRef.tableName := by
        rw [ofTables, List.find?_map]
        rfl
      rw [candidates, get?_aliases_ofTables, named, ← Option.map_or, TableRef.inQuestion,
        ← TableRef.qualified?]
      cases TableRef.qualified? tables qualifier <;> rfl

end Scope

end PlaceholderTyping
