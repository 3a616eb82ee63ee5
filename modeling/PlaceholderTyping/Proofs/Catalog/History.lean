import PlaceholderTyping.Proofs.Catalog.Columns
import PlaceholderTyping.Proofs.DistinctNames

/-!
# Histories of catalogs

A catalog that is built up answers questions for tables from its history alone: what was added last
counts, and a schema exists once something was added to it. The main statement gives all answers
and says that no name of a schema, or of a table in its schema, ever comes twice.
-/

namespace PlaceholderTyping

/-! ## Changing the first of a name -/

section

variable {α : Type} {key : α → String} {name : String} {change : α → α} {new : α}

theorem map_modifyFirstOrAppend
    (keeps : ∀ element, key element = name → key (change element) = name) (isNew : key new = name)
    (elements : List α) :
    (modifyFirstOrAppend (key · = name) change new elements).map key =
      if name ∈ elements.map key then elements.map key else elements.map key ++ [name] := by
  induction elements with
  | nil => simp [modifyFirstOrAppend, isNew]
  | cons first rest induction =>
      rw [modifyFirstOrAppend]
      by_cases same : key first = name
      · simp [same, keeps first same]
      · simp only [same, decide_false, Bool.false_eq_true, if_false, List.map_cons, induction,
          List.mem_cons, Ne.symm same, false_or]
        split <;> rfl

theorem nodup_map_modifyFirstOrAppend
    (keeps : ∀ element, key element = name → key (change element) = name) (isNew : key new = name)
    {elements : List α} (nodup : (elements.map key).Nodup) :
    ((modifyFirstOrAppend (key · = name) change new elements).map key).Nodup := by
  rw [map_modifyFirstOrAppend keeps isNew]
  split
  · exact nodup
  · next absent =>
      rw [← List.concat_eq_append]
      exact nodup.concat absent

/-- Look-ups find the changed element under its name, and what they found before under others. -/
theorem find?_modifyFirstOrAppend
    (keeps : ∀ element, key element = name → key (change element) = name) (isNew : key new = name)
    (elements : List α) (other : String) :
    (modifyFirstOrAppend (key · = name) change new elements).find? (key · = other) =
      if other = name then some ((elements.find? (key · = name)).elim new change)
      else elements.find? (key · = other) := by
  induction elements with
  | nil =>
      by_cases same : other = name
      · simp [modifyFirstOrAppend, isNew, same]
      · simp [modifyFirstOrAppend, isNew, same, Ne.symm same]
  | cons first rest induction =>
      rw [modifyFirstOrAppend]
      by_cases found : key first = name
      · by_cases same : other = name
        · simp [found, same, keeps first found]
        · simp [found, Ne.symm same, same, keeps first found]
      · rw [if_neg (by simpa using found), List.find?_cons, List.find?_cons, List.find?_cons,
          induction]
        by_cases isFirst : key first = other
        · have different : other ≠ name := isFirst ▸ found
          simp [isFirst, different]
        · simp [isFirst, found]

end

/-! ## Single changes -/

theorem Schema.name_addTable (table : Table) (schema : Schema) :
    (schema.addTable table).name = schema.name := rfl

theorem Schema.name_addFunction (function : Signature) (schema : Schema) :
    (schema.addFunction function).name = schema.name := rfl

theorem Schema.table?_addTable (schema : Schema) (table : Table) (name : String) :
    (schema.addTable table).table? name =
      if name = table.name then some table else schema.table? name := by
  rw [table?, addTable]
  refine (find?_modifyFirstOrAppend (fun _ _ => rfl) rfl schema.tables name).trans ?_
  cases schema.tables.find? (·.name = table.name) <;> rfl

namespace Catalog

theorem map_name_modifySchema {change : Schema → Schema}
    (keeps : ∀ schema, (change schema).name = schema.name) (catalog : Catalog) (name : String) :
    (catalog.modifySchema name change).schemas.map (·.name) =
      if name ∈ catalog.schemas.map (·.name) then catalog.schemas.map (·.name)
      else catalog.schemas.map (·.name) ++ [name] :=
  map_modifyFirstOrAppend (fun schema same => (keeps schema).trans same) (keeps { name })
    catalog.schemas

/-- A change makes a schema of what was there under its name, or of an empty one. -/
theorem schema?_modifySchema {change : Schema → Schema}
    (keeps : ∀ schema, (change schema).name = schema.name) (catalog : Catalog)
    (name other : String) :
    (catalog.modifySchema name change).schema? other =
      if other = name then some (change ((catalog.schema? name).getD { name }))
      else catalog.schema? other := by
  rw [schema?, modifySchema]
  refine (find?_modifyFirstOrAppend (fun schema same => (keeps schema).trans same)
    (keeps { name }) catalog.schemas other).trans ?_
  rw [schema?, schema?]
  cases catalog.schemas.find? (·.name = name) <;> rfl

/-- A change of a schema does not show in answers that it does not touch, even where the schema was
not there before, if an empty one has no answer. -/
theorem bind_schema?_modifySchema {α : Type} {answer : Schema → Option α}
    {change : Schema → Schema} {owner : String}
    (keeps : ∀ schema, (change schema).name = schema.name)
    (untouched : ∀ schema, answer (change schema) = answer schema)
    (noAnswer : answer { name := owner } = none) (catalog : Catalog) (name : String) :
    ((catalog.modifySchema owner change).schema? name).bind answer =
      (catalog.schema? name).bind answer := by
  rw [schema?_modifySchema keeps]
  by_cases same : name = owner
  · subst same
    rw [if_pos rfl, Option.bind_some, untouched]
    cases catalog.schema? name with
    | none => exact noAnswer
    | some schema => rfl
  · rw [if_neg same]

theorem schema?_addTable (catalog : Catalog) (owner : String) (table : Table) (name : String) :
    (catalog.addTable owner table).schema? name =
      if name = owner then some (((catalog.schema? owner).getD { name := owner }).addTable table)
      else catalog.schema? name :=
  schema?_modifySchema (Schema.name_addTable table) catalog owner name

theorem schema?_addFunction (catalog : Catalog) (owner : String) (function : Signature)
    (name : String) :
    (catalog.addFunction owner function).schema? name =
      if name = owner then
        some (((catalog.schema? owner).getD { name := owner }).addFunction function)
      else catalog.schema? name :=
  schema?_modifySchema (Schema.name_addFunction function) catalog owner name

def keptTable? (catalog : Catalog) (schema name : String) : Option Table :=
  (catalog.schema? schema).bind (·.table? name)

theorem keptTable?_addTable (catalog : Catalog) (owner : String) (table : Table)
    (schema name : String) :
    (catalog.addTable owner table).keptTable? schema name =
      if owner = schema ∧ table.name = name then some table
      else catalog.keptTable? schema name := by
  rw [keptTable?, schema?_addTable]
  by_cases sameSchema : schema = owner
  · subst sameSchema
    rw [if_pos rfl, Option.bind_some, Schema.table?_addTable, keptTable?]
    by_cases sameName : name = table.name
    · rw [if_pos sameName, if_pos ⟨rfl, sameName.symm⟩]
    · rw [if_neg sameName, if_neg fun same => sameName same.2.symm]
      cases catalog.schema? schema <;> rfl
  · rw [if_neg sameSchema, if_neg fun same => sameSchema same.1.symm, keptTable?]

theorem keptTable?_addFunction (catalog : Catalog) (owner : String) (function : Signature)
    (schema name : String) :
    (catalog.addFunction owner function).keptTable? schema name =
      catalog.keptTable? schema name :=
  bind_schema?_modifySchema (Schema.name_addFunction function) (fun _ => rfl) rfl catalog schema

/-! ## Histories -/

inductive Change where
  | addTable (schema : String) (table : Table)
  | addFunction (schema : String) (function : Signature)
  | setDefault (schema : String)

namespace Change

def apply (catalog : Catalog) : Change → Catalog
  | .addTable schema table => catalog.addTable schema table
  | .addFunction schema function => catalog.addFunction schema function
  | .setDefault schema => { catalog with defaultSchema := schema }

def schema? : Change → Option String
  | .addTable schema _ => some schema
  | .addFunction schema _ => some schema
  | .setDefault _ => none

def newDefault? : Change → Option String
  | .setDefault schema => some schema
  | _ => none

def newTable? (schema name : String) : Change → Option Table
  | .addTable owner table => if owner = schema ∧ table.name = name then some table else none
  | _ => none

end Change

def ofChanges (first : String) (changes : List Change) : Catalog :=
  changes.foldl Change.apply (.empty first)

/-- The schemas in the order in which they are first mentioned, the first default schema being
mentioned at the outset. -/
def mentionedSchemas (first : String) (changes : List Change) : List String :=
  (first :: changes.filterMap Change.schema?).eraseDups

def latestDefault (first : String) (changes : List Change) : String :=
  (changes.filterMap Change.newDefault?).getLast?.getD first

def latestTable? (changes : List Change) (schema name : String) : Option Table :=
  (changes.filterMap (Change.newTable? schema name)).getLast?

structure Records (catalog : Catalog) (first : String) (changes : List Change) : Prop where
  defaultSchema : catalog.defaultSchema = latestDefault first changes
  schemas : catalog.schemas.map (·.name) = mentionedSchemas first changes
  nodupTables : ∀ schema ∈ catalog.schemas, (schema.tables.map (·.name)).Nodup
  tables : ∀ schema name, catalog.keptTable? schema name = latestTable? changes schema name

variable {catalog : Catalog} {first : String} {changes : List Change}

theorem mentionedSchemas_concat (first : String) (changes : List Change) (last : Change) :
    mentionedSchemas first (changes ++ [last]) =
      match last.schema? with
      | some schema =>
          if schema ∈ mentionedSchemas first changes then mentionedSchemas first changes
          else mentionedSchemas first changes ++ [schema]
      | none => mentionedSchemas first changes := by
  unfold mentionedSchemas
  rw [List.filterMap_append, ← List.cons_append]
  cases mentioned : last.schema? with
  | some schema =>
      rw [List.filterMap_cons_some mentioned, List.filterMap_nil, eraseDups_concat]
      simp only [List.mem_eraseDups]
  | none => rw [List.filterMap_cons_none mentioned, List.filterMap_nil, List.append_nil]

theorem latestDefault_concat (first : String) (changes : List Change) (last : Change) :
    latestDefault first (changes ++ [last]) =
      last.newDefault?.getD (latestDefault first changes) := by
  rw [latestDefault, latestDefault, List.filterMap_append, List.getLast?_append]
  cases isDefault : last.newDefault? with
  | some schema => rw [List.filterMap_cons_some isDefault]; rfl
  | none => rw [List.filterMap_cons_none isDefault]; rfl

theorem latestTable?_concat (changes : List Change) (last : Change) (schema name : String) :
    latestTable? (changes ++ [last]) schema name =
      (last.newTable? schema name).or (latestTable? changes schema name) := by
  rw [latestTable?, latestTable?, List.filterMap_append, List.getLast?_append]
  cases isNew : last.newTable? schema name with
  | some table => rw [List.filterMap_cons_some isNew]; rfl
  | none => rw [List.filterMap_cons_none isNew]; rfl

theorem nodupTables_modifySchema {change : Schema → Schema} {name : String}
    (keeps : ∀ schema : Schema, (schema.tables.map (·.name)).Nodup →
      ((change schema).tables.map (·.name)).Nodup)
    (nodupTables : ∀ schema ∈ catalog.schemas, (schema.tables.map (·.name)).Nodup) :
    ∀ schema ∈ (catalog.modifySchema name change).schemas,
      (schema.tables.map (·.name)).Nodup := by
  intro schema member
  rcases mem_modifyFirstOrAppend member with known | ⟨old, oldMember, rfl⟩ | rfl
  · exact nodupTables schema known
  · exact keeps old (nodupTables old oldMember)
  · exact keeps { name } List.nodup_nil

theorem Records.addTable (records : catalog.Records first changes) (schema : String)
    (table : Table) :
    (catalog.addTable schema table).Records first (changes ++ [.addTable schema table]) where
  defaultSchema := by
    rw [latestDefault_concat]
    exact records.defaultSchema
  schemas := by
    rw [mentionedSchemas_concat, ← records.schemas]
    exact map_name_modifySchema (Schema.name_addTable table) catalog schema
  nodupTables := nodupTables_modifySchema
    (fun _ nodup => nodup_map_modifyFirstOrAppend (fun _ _ => rfl) rfl nodup) records.nodupTables
  tables owner name := by
    rw [keptTable?_addTable, latestTable?_concat, records.tables, Change.newTable?]
    split <;> rfl

theorem Records.addFunction (records : catalog.Records first changes) (schema : String)
    (function : Signature) :
    (catalog.addFunction schema function).Records first
      (changes ++ [.addFunction schema function]) where
  defaultSchema := by
    rw [latestDefault_concat]
    exact records.defaultSchema
  schemas := by
    rw [mentionedSchemas_concat, ← records.schemas]
    exact map_name_modifySchema (Schema.name_addFunction function) catalog schema
  nodupTables := nodupTables_modifySchema (fun _ nodup => nodup) records.nodupTables
  tables owner name := by
    rw [keptTable?_addFunction, latestTable?_concat, records.tables]
    rfl

theorem Records.setDefault (records : catalog.Records first changes) (schema : String) :
    ({ catalog with defaultSchema := schema } : Catalog).Records first
      (changes ++ [.setDefault schema]) where
  defaultSchema := by
    rw [latestDefault_concat]
    rfl
  schemas := by
    rw [mentionedSchemas_concat]
    exact records.schemas
  nodupTables := records.nodupTables
  tables owner name := by
    rw [latestTable?_concat]
    exact records.tables owner name

theorem records_empty (first : String) : (empty first).Records first [] where
  defaultSchema := rfl
  schemas := rfl
  nodupTables schema member := by
    rw [List.mem_singleton.mp member]
    exact List.nodup_nil
  tables schema name := by
    rw [keptTable?, schema?, empty, List.find?_cons]
    split <;> rfl

theorem records_ofChanges (first : String) (changes : List Change) :
    (ofChanges first changes).Records first changes := by
  induction changes using List.reverseRecOn with
  | nil => exact records_empty first
  | append_singleton changes last records =>
      rw [ofChanges, List.foldl_append, List.foldl_cons, List.foldl_nil]
      cases last with
      | addTable schema table => exact records.addTable schema table
      | addFunction schema function => exact records.addFunction schema function
      | setDefault schema => exact records.setDefault schema

/-! ## Answers -/

theorem isSome_schema?_iff (catalog : Catalog) (name : String) :
    (catalog.schema? name).isSome = true ↔ name ∈ catalog.schemas.map (·.name) := by
  simp [schema?, List.find?_isSome]

theorem table_eq {catalog : Catalog} {name : QualifiedName} {schema : String}
    (isMeant : name.schema.getD catalog.defaultSchema = schema) :
    catalog.table name =
      if schema ∈ catalog.schemas.map (·.name) then
        match catalog.keptTable? schema name.name with
        | some table => .ok table
        | none => .error (.tableNotFound name)
      else .error (.schemaNotFound schema) := by
  rw [Catalog.table, keptTable?, isMeant]
  simp only [← isSome_schema?_iff]
  cases found : catalog.schema? schema with
  | none => rfl
  | some owner => cases kept : owner.table? name.name <;> simp [kept]

theorem toOption_table (catalog : Catalog) (name : QualifiedName) :
    (catalog.table name).toOption =
      catalog.keptTable? (name.schema.getD catalog.defaultSchema) name.name := by
  rw [Catalog.table, keptTable?]
  cases catalog.schema? (name.schema.getD catalog.defaultSchema) with
  | none => rfl
  | some owner => cases kept : owner.table? name.name <;> simp [kept, Except.toOption]

theorem mem_mentionedSchemas_iff (first : String) (changes : List Change) (schema : String) :
    schema ∈ mentionedSchemas first changes ↔
      schema = first ∨ ∃ change ∈ changes, change.schema? = some schema := by
  rw [mentionedSchemas, List.mem_eraseDups, List.mem_cons, List.mem_filterMap]

theorem Records.mem_schemas_of_latestTable? (records : catalog.Records first changes)
    {schema name : String} {table : Table}
    (latest : latestTable? changes schema name = some table) :
    schema ∈ catalog.schemas.map (·.name) := by
  rw [← records.tables] at latest
  rcases Option.bind_eq_some_iff.mp latest with ⟨owner, found, -⟩
  rw [← isSome_schema?_iff, found]
  rfl

/-- What the catalog says about a name in a schema is in its history. -/
theorem Records.table_iff (records : catalog.Records first changes) {name : QualifiedName}
    {schema : String} (isMeant : name.schema.getD (latestDefault first changes) = schema) :
    (∀ table, catalog.table name = .ok table ↔
        latestTable? changes schema name.name = some table) ∧
      (catalog.table name = .error (.tableNotFound name) ↔
        latestTable? changes schema name.name = none ∧
          schema ∈ mentionedSchemas first changes) ∧
      (catalog.table name = .error (.schemaNotFound schema) ↔
        schema ∉ mentionedSchemas first changes) := by
  rw [← records.defaultSchema] at isMeant
  rw [table_eq isMeant, records.schemas, records.tables]
  by_cases mentioned : schema ∈ mentionedSchemas first changes
  · rw [if_pos mentioned]
    cases latestTable? changes schema name.name <;> simp [mentioned]
  · have notAdded : latestTable? changes schema name.name = none :=
      Option.eq_none_iff_forall_ne_some.mpr fun _ latest =>
        mentioned (records.schemas ▸ records.mem_schemas_of_latestTable? latest)
    rw [if_neg mentioned, notAdded]
    simp [mentioned]

/-- A catalog that was built up by changes. No name of a schema comes twice, nor does one of a table
in its schema; the schemas come in the order in which they were first mentioned. A table is found
exactly if one was added under the name, and it is the one that was added last; of the others, the
schema is missing exactly if it was never mentioned. -/
theorem table_ofChanges (first : String) (changes : List Change) :
    let catalog := ofChanges first changes
    catalog.schemas.map (·.name) = mentionedSchemas first changes ∧
      (catalog.schemas.map (·.name)).Nodup ∧
      (∀ schema ∈ catalog.schemas, (schema.tables.map (·.name)).Nodup) ∧
      ∀ name : QualifiedName,
        let schema := name.schema.getD (latestDefault first changes)
        let isMentioned := schema = first ∨ ∃ change ∈ changes, change.schema? = some schema
        (∀ table, catalog.table name = .ok table ↔
            latestTable? changes schema name.name = some table) ∧
          (catalog.table name = .error (.tableNotFound name) ↔
            latestTable? changes schema name.name = none ∧ isMentioned) ∧
          (catalog.table name = .error (.schemaNotFound schema) ↔ ¬isMentioned) := by
  intro catalog
  have records : catalog.Records first changes := records_ofChanges first changes
  refine ⟨records.schemas, ?distinct, records.nodupTables, ?answers⟩
  case distinct =>
    rw [records.schemas]
    exact nodup_eraseDups _
  case answers =>
    intro name schema isMentioned
    have mentioned_iff : schema ∈ mentionedSchemas first changes ↔ isMentioned :=
      mem_mentionedSchemas_iff first changes schema
    rw [← mentioned_iff]
    exact records.table_iff rfl

end Catalog

end PlaceholderTyping
