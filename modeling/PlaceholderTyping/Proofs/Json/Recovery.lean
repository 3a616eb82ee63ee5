import PlaceholderTyping.Proofs.Json.Members

/-!
# Values that are read back from what was written

A codec recovers a value if it can write it and reads it back from what it writes. Whether it does
is settled by the parts of the value: a list is recovered if its elements are, and a record if its
fields are. A field that is left out when its value is missing is recovered as well, since the
missing value stands in for it.
-/

namespace PlaceholderTyping.Json

/-! ## Values -/

namespace Codec

variable {α : Type}

def Recovers (codec : Codec α) (value : α) : Prop :=
  ∃ document, codec.encode? value = some document ∧ codec.decode document = .ok value

@[simp]
theorem recovers_string (content : String) : string.Recovers content := ⟨_, rfl, rfl⟩

@[simp]
theorem recovers_boolean (value : Bool) : boolean.Recovers value := ⟨_, rfl, rfl⟩

@[simp]
theorem recovers_unsigned (number : Nat) : unsigned.Recovers number := ⟨_, rfl, rfl⟩

theorem recovers_list_iff_exists_mapM {element : Codec α} {elements : List α} :
    (list element).Recovers elements ↔
      ∃ documents, elements.mapM element.encode? = some documents ∧
        documents.mapM element.decode = .ok elements := by
  simp only [Recovers, list, Option.map_eq_some_iff]
  constructor
  · rintro ⟨_, ⟨documents, written, rfl⟩, read⟩
    exact ⟨documents, written, read⟩
  · rintro ⟨documents, written, read⟩
    exact ⟨_, ⟨documents, written, rfl⟩, read⟩

theorem recovers_list_cons_iff {element : Codec α} {first : α} {rest : List α} :
    (list element).Recovers (first :: rest) ↔
      element.Recovers first ∧ (list element).Recovers rest := by
  rw [recovers_list_iff_exists_mapM, recovers_list_iff_exists_mapM]
  simp only [List.mapM_cons, bind, Option.bind_eq_some_iff, pure, Option.some.injEq]
  constructor
  · rintro ⟨_, ⟨document, writtenFirst, documents, writtenRest, rfl⟩, read⟩
    simp only [List.mapM_cons, bind_eq_ok_iff, pure_eq_ok_iff] at read
    rcases read with ⟨_, readFirst, _, readRest, same⟩
    cases same
    exact ⟨⟨document, writtenFirst, readFirst⟩, documents, writtenRest, readRest⟩
  · rintro ⟨⟨document, writtenFirst, readFirst⟩, documents, writtenRest, readRest⟩
    refine ⟨_, ⟨document, writtenFirst, documents, writtenRest, rfl⟩, ?_⟩
    simp only [List.mapM_cons, bind_eq_ok_iff, pure_eq_ok_iff]
    exact ⟨first, readFirst, rest, readRest, rfl⟩

theorem recovers_list_iff {element : Codec α} {elements : List α} :
    (list element).Recovers elements ↔ ∀ value ∈ elements, element.Recovers value := by
  induction elements with
  | nil => exact iff_of_true ⟨_, rfl, rfl⟩ nofun
  | cons first rest induction => rw [recovers_list_cons_iff, induction, List.forall_mem_cons]

/-- No value but a missing one may be written as `null`. -/
theorem recovers_nullable_iff {codec : Codec α}
    (notNull : ∀ value, codec.encode? value ≠ some .null) {value : Option α} :
    codec.nullable.Recovers value ↔ ∀ present ∈ value, codec.Recovers present := by
  cases value with
  | none => exact iff_of_true ⟨_, rfl, rfl⟩ nofun
  | some present =>
      have recovers_iff : codec.nullable.Recovers (some present) ↔ codec.Recovers present := by
        refine exists_congr fun document => and_congr_right fun written => ?_
        have decoded : codec.nullable.decode document = some <$> codec.decode document := by
          cases document with
          | null => exact absurd written (notNull present)
          | _ => rfl
        rw [decoded]
        simp
      simp [recovers_iff]

end Codec

/-! ## Fields -/

namespace Field

variable {α : Type}

def Recovers (field : Field α) (content : α) : Prop :=
  ∃ written, field.write? content = some written ∧ field.Reads content written.toList

/-- What is written for a field is what its codec writes. -/
theorem recovers_iff_of_write? {field : Field α} {codec : Codec α} {content : α}
    (writes : field.write? content = (codec.encode? content).map some)
    (reads : field.read = codec.decode) : field.Recovers content ↔ codec.Recovers content := by
  simp only [Recovers, writes, Option.map_eq_some_iff]
  constructor
  · rintro ⟨_, ⟨document, encoded, rfl⟩, read⟩
    exact ⟨document, encoded, reads ▸ read⟩
  · rintro ⟨document, encoded, decoded⟩
    refine ⟨_, ⟨document, encoded, rfl⟩, ?_⟩
    change field.read document = .ok content
    rw [reads, decoded]

@[simp]
theorem recovers_required_iff {name : String} {codec : Codec α} {content : α} :
    (required name codec).Recovers content ↔ codec.Recovers content :=
  recovers_iff_of_write? rfl rfl

@[simp]
theorem recovers_defaulted_iff {name : String} {codec : Codec α} {standard content : α} :
    (defaulted name codec standard).Recovers content ↔ codec.Recovers content :=
  recovers_iff_of_write? rfl rfl

theorem recovers_optional_iff (name : String) {codec : Codec α}
    (notNull : ∀ value, codec.encode? value ≠ some .null) {content : Option α} :
    (optional name codec).Recovers content ↔ ∀ present ∈ content, codec.Recovers present := by
  rw [← Codec.recovers_nullable_iff notNull]
  cases content with
  | none => exact iff_of_true ⟨_, rfl, rfl⟩ ⟨_, rfl, rfl⟩
  | some present => exact recovers_iff_of_write? rfl rfl

theorem recovers_nullable_iff (name : String) {codec : Codec α}
    (notNull : ∀ value, codec.encode? value ≠ some .null) {content : Option α} :
    (nullable name codec).Recovers content ↔ ∀ present ∈ content, codec.Recovers present :=
  (recovers_iff_of_write? rfl rfl).trans (Codec.recovers_nullable_iff notNull)

end Field

/-! ## Records -/

namespace Fields

variable {types : List Type}

def Recover : {types : List Type} → Fields types → Row types → Prop
  | _, .nil, _ => True
  | _, .cons field rest, (content, contents) => field.Recovers content ∧ rest.Recover contents

theorem write?_cons_eq_some_iff {α : Type} {field : Field α} {rest : Fields types} {content : α}
    {contents : Row types} {members : List (Content × Value)} :
    (cons field rest).write? (content, contents) = some members ↔
      ∃ own, field.write? content = some own ∧
        ∃ others, rest.write? contents = some others ∧
          members = (own.map fun written => (.ok field.name, written)).toList ++ others := by
  simp only [write?, bind, Option.bind_eq_some_iff, pure, Option.some.injEq, @eq_comm _ members]

theorem exists_name_of_mem_write? (fields : Fields types) {row : Row types}
    {members : List (Content × Value)} (written : fields.write? row = some members)
    {member : Content × Value} (isMember : member ∈ members) :
    ∃ name ∈ fields.names, member.1 = .ok name := by
  induction fields generalizing members with
  | nil =>
      cases written
      cases isMember
  | cons field rest induction =>
      rcases row with ⟨content, contents⟩
      rcases write?_cons_eq_some_iff.mp written with ⟨own, -, others, writtenRest, rfl⟩
      rcases List.mem_append.mp isMember with ofField | ofRest
      · rcases Option.map_eq_some_iff.mp (Option.mem_toList.mp ofField) with ⟨_, _, rfl⟩
        exact ⟨field.name, List.mem_cons_self, rfl⟩
      · rcases induction writtenRest ofRest with ⟨name, isName, isKey⟩
        exact ⟨name, List.mem_cons_of_mem _ isName, isKey⟩

theorem valuesUnder_write?_of_notMem (fields : Fields types) {row : Row types}
    {members : List (Content × Value)} (written : fields.write? row = some members)
    {name : String} (unknown : name ∉ fields.names) : valuesUnder name members = [] := by
  rw [valuesUnder, List.filterMap_eq_nil_iff]
  intro member isMember
  rcases fields.exists_name_of_mem_write? written isMember with ⟨key, isName, isKey⟩
  have different : key ≠ name := ne_of_mem_of_not_mem isName unknown
  simp [isKey, different]

theorem reads_append_of_unknown (fields : Fields types) (row : Row types)
    {others members : List (Content × Value)}
    (unknown : ∀ name ∈ fields.names, valuesUnder name others = []) :
    fields.Reads row (others ++ members) ↔ fields.Reads row members := by
  induction fields with
  | nil => exact Iff.rfl
  | cons field rest induction =>
      rcases row with ⟨content, contents⟩
      have ofField : valuesUnder field.name (others ++ members) =
          valuesUnder field.name members := by
        have noOther : valuesUnder field.name others = [] := unknown _ List.mem_cons_self
        unfold valuesUnder at noOther ⊢
        rw [List.filterMap_append, noOther, List.nil_append]
      have ofRest := induction contents fun name isName =>
        unknown name (List.mem_cons_of_mem _ isName)
      rw [Reads, Reads, ofField, ofRest]

/-- A row is read from the members that are written for it exactly if each field is read from what
is written for the field. -/
theorem exists_write?_and_reads_iff (fields : Fields types) (distinct : fields.names.Nodup)
    (row : Row types) :
    (∃ members, fields.write? row = some members ∧ fields.Reads row members) ↔
      fields.Recover row := by
  induction fields with
  | nil => exact iff_of_true ⟨[], rfl, trivial⟩ trivial
  | cons field rest induction =>
      rcases row with ⟨content, contents⟩
      rcases List.nodup_cons.mp distinct with ⟨fresh, distinctRest⟩
      -- The members of the other fields say nothing of this one, and its own nothing of them.
      have reads_iff {own : Option Value} {others : List (Content × Value)}
          (writtenRest : rest.write? contents = some others) :
          (cons field rest).Reads (content, contents)
              ((own.map fun written => (.ok field.name, written)).toList ++ others) ↔
            field.Reads content own.toList ∧ rest.Reads contents others := by
        have noOther := rest.valuesUnder_write?_of_notMem writtenRest fresh
        have ownValues : valuesUnder field.name
            ((own.map fun written => (.ok field.name, written)).toList ++ others) =
              own.toList := by
          unfold valuesUnder at noOther ⊢
          rw [List.filterMap_append, noOther, List.append_nil]
          cases own <;> simp
        have ownUnknown : ∀ name ∈ rest.names,
            valuesUnder name (own.map fun written => (.ok field.name, written)).toList = [] := by
          intro name isName
          have different : field.name ≠ name := (ne_of_mem_of_not_mem isName fresh).symm
          cases own <;> simp [valuesUnder, different]
        rw [Reads, ownValues, rest.reads_append_of_unknown contents ownUnknown]
      rw [Recover, ← induction distinctRest contents]
      constructor
      · rintro ⟨_, written, read⟩
        rcases write?_cons_eq_some_iff.mp written with ⟨own, writtenOwn, others, writtenRest, rfl⟩
        rcases (reads_iff writtenRest).mp read with ⟨readOwn, readRest⟩
        exact ⟨⟨own, writtenOwn, readOwn⟩, others, writtenRest, readRest⟩
      · rintro ⟨⟨own, writtenOwn, readOwn⟩, others, writtenRest, readRest⟩
        exact ⟨_, write?_cons_eq_some_iff.mpr ⟨own, writtenOwn, others, writtenRest, rfl⟩,
          (reads_iff writtenRest).mpr ⟨readOwn, readRest⟩⟩

end Fields

theorem Codec.encode?_record_ne_null {α : Type} {types : List Type} (name : String)
    (fields : Fields types) (toRow : α → Row types) (ofRow : Row types → α) (record : α) :
    (Codec.record name fields toRow ofRow).encode? record ≠ some .null := by
  intro encoded
  rcases Option.map_eq_some_iff.mp encoded with ⟨_, -, isNull⟩
  cases isNull

/-- A record is recovered exactly if each of its fields is. -/
theorem Codec.recovers_record_iff {α : Type} {types : List Type} {name : String}
    {fields : Fields types} (distinct : fields.names.Nodup) {toRow : α → Row types}
    {ofRow : Row types → α} (ofRow_toRow : ∀ record, ofRow (toRow record) = record)
    (toRow_ofRow : ∀ row, toRow (ofRow row) = row) (record : α) :
    (Codec.record name fields toRow ofRow).Recovers record ↔ fields.Recover (toRow record) := by
  rw [← fields.exists_write?_and_reads_iff distinct]
  constructor
  · rintro ⟨document, encoded, decoded⟩
    rcases Option.map_eq_some_iff.mp encoded with ⟨members, written, rfl⟩
    rcases (decode_object_eq_ok_iff distinct).mp decoded with ⟨-, row, read, rfl⟩
    rw [toRow_ofRow] at written ⊢
    exact ⟨members, written, read⟩
  · rintro ⟨members, written, read⟩
    refine ⟨.object members, Option.map_eq_some_iff.mpr ⟨members, written, rfl⟩, ?_⟩
    refine (decode_object_eq_ok_iff distinct).mpr ⟨?_, toRow record, read, ofRow_toRow record⟩
    intro member isMember
    rcases fields.exists_name_of_mem_write? written isMember with ⟨key, -, isKey⟩
    exact ⟨key, isKey⟩

end PlaceholderTyping.Json
