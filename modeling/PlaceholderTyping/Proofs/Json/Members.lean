import Mathlib.Data.List.Induction
import PlaceholderTyping.Json.Codec
import PlaceholderTyping.Proofs.Success

/-!
# What is read of an object

The members of an object are taken up one by one, and a draft of the record fills up with what is
read of them. In the end all that counts is, for every field, the values that stand under its name:
there may be one of them, or none if something stands in for the field. So the main statement is
free of drafts, and the order of the members plays no part in it.
-/

namespace PlaceholderTyping.Json

def valuesUnder (key : String) (members : List (Content × Value)) : List Value :=
  members.filterMap fun member => if member.1 = .ok key then some member.2 else none

theorem valuesUnder_concat_self (key : String) (members : List (Content × Value)) (value : Value) :
    valuesUnder key (members ++ [(.ok key, value)]) = valuesUnder key members ++ [value] := by
  simp [valuesUnder]

theorem valuesUnder_concat_of_ne {name key : String} (different : name ≠ key)
    (members : List (Content × Value)) (value : Value) :
    valuesUnder name (members ++ [(.ok key, value)]) = valuesUnder name members := by
  simp [valuesUnder, Ne.symm different]

/-! ## Fields -/

namespace Field

variable {α : Type}

def Reads (field : Field α) (content : α) : List Value → Prop
  | [] => field.absent = some content
  | [value] => field.read value = .ok content
  | _ :: _ :: _ => False

def Fills (field : Field α) (slot : Option α) : List Value → Prop
  | [] => slot = none
  | [value] => ∃ content, field.read value = .ok content ∧ slot = some content
  | _ :: _ :: _ => False

/-- One more value needs a free place. -/
theorem fills_concat_iff (field : Field α) (slot : Option α) (values : List Value) (last : Value) :
    field.Fills slot (values ++ [last]) ↔
      field.Fills none values ∧ ∃ content, field.read last = .ok content ∧ slot = some content := by
  match values with
  | [] => simp [Fills]
  | [_] => simp [Fills]
  | _ :: _ :: _ => simp [Fills]

theorem reads_iff_exists_fills (field : Field α) (content : α) (values : List Value) :
    field.Reads content values ↔
      ∃ slot, field.Fills slot values ∧ slot.or field.absent = some content := by
  match values with
  | [] => simp [Reads, Fills]
  | [_] => simp [Reads, Fills]
  | _ :: _ :: _ => simp [Reads, Fills]

end Field

/-! ## Drafts -/

namespace Fields

def names : {types : List Type} → Fields types → List String
  | _, .nil => []
  | _, .cons field rest => field.name :: rest.names

def Reads : {types : List Type} → Fields types → Row types → List (Content × Value) → Prop
  | _, .nil, _, _ => True
  | _, .cons field rest, (content, contents), members =>
      field.Reads content (valuesUnder field.name members) ∧ rest.Reads contents members

def Fills : {types : List Type} → Fields types → Draft types → List (Content × Value) → Prop
  | _, .nil, _, _ => True
  | _, .cons field rest, (slot, slots), members =>
      field.Fills slot (valuesUnder field.name members) ∧ rest.Fills slots members

section

variable {α : Type} {types : List Type} {field : Field α} {rest : Fields types} {slot : Option α}
  {slots : Draft types}

theorem put_self_eq_ok_iff {value : Value} {draft : Draft (α :: types)} :
    (cons field rest).put field.name value (slot, slots) = .ok draft ↔
      slot = none ∧ ∃ content, field.read value = .ok content ∧ draft = (some content, slots) := by
  cases slot with
  | some content => simp [put]
  | none =>
      simp only [put, ↓reduceIte, true_and]
      exact bind_pure_eq_ok_iff

theorem put_of_ne_eq_ok_iff {key : String} (different : field.name ≠ key) {value : Value}
    {draft : Draft (α :: types)} :
    (cons field rest).put key value (slot, slots) = .ok draft ↔
      ∃ later, rest.put key value slots = .ok later ∧ draft = (slot, later) := by
  cases slot <;> simp only [put, different, ↓reduceIte] <;> exact bind_pure_eq_ok_iff

theorem complete_cons_eq_ok_iff {row : Row (α :: types)} :
    (cons field rest).complete (slot, slots) = .ok row ↔
      ∃ content, slot.or field.absent = some content ∧
        ∃ contents, rest.complete slots = .ok contents ∧ row = (content, contents) := by
  simp only [complete]
  cases slot.or field.absent with
  | none => simp
  | some content =>
      simp only [Option.some.injEq, exists_eq_left']
      exact bind_pure_eq_ok_iff

end

variable {types : List Type} {members : List (Content × Value)} {key : String} {value : Value}

theorem fills_nil_iff (fields : Fields types) (draft : Draft types) :
    fields.Fills draft [] ↔ draft = fields.blank := by
  induction fields with
  | nil => exact iff_of_true trivial rfl
  | cons field rest induction =>
      rcases draft with ⟨slot, slots⟩
      constructor
      · intro filled
        exact Prod.ext filled.1 ((induction slots).mp filled.2)
      · intro isBlank
        cases isBlank
        exact ⟨rfl, (induction rest.blank).mpr rfl⟩

/-- A member of unknown name leaves every field as it is. -/
theorem fills_concat_of_notMem (fields : Fields types) (draft : Draft types)
    (unknown : key ∉ fields.names) :
    fields.Fills draft (members ++ [(.ok key, value)]) ↔ fields.Fills draft members := by
  induction fields with
  | nil => exact Iff.rfl
  | cons field rest induction =>
      rcases draft with ⟨slot, slots⟩
      rw [names, List.mem_cons, not_or] at unknown
      rw [Fills, Fills, valuesUnder_concat_of_ne (Ne.symm unknown.1), induction slots unknown.2]

theorem exists_put_eq_ok_iff (fields : Fields types) (distinct : fields.names.Nodup)
    (draft : Draft types) :
    (∃ earlier, fields.Fills earlier members ∧ fields.put key value earlier = .ok draft) ↔
      fields.Fills draft (members ++ [(.ok key, value)]) := by
  induction fields with
  | nil => exact iff_of_true ⟨draft, trivial, rfl⟩ trivial
  | cons field rest induction =>
      rcases draft with ⟨slot, slots⟩
      rcases List.nodup_cons.mp distinct with ⟨fresh, distinctRest⟩
      by_cases same : field.name = key
      case pos =>
        subst same
        rw [Fills, valuesUnder_concat_self, Field.fills_concat_iff,
          rest.fills_concat_of_notMem slots fresh]
        constructor
        · intro taken
          rcases taken with ⟨⟨earlierSlot, earlierSlots⟩, filled, put⟩
          rcases put_self_eq_ok_iff.mp put with ⟨rfl, content, isRead, result⟩
          cases result
          exact ⟨⟨filled.1, content, isRead, rfl⟩, filled.2⟩
        · intro filled
          rcases filled with ⟨⟨free, content, isRead, rfl⟩, filledRest⟩
          refine ⟨(none, slots), ⟨free, filledRest⟩, ?_⟩
          exact put_self_eq_ok_iff.mpr ⟨rfl, content, isRead, rfl⟩
      case neg =>
        rw [Fills, valuesUnder_concat_of_ne same, ← induction distinctRest slots]
        constructor
        · intro taken
          rcases taken with ⟨⟨earlierSlot, earlierSlots⟩, filled, put⟩
          rcases (put_of_ne_eq_ok_iff same).mp put with ⟨later, putRest, result⟩
          cases result
          exact ⟨filled.1, earlierSlots, filled.2, putRest⟩
        · intro filled
          rcases filled with ⟨filledField, earlierSlots, filledRest, putRest⟩
          refine ⟨(slot, earlierSlots), ⟨filledField, filledRest⟩, ?_⟩
          exact (put_of_ne_eq_ok_iff same).mpr ⟨slots, putRest, rfl⟩

/-- The members are taken up exactly if all keys are sound and no field is there twice or with a
value that does not fit. -/
theorem foldlM_putMember_eq_ok_iff (fields : Fields types) (distinct : fields.names.Nodup)
    (draft : Draft types) :
    members.foldlM fields.putMember fields.blank = .ok draft ↔
      (∀ member ∈ members, ∃ key, member.1 = .ok key) ∧ fields.Fills draft members := by
  induction members using List.reverseRecOn generalizing draft with
  | nil => simp [fills_nil_iff]
  | append_singleton members last induction =>
      rcases last with ⟨content, value⟩
      simp only [List.foldlM_append, List.foldlM_cons, List.foldlM_nil, bind_pure,
        bind_eq_ok_iff, induction, List.forall_mem_append, List.forall_mem_singleton]
      cases content with
      | error defect => simp [putMember]
      | ok key =>
          simp only [putMember, Except.ok.injEq, exists_eq', and_true, and_assoc, exists_and_left,
            fields.exists_put_eq_ok_iff distinct]

/-- At the end of an object, what the draft lacks has to be made up for. -/
theorem exists_complete_eq_ok_iff (fields : Fields types) (row : Row types) :
    (∃ draft, fields.Fills draft members ∧ fields.complete draft = .ok row) ↔
      fields.Reads row members := by
  induction fields with
  | nil => exact iff_of_true ⟨(), trivial, rfl⟩ trivial
  | cons field rest induction =>
      rcases row with ⟨content, contents⟩
      rw [Reads, field.reads_iff_exists_fills, ← induction contents]
      constructor
      · intro completed
        rcases completed with ⟨⟨slot, slots⟩, filled, completes⟩
        rcases complete_cons_eq_ok_iff.mp completes with ⟨_, present, _, completesRest, result⟩
        cases result
        exact ⟨⟨slot, filled.1, present⟩, slots, filled.2, completesRest⟩
      · intro read
        rcases read with ⟨⟨slot, filledField, present⟩, slots, filledRest, completesRest⟩
        refine ⟨(slot, slots), ⟨filledField, filledRest⟩, ?_⟩
        exact complete_cons_eq_ok_iff.mpr ⟨content, present, contents, completesRest, rfl⟩

end Fields

/-- An object is read as a record exactly if its keys are sound and every field is read off the
values under its name. -/
theorem Codec.decode_object_eq_ok_iff {α : Type} {types : List Type} {name : String}
    {fields : Fields types} (distinct : fields.names.Nodup) {toRow : α → Row types}
    {ofRow : Row types → α} {members : List (Content × Value)} {record : α} :
    (Codec.record name fields toRow ofRow).decode (.object members) = .ok record ↔
      (∀ member ∈ members, ∃ key, member.1 = .ok key) ∧
        ∃ row, fields.Reads row members ∧ ofRow row = record := by
  simp only [Codec.record, bind_eq_ok_iff, map_eq_ok_iff,
    fields.foldlM_putMember_eq_ok_iff distinct, ← fields.exists_complete_eq_ok_iff]
  constructor
  · intro decoded
    rcases decoded with ⟨draft, ⟨sound, filled⟩, row, completed, result⟩
    exact ⟨sound, row, ⟨draft, filled, completed⟩, result⟩
  · intro decoded
    rcases decoded with ⟨sound, row, ⟨draft, filled, completed⟩, result⟩
    exact ⟨draft, ⟨sound, filled⟩, row, completed, result⟩

end PlaceholderTyping.Json
