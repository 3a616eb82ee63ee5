import PlaceholderTyping.Proofs.Json.Members

/-!
# The order of members

What is read of a value does not depend on the order in which the members of its objects stand,
whether they are in the order of the fields, of the alphabet or in any other.
-/

namespace PlaceholderTyping.Json

/-! ## Sorted values -/

namespace Value

theorem sortMembers_array (elements : List Value) :
    sortMembers (.array elements) = .array (elements.map sortMembers) := by
  rw [sortMembers, List.map_subtype (fun _ _ => rfl), List.unattach_attach]

theorem sortMembers_object (members : List (Content × Value)) :
    sortMembers (.object members) =
      .object ((members.map fun (key, value) => (key, value.sortMembers)).mergeSort precedes) := by
  rw [sortMembers, List.map_subtype (fun _ _ => rfl), List.unattach_attach]

end Value

theorem perm_valuesUnder_sortMembers (key : String) (members : List (Content × Value)) :
    (valuesUnder key
        ((members.map fun (key, value) => (key, value.sortMembers)).mergeSort
          Value.precedes)).Perm
      ((valuesUnder key members).map Value.sortMembers) := by
  have sorted := (List.mergeSort_perm
    (members.map fun (key, value) => (key, value.sortMembers)) Value.precedes).filterMap
      fun member => if member.1 = .ok key then some member.2 else none
  refine sorted.trans (List.Perm.of_eq ?_)
  rw [valuesUnder, List.filterMap_map, List.map_filterMap]
  apply List.filterMap_congr
  intro member _
  by_cases isKey : member.1 = .ok key <;> simp [isKey]

/-! ## Codecs -/

def Codec.IgnoresOrder {α : Type} (codec : Codec α) : Prop :=
  ∀ found content, codec.decode found.sortMembers = .ok content ↔ codec.decode found = .ok content

def Field.IgnoresOrder {α : Type} (field : Field α) : Prop :=
  ∀ found content, field.read found.sortMembers = .ok content ↔ field.read found = .ok content

namespace Codec

variable {α : Type}

theorem string_ignoresOrder : string.IgnoresOrder := by
  intro found content
  cases found with
  | array elements => simp [string, Value.sortMembers_array]
  | object members => simp [string, Value.sortMembers_object]
  | _ => simp [Value.sortMembers]

theorem boolean_ignoresOrder : boolean.IgnoresOrder := by
  intro found content
  cases found with
  | array elements => simp [boolean, Value.sortMembers_array]
  | object members => simp [boolean, Value.sortMembers_object]
  | _ => simp [Value.sortMembers]

theorem IgnoresOrder.list {element : Codec α} (ignores : element.IgnoresOrder) :
    (Codec.list element).IgnoresOrder := by
  intro found content
  cases found with
  | array elements =>
      rw [Value.sortMembers_array]
      change (elements.map Value.sortMembers).mapM element.decode = .ok content ↔
        elements.mapM element.decode = .ok content
      rw [mapM_eq_ok_iff, mapM_eq_ok_iff, List.forall₂_map_left_iff]
      simp only [ignores _ _]
  | object members => simp [Codec.list, Value.sortMembers_object]
  | _ => simp [Value.sortMembers]

end Codec

/-! ## Records -/

namespace Field

variable {α : Type}

theorem reads_perm (field : Field α) (content : α) {left right : List Value}
    (perm : left.Perm right) : field.Reads content left ↔ field.Reads content right := by
  match left, right with
  | [], [] => exact Iff.rfl
  | [_], [_] => rw [List.singleton_perm_singleton.mp perm]
  | _ :: _ :: _, _ :: _ :: _ => exact Iff.rfl
  | [], _ :: _ | _ :: _, [] | [_], _ :: _ :: _ | _ :: _ :: _, [_] =>
      exact absurd perm.length_eq (by simp)

theorem IgnoresOrder.reads_map_iff {field : Field α} (ignores : field.IgnoresOrder) (content : α)
    (values : List Value) :
    field.Reads content (values.map Value.sortMembers) ↔ field.Reads content values := by
  match values with
  | [] => exact Iff.rfl
  | [value] => exact ignores value content
  | _ :: _ :: _ => exact Iff.rfl

end Field

namespace Fields

variable {types : List Type}

def IgnoreOrder : {types : List Type} → Fields types → Prop
  | _, .nil => True
  | _, .cons field rest => field.IgnoresOrder ∧ rest.IgnoreOrder

theorem IgnoreOrder.reads_iff {fields : Fields types} (ignore : fields.IgnoreOrder)
    (row : Row types) (members : List (Content × Value)) :
    fields.Reads row
        ((members.map fun (key, value) => (key, value.sortMembers)).mergeSort Value.precedes) ↔
      fields.Reads row members := by
  induction fields with
  | nil => exact Iff.rfl
  | cons field rest induction =>
      rcases row with ⟨content, contents⟩
      rw [Reads, Reads, field.reads_perm content (perm_valuesUnder_sortMembers _ members),
        ignore.1.reads_map_iff, induction ignore.2]

theorem ofElements_cons_eq_ok_iff {α : Type} {field : Field α} {rest : Fields types}
    {record : String} {size position : Nat} {element : Value} {elements : List Value}
    {row : Row (α :: types)} :
    (cons field rest).ofElements record size position (element :: elements) = .ok row ↔
      ∃ content, field.read element = .ok content ∧
        ∃ contents, rest.ofElements record size (position + 1) elements = .ok contents ∧
          row = (content, contents) := by
  simp only [ofElements]
  refine bind_eq_ok_iff.trans (exists_congr fun content => and_congr_right fun _ => ?_)
  exact bind_pure_eq_ok_iff

theorem IgnoreOrder.ofElements_iff {fields : Fields types} (ignore : fields.IgnoreOrder)
    (record : String) (size position : Nat) (row : Row types) (elements : List Value) :
    fields.ofElements record size position (elements.map Value.sortMembers) = .ok row ↔
      fields.ofElements record size position elements = .ok row := by
  induction fields generalizing position elements with
  | nil => cases elements <;> exact Iff.rfl
  | cons field rest induction =>
      cases elements with
      | nil => exact Iff.rfl
      | cons element elements =>
          simp only [List.map_cons, ofElements_cons_eq_ok_iff, ignore.1 _ _,
            induction ignore.2]

end Fields

theorem Codec.record_ignoresOrder {α : Type} {types : List Type} {name : String}
    {fields : Fields types} (distinct : fields.names.Nodup) (ignore : fields.IgnoreOrder)
    {toRow : α → Row types} {ofRow : Row types → α} :
    (Codec.record name fields toRow ofRow).IgnoresOrder := by
  intro found content
  cases found with
  | object members =>
      rw [Value.sortMembers_object, decode_object_eq_ok_iff distinct,
        decode_object_eq_ok_iff distinct]
      simp only [ignore.reads_iff, List.mem_mergeSort, List.forall_mem_map]
  | array elements =>
      rw [Value.sortMembers_array]
      simp only [Codec.record, map_eq_ok_iff, ignore.ofElements_iff]
  | _ => simp [Value.sortMembers]

end PlaceholderTyping.Json
