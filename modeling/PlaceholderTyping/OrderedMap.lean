/-!
# Maps in order of insertion

A map whose entries stay where their keys were first inserted. A later value for a key replaces the
earlier one in its place.
-/

namespace PlaceholderTyping

structure OrderedMap (κ ν : Type) where
  toList : List (κ × ν)
  nodupKeys : (toList.map Prod.fst).Nodup

namespace OrderedMap

variable {κ ν : Type}

instance : EmptyCollection (OrderedMap κ ν) where
  emptyCollection := { toList := [], nodupKeys := by simp }

instance : Inhabited (OrderedMap κ ν) where
  default := ∅

def keys (map : OrderedMap κ ν) : List κ :=
  map.toList.map Prod.fst

variable [DecidableEq κ]

def insertEntry (key : κ) (value : ν) : List (κ × ν) → List (κ × ν)
  | [] => [(key, value)]
  | entry :: rest =>
      if entry.1 = key then (key, value) :: rest else entry :: insertEntry key value rest

theorem keys_insertEntry (key : κ) (value : ν) (entries : List (κ × ν)) :
    (insertEntry key value entries).map Prod.fst =
      if key ∈ entries.map Prod.fst then entries.map Prod.fst
      else entries.map Prod.fst ++ [key] := by
  induction entries with
  | nil => simp [insertEntry]
  | cons entry rest ih =>
      by_cases same : entry.1 = key
      · simp [insertEntry, same]
      · simp only [insertEntry, same, ↓reduceIte, List.map_cons, ih, List.mem_cons,
          Ne.symm same, false_or]
        split <;> simp

def insert (map : OrderedMap κ ν) (key : κ) (value : ν) : OrderedMap κ ν where
  toList := insertEntry key value map.toList
  nodupKeys := by
    rw [keys_insertEntry]
    split
    · exact map.nodupKeys
    · next absent =>
        rw [List.nodup_append]
        refine ⟨map.nodupKeys, by simp, ?_⟩
        intro earlier member later last same
        exact absent (by simp_all)

def ofList (entries : List (κ × ν)) : OrderedMap κ ν :=
  entries.foldl (fun map (key, value) => map.insert key value) ∅

def get? (map : OrderedMap κ ν) (key : κ) : Option ν :=
  map.toList.lookup key

@[simp] theorem get?_empty (key : κ) : (∅ : OrderedMap κ ν).get? key = none := rfl

theorem lookup_insertEntry (key other : κ) (value : ν) (entries : List (κ × ν)) :
    (insertEntry key value entries).lookup other =
      if other = key then some value else entries.lookup other := by
  induction entries with
  | nil =>
      by_cases same : other = key
      · simp [insertEntry, same]
      · simp [insertEntry, List.lookup_cons, same, beq_false_of_ne same]
  | cons entry rest ih =>
      rcases entry with ⟨first, content⟩
      by_cases found : first = key
      · subst found
        by_cases same : other = first
        · simp [insertEntry, same]
        · simp [insertEntry, List.lookup_cons, same, beq_false_of_ne same]
      · by_cases same : other = first
        · subst same
          simp [insertEntry, found]
        · simp [insertEntry, List.lookup_cons, found, beq_false_of_ne same, ih]

/-- A map returns what was last inserted. -/
theorem get?_insert (map : OrderedMap κ ν) (key other : κ) (value : ν) :
    (map.insert key value).get? other = if other = key then some value else map.get? other :=
  lookup_insertEntry key other value map.toList

/-- Of several entries with one key, the last one counts. -/
theorem get?_ofList (entries : List (κ × ν)) (key : κ) :
    (ofList entries).get? key = entries.reverse.lookup key := by
  rw [ofList, List.foldl_eq_foldr_reverse]
  induction entries.reverse with
  | nil => rfl
  | cons entry rest ih =>
      rw [List.foldr_cons, get?_insert, ih, List.lookup_cons]
      by_cases same : key = entry.1
      · simp [same]
      · simp [same, beq_false_of_ne same]

theorem insertEntry_eq_concat {key : κ} {entries : List (κ × ν)}
    (new : key ∉ entries.map Prod.fst) (value : ν) :
    insertEntry key value entries = entries ++ [(key, value)] := by
  induction entries with
  | nil => rfl
  | cons entry rest ih =>
      rw [List.map_cons, List.mem_cons, not_or] at new
      rw [insertEntry, if_neg (Ne.symm new.1), ih new.2, List.cons_append]

theorem toList_foldl_insert {map : OrderedMap κ ν} {entries : List (κ × ν)}
    (nodup : ((map.toList ++ entries).map Prod.fst).Nodup) :
    (entries.foldl (fun map (key, value) => map.insert key value) map).toList =
      map.toList ++ entries := by
  induction entries generalizing map with
  | nil => rw [List.foldl_nil, List.append_nil]
  | cons entry rest ih =>
      have new : entry.1 ∉ map.toList.map Prod.fst := by
        rw [List.map_append, List.nodup_append] at nodup
        intro known
        exact nodup.2.2 entry.1 known entry.1 (List.mem_map_of_mem List.mem_cons_self) rfl
      have inserted : (map.insert entry.1 entry.2).toList = map.toList ++ [entry] :=
        insertEntry_eq_concat new entry.2
      have moved : map.toList ++ entry :: rest = (map.insert entry.1 entry.2).toList ++ rest := by
        rw [inserted, List.append_assoc, List.singleton_append]
      rw [List.foldl_cons, moved]
      exact ih (moved ▸ nodup)

/-- A map holds the entries that it is made of, if their keys are distinct. -/
theorem toList_ofList {entries : List (κ × ν)} (nodup : (entries.map Prod.fst).Nodup) :
    (ofList entries).toList = entries :=
  toList_foldl_insert nodup

end OrderedMap

end PlaceholderTyping
