import PlaceholderTyping.Proofs.TypeName.Reading

/-!
# Writing type names and reading them again

What was read from a text has plain parts, and a type name of plain parts is read from its own text
unless its name is empty. A type that does not come from a text may have more array bounds than fit
into one, and then it has no text of its own.
-/

namespace PlaceholderTyping

namespace Text

theorem byteLength_le_of_sublist {part text : List Char} (isPart : part.Sublist text) :
    byteLength part ≤ byteLength text := by
  induction isPart with
  | slnil => exact Nat.le_refl _
  | cons character _ induction => exact Nat.le_add_left_of_le induction
  | cons_cons character _ induction => exact Nat.add_le_add_left induction _

theorem byteLength_trim_le (text : List Char) : byteLength (trim text) ≤ byteLength text := by
  rw [trim_eq_rdropWhile]
  exact byteLength_le_of_sublist
    ((List.rdropWhile_prefix _ _).sublist.trans (List.dropWhile_sublist _))

end Text

namespace TypeName

structure IsPlain (part : List Char) : Prop where
  trimmed : Text.trim part = part
  noSeparator : ∀ character ∈ part, character ∉ separators

theorem IsPlain.noDot {part : List Char} (plain : IsPlain part) : '.' ∉ part :=
  fun hasDot => plain.noSeparator '.' hasDot (by decide)

structure HasPlainParts (type : TypeName) : Prop where
  schema : ∀ schema ∈ type.schema, IsPlain schema.toList ∧ schema ≠ ""
  name : IsPlain type.name.toList

variable {text : String} {type : TypeName} {schema : Option (List Char)} {name : List Char}

/-! ## Written texts -/

def brackets (type : TypeName) : List Char :=
  (List.replicate type.arrayBounds ['[', ']']).flatten

theorem toList_text (type : TypeName) :
    type.text.toList = type.dataType.toList ++ type.brackets := by
  rw [TypeName.text, String.toList_append, String.toList_join, List.flatMap_replicate, brackets]
  rfl

theorem trim_brackets (type : TypeName) : Text.trim type.brackets = type.brackets := by
  refine Text.trim_eq_self_of_forall fun character member => ?_
  rcases List.mem_flatten.mp member with ⟨pair, isPair, member⟩
  rw [List.eq_of_mem_replicate isPair] at member
  exact not_isBlank_of_mem_separators (List.mem_cons_of_mem '.' member)

theorem head?_brackets (type : TypeName) : ∀ first ∈ type.brackets.head?, first = '[' :=
  head?_of_boundCount? (boundCount?_replicate type.arrayBounds)

theorem byteLength_brackets (type : TypeName) :
    Text.byteLength type.brackets = 2 * type.arrayBounds := by
  rw [brackets]
  induction type.arrayBounds with
  | zero => rfl
  | succ bounds induction =>
      rw [List.replicate_succ, List.flatten_cons, Text.byteLength_append, induction]
      change 2 + 2 * bounds = 2 * (bounds + 1)
      omega

theorem byteLength_text (type : TypeName) :
    Text.byteLength type.text.toList =
      Text.byteLength type.dataType.toList + 2 * type.arrayBounds := by
  rw [toList_text, Text.byteLength_append, byteLength_brackets]

theorem text?_eq_some_iff :
    type.text? = some text ↔
      text = type.text ∧ Text.byteLength type.text.toList ≤ Text.maxByteLength := by
  rw [text?, Option.ite_none_right_eq_some, byteLength_text, Option.some.injEq, and_comm,
    eq_comm]

theorem trim_stem (parts : ∀ part ∈ name :: schema.toList, IsPlain part) :
    Text.trim (stem schema name) = stem schema name := by
  have trimmedName : Text.trim name = name := (parts name (by simp)).trimmed
  cases schema with
  | none => exact trimmedName
  | some schema =>
      have trimmedDot : Text.trim ['.'] = ['.'] := by decide
      exact Text.trim_append (parts schema (by simp)).trimmed
        (Text.trim_append trimmedDot trimmedName)

namespace HasPlainParts

theorem parts (plain : type.HasPlainParts) :
    ∀ part ∈ type.name.toList :: (type.schema.map String.toList).toList, IsPlain part := by
  simpa using ⟨plain.name, fun schema isSchema => (plain.schema schema isSchema).1⟩

theorem toList_dataType (plain : type.HasPlainParts) :
    type.dataType.toList = stem (type.schema.map String.toList) type.name.toList := by
  rw [dataType]
  cases isSchema : type.schema with
  | none => rfl
  | some schema =>
      have nonempty : schema.isEmpty = false := by simpa using (plain.schema schema isSchema).2
      simp [nonempty, stem]

theorem splits (plain : type.HasPlainParts) :
    Splits (Text.trim type.text.toList) (stem (type.schema.map String.toList) type.name.toList)
      type.brackets where
  text_eq := by
    rw [toList_text, plain.toList_dataType]
    exact Text.trim_append (trim_stem plain.parts) type.trim_brackets
  closed := noBracket_stem fun part isPart => (plain.parts part isPart).noSeparator
  opens first starts := .inl (type.head?_brackets first starts)

theorem ofText_text_of_name_eq_empty (plain : type.HasPlainParts) (isEmpty : type.name = "") :
    ofText type.text = .error { text := type.text } := by
  have noStem : splitSchema? (stem (type.schema.map String.toList) type.name.toList) = none := by
    rw [isEmpty]
    cases isSchema : type.schema with
    | none => rfl
    | some schema =>
        exact (splitSchema?_append_cons (plain.schema schema isSchema).1.noDot).trans (by simp)
  rw [plain.splits.ofText_eq, noStem]

theorem ofText_text_of_name_ne_empty (plain : type.HasPlainParts) (nonempty : type.name ≠ "") :
    ofText type.text = .ok type := by
  refine ofText_eq_ok_iff.mpr
    ⟨_, _, _, plain.splits, ?parts, boundCount?_replicate _, ?schema, ?name⟩
  case parts =>
    simp only [List.mem_cons, Option.mem_toList, Option.map_eq_some_iff]
    rintro part (rfl | ⟨schema, isSchema, rfl⟩)
    · exact ⟨by simpa using nonempty, plain.name.noDot⟩
    · have plainSchema := plain.schema schema isSchema
      exact ⟨by simpa using plainSchema.2, plainSchema.1.noDot⟩
  case schema =>
    cases isSchema : type.schema with
    | none => rfl
    | some schema => simp [(plain.schema schema isSchema).1.trimmed]
  case name => rw [plain.name.trimmed, String.ofList_toList]

end HasPlainParts

/-! ## Texts that were read -/

theorem isPlain_trim {part : List Char} (noSeparator : ∀ character ∈ part, character ∉ separators) :
    IsPlain (Text.trim part) where
  trimmed := Text.trim_trim part
  noSeparator character member := noSeparator character (Text.mem_of_mem_trim member)

theorem hasPlainParts_of_ofText (accepted : ofText text = .ok type) : type.HasPlainParts := by
  rcases ofText_eq_ok_iff.mp accepted with
    ⟨schema, name, bounds, splits, parts, -, isSchema, isName⟩
  have plain : ∀ part ∈ name :: schema.toList, IsPlain (Text.trim part) := fun part isPart =>
    isPlain_trim (splits.noSeparator parts part isPart)
  refine ⟨fun trimmed isTrimmed => ?_, ?_⟩
  · rcases Option.map_eq_some_iff.mp (isSchema.symm.trans isTrimmed) with ⟨part, rfl, rfl⟩
    have isPart : part ∈ name :: (some part).toList := by simp
    have starts : part <+: Text.trim text.toList := by
      rw [splits.text_eq, stem, List.append_assoc]
      exact List.prefix_append _ _
    have nonempty := Text.trim_ne_nil_of_prefix starts (parts part isPart).1
    rw [String.toList_ofList, ne_eq, String.ofList_eq_empty_iff]
    exact ⟨plain part isPart, nonempty⟩
  · rw [isName, String.toList_ofList]
    exact plain name (by simp)

/-- A name of blanks is not noticed where it stands between a dot and a bound, and nowhere else is
there one: a text does not start or end with blanks when its parts are told apart. -/
theorem exists_gap_of_name_eq_empty (accepted : ofText text = .ok type) (isEmpty : type.name = "") :
    ∃ schema gap bounds,
      Text.trim text.toList = schema ++ '.' :: gap ++ '[' :: bounds ∧
        (∀ character ∈ schema, character ∉ separators) ∧
        ∀ character ∈ gap, Text.isBlank character := by
  rcases ofText_eq_ok_iff.mp accepted with
    ⟨schema, name, bounds, splits, parts, counted, -, isName⟩
  have trim_eq : Text.trim name = [] := by
    rwa [isName, String.ofList_eq_empty_iff] at isEmpty
  have nonempty : name ≠ [] := (parts name (by simp)).1
  cases schema with
  | none =>
      have starts : name <+: Text.trim text.toList := ⟨bounds, splits.text_eq.symm⟩
      exact absurd trim_eq (Text.trim_ne_nil_of_prefix starts nonempty)
  | some schema =>
      cases bounds with
      | nil =>
          have ends : name <:+ Text.trim text.toList := by
            rw [splits.text_eq, List.append_nil]
            exact (List.suffix_cons '.' name).trans (List.suffix_append schema _)
          exact absurd trim_eq (Text.trim_ne_nil_of_suffix ends nonempty)
      | cons first bounds =>
          obtain rfl : first = '[' := head?_of_boundCount? counted first rfl
          exact ⟨schema, name, bounds, splits.text_eq,
            splits.noSeparator parts schema (by simp), Text.trim_eq_nil_iff.mp trim_eq⟩

theorem name_eq_empty_of_gap (accepted : ofText text = .ok type) {schema gap bounds : List Char}
    (text_eq : Text.trim text.toList = schema ++ '.' :: gap ++ '[' :: bounds)
    (noSeparator : ∀ character ∈ schema, character ∉ separators)
    (blank : ∀ character ∈ gap, Text.isBlank character) : type.name = "" := by
  have noSeparatorGap := notMem_separators_of_forall_isBlank blank
  have splits : Splits (Text.trim text.toList) (stem (some schema) gap) ('[' :: bounds) :=
    ⟨text_eq, noBracket_stem (by simpa using ⟨noSeparatorGap, noSeparator⟩), by simp⟩
  have noDot : '.' ∉ schema := fun hasDot => noSeparator '.' hasDot (by decide)
  rw [splits.ofText_eq, stem, splitSchema?_append_cons noDot] at accepted
  split at accepted
  · next readSchema readName count isStem counted =>
      split at isStem
      · contradiction
      · cases isStem
        cases accepted
        rw [Text.trim_eq_nil_iff.mpr blank]
  · contradiction

/-- Each bound takes two characters or more, of which the first may be behind already. -/
theorem two_mul_boundCount?_le {opened : Bool} {bounds : List Char} {count : Nat}
    (counted : boundCount? opened bounds = some count) :
    2 * count ≤ Text.byteLength bounds + opened.toNat := by
  induction bounds generalizing opened count with
  | nil =>
      cases opened with
      | false =>
          cases counted
          exact Nat.le_refl _
      | true => cases counted
  | cons character rest induction =>
      have positive := character.utf8Size_pos
      rw [Text.byteLength_cons]
      cases opened with
      | false =>
          rw [boundCount?, if_neg Bool.false_ne_true, Option.ite_none_right_eq_some] at counted
          have ofRest := induction counted.2
          rw [Bool.toNat_true] at ofRest
          omega
      | true =>
          rw [boundCount?, if_pos rfl] at counted
          split at counted
          · rcases Option.map_eq_some_iff.mp counted with ⟨others, ofOthers, rfl⟩
            have ofRest := induction ofOthers
            rw [Bool.toNat_false] at ofRest
            rw [Bool.toNat_true]
            omega
          · have ofRest := induction (Option.ite_none_right_eq_some.mp counted).2
            omega

/-- The text of what was read is not longer than the text that it was read from. -/
theorem byteLength_text_le (accepted : ofText text = .ok type) :
    Text.byteLength type.text.toList ≤ Text.byteLength text.toList := by
  rcases ofText_eq_ok_iff.mp accepted with
    ⟨schema, name, bounds, splits, -, counted, isSchema, isName⟩
  have plain : type.HasPlainParts := hasPlainParts_of_ofText accepted
  have ofName := Text.byteLength_trim_le name
  have ofStem : Text.byteLength type.dataType.toList ≤ Text.byteLength (stem schema name) := by
    rw [plain.toList_dataType, isSchema, isName, String.toList_ofList]
    cases schema with
    | none => exact ofName
    | some schema =>
        have ofSchema := Text.byteLength_trim_le schema
        simp only [stem, Option.map_some, String.toList_ofList, Text.byteLength_append,
          Text.byteLength_cons]
        omega
  have ofBounds := two_mul_boundCount?_le counted
  rw [Bool.toNat_false] at ofBounds
  have ofParts := Text.byteLength_trim_le text.toList
  rw [splits.text_eq, Text.byteLength_append] at ofParts
  rw [byteLength_text]
  omega

/-- Whatever was read from a text is read again from its own text unless its name is empty, in which
case its own text is refused. The name is empty exactly if the text has nothing but blanks between
the dot behind the schema and the first bound. There are never too many bounds to be written. -/
theorem ofText_text_eq_ok_iff (accepted : ofText text = .ok type) :
    (ofText type.text = .ok type ↔ type.name ≠ "") ∧
      (type.name = "" → ofText type.text = .error { text := type.text }) ∧
      (type.name = "" ↔
        ∃ schema gap bounds,
          Text.trim text.toList = schema ++ '.' :: gap ++ '[' :: bounds ∧
            (∀ character ∈ schema, character ∉ separators) ∧
            ∀ character ∈ gap, Text.isBlank character) ∧
      (Text.byteLength text.toList ≤ Text.maxByteLength → type.text? = some type.text) := by
  have plain : type.HasPlainParts := hasPlainParts_of_ofText accepted
  refine ⟨⟨?nonempty, plain.ofText_text_of_name_ne_empty⟩, plain.ofText_text_of_name_eq_empty,
    ⟨exists_gap_of_name_eq_empty accepted, ?ofGap⟩, ?written⟩
  case nonempty =>
    intro readAgain isEmpty
    rw [plain.ofText_text_of_name_eq_empty isEmpty] at readAgain
    contradiction
  case ofGap =>
    rintro ⟨schema, gap, bounds, text_eq, noSeparator, blank⟩
    exact name_eq_empty_of_gap accepted text_eq noSeparator blank
  case written =>
    intro held
    exact text?_eq_some_iff.mpr ⟨rfl, Nat.le_trans (byteLength_text_le accepted) held⟩

theorem ofText_text_boundOfLength :
    let type : TypeName := { name := "text", arrayBounds := 1 }
    ofText " text[3]" = .ok type ∧ ofText type.text = .ok type ∧ type.text? = some type.text := by
  have accepted : ofText " text[3]" = .ok { name := "text", arrayBounds := 1 } := by decide
  rcases ofText_text_eq_ok_iff accepted with ⟨recovered_iff, -, -, written⟩
  exact ⟨accepted, recovered_iff.mpr (by decide), written (by decide)⟩

/-- The blank counts as a name when the parts are told apart and is taken off afterwards. -/
theorem ofText_text_blankName :
    let type : TypeName := { schema := some "a", name := "", arrayBounds := 1 }
    ofText "a. []" = .ok type ∧ type.text = "a.[]" ∧
      ofText type.text = .error { text := "a.[]" } := by
  decide

/-! ## Types that are recovered from their own text -/

/-- A part that is read as it was written: it is not missing, has no blank at its ends and nothing
that separates parts. -/
structure IsRecoverable (part : String) : Prop where
  nonempty : part ≠ ""
  startsInked : ∀ first ∈ part.toList.head?, Text.isBlank first = false
  endsInked : ∀ last ∈ part.toList.getLast?, Text.isBlank last = false
  noDot : '.' ∉ part.toList
  noOpening : '[' ∉ part.toList
  noClosing : ']' ∉ part.toList

theorem isRecoverable_iff {part : String} :
    IsRecoverable part ↔ IsPlain part.toList ∧ part ≠ "" := by
  have noSeparator_iff : (∀ character ∈ part.toList, character ∉ separators) ↔
      '.' ∉ part.toList ∧ '[' ∉ part.toList ∧ ']' ∉ part.toList := by
    rw [← List.disjoint_left, List.disjoint_comm]
    simp [separators]
  constructor
  · intro recoverable
    have trimmed := Text.trim_eq_self_iff.mpr ⟨recoverable.startsInked, recoverable.endsInked⟩
    have noSeparator := noSeparator_iff.mpr
      ⟨recoverable.noDot, recoverable.noOpening, recoverable.noClosing⟩
    exact ⟨⟨trimmed, noSeparator⟩, recoverable.nonempty⟩
  · rintro ⟨plain, nonempty⟩
    rcases Text.trim_eq_self_iff.mp plain.trimmed with ⟨startsInked, endsInked⟩
    rcases noSeparator_iff.mp plain.noSeparator with ⟨noDot, noOpening, noClosing⟩
    exact ⟨nonempty, startsInked, endsInked, noDot, noOpening, noClosing⟩

theorem hasPlainParts_and_name_ne_empty_iff :
    type.HasPlainParts ∧ type.name ≠ "" ↔
      IsRecoverable type.name ∧ ∀ schema ∈ type.schema, IsRecoverable schema := by
  simp only [isRecoverable_iff]
  constructor
  · rintro ⟨plain, nonempty⟩
    exact ⟨⟨plain.name, nonempty⟩, plain.schema⟩
  · rintro ⟨⟨plainName, nonempty⟩, plainSchema⟩
    exact ⟨⟨plainSchema, plainName⟩, nonempty⟩

theorem ofText_text_eq_ok_self_iff (type : TypeName) :
    ofText type.text = .ok type ↔
      IsRecoverable type.name ∧ ∀ schema ∈ type.schema, IsRecoverable schema := by
  rw [← hasPlainParts_and_name_ne_empty_iff]
  constructor
  · intro recovered
    have plain : type.HasPlainParts := hasPlainParts_of_ofText recovered
    refine ⟨plain, fun isEmpty => ?_⟩
    rw [plain.ofText_text_of_name_eq_empty isEmpty] at recovered
    contradiction
  · rintro ⟨plain, nonempty⟩
    exact plain.ofText_text_of_name_ne_empty nonempty

def ReadsBack (type : TypeName) : Prop :=
  ∃ text, type.text? = some text ∧ ofText text = .ok type

instance (type : TypeName) : Decidable type.ReadsBack :=
  decidable_of_iff (type.text?.map ofText = some (.ok type)) Option.map_eq_some_iff

theorem not_readsBack_of_text?_eq_none (noText : type.text? = none) : ¬ type.ReadsBack := by
  rintro ⟨text, written, -⟩
  rw [noText] at written
  contradiction

/-- A type, wherever it comes from, has a text exactly if that is not longer than a text can be. It
is recovered from its text exactly if its name and its schema, unless there is none, are written so
that they can be read. -/
theorem readsBack_iff (type : TypeName) :
    ((∃ text, type.text? = some text) ↔
        Text.byteLength type.dataType.toList + 2 * type.arrayBounds ≤ Text.maxByteLength) ∧
      (∀ text, type.text? = some text →
        (ofText text = .ok type ↔
          IsRecoverable type.name ∧ ∀ schema ∈ type.schema, IsRecoverable schema)) ∧
      (type.ReadsBack ↔
        Text.byteLength type.dataType.toList + 2 * type.arrayBounds ≤ Text.maxByteLength ∧
          IsRecoverable type.name ∧ ∀ schema ∈ type.schema, IsRecoverable schema) := by
  have hasText_iff : (∃ text, type.text? = some text) ↔
      Text.byteLength type.dataType.toList + 2 * type.arrayBounds ≤ Text.maxByteLength := by
    simp [text?_eq_some_iff, byteLength_text]
  have read_iff : ∀ text, type.text? = some text →
      (ofText text = .ok type ↔
        IsRecoverable type.name ∧ ∀ schema ∈ type.schema, IsRecoverable schema) := by
    intro text written
    rw [(text?_eq_some_iff.mp written).1]
    exact type.ofText_text_eq_ok_self_iff
  refine ⟨hasText_iff, read_iff, ?_⟩
  rw [← hasText_iff]
  constructor
  · rintro ⟨text, written, read⟩
    exact ⟨⟨text, written⟩, (read_iff text written).mp read⟩
  · rintro ⟨⟨text, written⟩, recoverable⟩
    exact ⟨text, written, (read_iff text written).mpr recoverable⟩

theorem readsBack_qualifiedArray :
    let type : TypeName := { schema := some "public", name := "status", arrayBounds := 2 }
    type.text? = some "public.status[][]" ∧ ofText "public.status[][]" = .ok type ∧
      type.ReadsBack := by
  intro type
  have written : type.text? = some "public.status[][]" := by decide
  have name : IsRecoverable "status" :=
    isRecoverable_iff.mpr ⟨⟨by decide, by simp [separators]⟩, by decide⟩
  have schema : IsRecoverable "public" :=
    isRecoverable_iff.mpr ⟨⟨by decide, by simp [separators]⟩, by decide⟩
  have recoverable : IsRecoverable type.name ∧ ∀ schema ∈ type.schema, IsRecoverable schema := by
    refine ⟨name, ?_⟩
    rintro _ ⟨⟩
    exact schema
  rcases type.readsBack_iff with ⟨hasText_iff, read_iff, recovered_iff⟩
  exact ⟨written, (read_iff _ written).mpr recoverable,
    recovered_iff.mpr ⟨hasText_iff.mp ⟨_, written⟩, recoverable⟩⟩

/-- The name can be read, but the text with its bounds is longer than a text can be. -/
theorem not_readsBack_manyBounds :
    let type : TypeName := { name := "a", arrayBounds := 18446744073709551615 }
    type.arrayBounds < UInt64.size ∧ IsRecoverable type.name ∧
      (∀ schema ∈ type.schema, IsRecoverable schema) ∧ type.text? = none ∧ ¬ type.ReadsBack := by
  intro type
  have noText : type.text? = none := by decide
  have name : IsRecoverable "a" :=
    isRecoverable_iff.mpr ⟨⟨by decide, by simp [separators]⟩, by decide⟩
  have noSchema : ∀ schema ∈ type.schema, IsRecoverable schema := by
    intro schema isSchema
    cases isSchema
  exact ⟨by decide, name, noSchema, noText, not_readsBack_of_text?_eq_none noText⟩

/-! An empty schema is not written, and a dot inside a name is taken for the one behind a schema. -/

example :
    ofText (TypeName.text { schema := some "", name := "int4" }) = .ok { name := "int4" } ∧
      ofText (TypeName.text { name := "a.b" }) = .ok { schema := some "a", name := "b" } := by
  decide

end TypeName

end PlaceholderTyping
