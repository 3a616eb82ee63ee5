import Mathlib.Data.List.Basic
import PlaceholderTyping.Proofs.TypeName.Reading

/-!
# Which texts name a type

The texts that are read as a type name, by a grammar that does not mention how they are read: a stem
without brackets, and behind it any number of bounds, each of them digits between brackets. The stem
has at most one dot, with something on either side of it.
-/

namespace PlaceholderTyping.TypeName

/-! ## The grammar -/

structure Spells (text stemText : List Char) (bounds : List (List Char)) : Prop where
  text_eq : text = stemText ++ bounds.flatMap bound
  noBracket : ∀ character ∈ stemText, character ≠ '[' ∧ character ≠ ']'
  count_dot_le : stemText.count '.' ≤ 1
  nonempty : stemText ≠ []
  sides : ∀ before after, stemText = before ++ '.' :: after → before ≠ [] ∧ after ≠ []
  digits : ∀ digits ∈ bounds, ∀ character ∈ digits, Text.isDecimalDigit character = true

/-- What a stem and bounds stand for. Blanks around the parts of the stem do not count, and of the
bounds only their number does. -/
structure StandsFor (stemText : List Char) (bounds : List (List Char)) (type : TypeName) :
    Prop where
  unqualified : '.' ∉ stemText →
    type.schema = none ∧ type.name = String.ofList (Text.trim stemText)
  qualified : ∀ before after, stemText = before ++ '.' :: after →
    type.schema = some (String.ofList (Text.trim before)) ∧
      type.name = String.ofList (Text.trim after)
  arrayBounds : type.arrayBounds = bounds.length

variable {text : String} {type : TypeName} {schema : Option (List Char)}
  {name characters stemText : List Char} {bounds : List (List Char)}

/-! ## Bounds -/

/-- Texts of which the bounds can be counted, outside a bound and inside one. -/
theorem exists_bounds_of_boundCount? (characters : List Char) :
    (∀ count, boundCount? false characters = some count →
      ∃ bounds : List (List Char), characters = bounds.flatMap bound ∧ bounds.length = count ∧
        ∀ digits ∈ bounds, ∀ character ∈ digits, Text.isDecimalDigit character = true) ∧
      ∀ count, boundCount? true characters = some count →
        ∃ (opened : List Char) (bounds : List (List Char)),
          characters = opened ++ ']' :: bounds.flatMap bound ∧ bounds.length + 1 = count ∧
            ∀ digits ∈ opened :: bounds, ∀ character ∈ digits,
              Text.isDecimalDigit character = true := by
  induction characters with
  | nil => simp [boundCount?]
  | cons first rest induction =>
      rcases induction with ⟨outside, inside⟩
      refine ⟨fun count counted => ?_, fun count counted => ?_⟩
      · rw [boundCount?, if_neg (by decide)] at counted
        split at counted
        · next isOpening =>
            rcases inside count counted with ⟨opened, bounds, rfl, rfl, areDigits⟩
            exact ⟨opened :: bounds, by simp [bound, isOpening], rfl, areDigits⟩
        · contradiction
      · rw [boundCount?, if_pos rfl] at counted
        split at counted
        · next isClosing =>
            rcases Option.map_eq_some_iff.mp counted with ⟨behind, countedBehind, rfl⟩
            rcases outside behind countedBehind with ⟨bounds, rfl, rfl, areDigits⟩
            exact ⟨[], bounds, by simp [isClosing], rfl,
              List.forall_mem_cons.mpr ⟨by simp, areDigits⟩⟩
        · split at counted
          · next isDigit =>
              rcases inside count counted with ⟨opened, bounds, rfl, rfl, areDigits⟩
              rcases List.forall_mem_cons.mp areDigits with ⟨openedDigits, otherDigits⟩
              exact ⟨first :: opened, bounds, rfl, rfl,
                List.forall_mem_cons.mpr
                  ⟨List.forall_mem_cons.mpr ⟨isDigit, openedDigits⟩, otherDigits⟩⟩
          · contradiction

theorem boundCount?_eq_some_iff {count : Nat} :
    boundCount? false characters = some count ↔
      ∃ bounds : List (List Char), characters = bounds.flatMap bound ∧ bounds.length = count ∧
        ∀ digits ∈ bounds, ∀ character ∈ digits, Text.isDecimalDigit character = true := by
  constructor
  · exact (exists_bounds_of_boundCount? characters).1 count
  · rintro ⟨bounds, rfl, rfl, areDigits⟩
    exact boundCount?_flatMap_bound areDigits

/-! ## Stems -/

/-- A stem has no dot other than the one behind its schema. -/
theorem stem_eq_append_cons_iff (noDot : ∀ part ∈ name :: schema.toList, '.' ∉ part)
    {before after : List Char} :
    stem schema name = before ++ '.' :: after ↔ schema = some before ∧ name = after := by
  have noDotInName : '.' ∉ name := noDot name List.mem_cons_self
  cases schema with
  | none =>
      have different : name ≠ before ++ '.' :: after := by
        rintro rfl
        simp at noDotInName
      simpa [stem] using different
  | some schema =>
      have noDotInSchema : '.' ∉ schema := noDot schema (by simp)
      rw [stem, List.append_cons_inj_of_notMem noDotInSchema noDotInName]
      simp

theorem count_dot_stem (noDot : ∀ part ∈ name :: schema.toList, '.' ∉ part) :
    (stem schema name).count '.' = if schema.isSome then 1 else 0 := by
  have noDotInName : name.count '.' = 0 := List.count_eq_zero.mpr (noDot name List.mem_cons_self)
  cases schema with
  | none => simpa [stem] using noDotInName
  | some schema =>
      have noDotInSchema : schema.count '.' = 0 := List.count_eq_zero.mpr (noDot schema (by simp))
      simp [stem, noDotInName, noDotInSchema]

/-- A text with at most one dot, and with something on either side of it, is a stem. -/
theorem exists_stem_of_count_dot_le (count_dot_le : stemText.count '.' ≤ 1)
    (nonempty : stemText ≠ [])
    (sides : ∀ before after, stemText = before ++ '.' :: after → before ≠ [] ∧ after ≠ []) :
    ∃ schema name, stemText = stem schema name ∧
      ∀ part ∈ name :: schema.toList, part ≠ [] ∧ '.' ∉ part := by
  by_cases hasDot : '.' ∈ stemText
  · rcases List.eq_append_cons_of_mem hasDot with ⟨before, after, rfl, noDot⟩
    have noDotBehind : '.' ∉ after := by
      rw [← List.count_eq_zero]
      rw [List.count_append, List.count_cons_self] at count_dot_le
      omega
    rcases sides before after rfl with ⟨nonemptyBefore, nonemptyAfter⟩
    exact ⟨some before, after, rfl, by simp [*]⟩
  · exact ⟨none, stemText, rfl, by simp [*]⟩

theorem standsFor_stem_iff (noDot : ∀ part ∈ name :: schema.toList, '.' ∉ part) :
    StandsFor (stem schema name) bounds type ↔
      type.schema = schema.map (fun schema => String.ofList (Text.trim schema)) ∧
        type.name = String.ofList (Text.trim name) ∧ type.arrayBounds = bounds.length := by
  constructor
  · intro stands
    cases schema with
    | none =>
        rcases stands.unqualified (noDot name List.mem_cons_self) with ⟨isSchema, isName⟩
        exact ⟨isSchema, isName, stands.arrayBounds⟩
    | some schema =>
        rcases stands.qualified schema name rfl with ⟨isSchema, isName⟩
        exact ⟨isSchema, isName, stands.arrayBounds⟩
  · rintro ⟨isSchema, isName, isCount⟩
    refine ⟨fun noDotAtAll => ?_, fun before after split => ?_, isCount⟩
    · cases schema with
      | none => exact ⟨isSchema, isName⟩
      | some schema => simp [stem] at noDotAtAll
    · rcases (stem_eq_append_cons_iff noDot).mp split with ⟨rfl, rfl⟩
      exact ⟨isSchema, isName⟩

/-! ## Texts -/

theorem Spells.exists_stem (spells : Spells characters stemText bounds) :
    ∃ schema name, stemText = stem schema name ∧
      ∀ part ∈ name :: schema.toList, part ≠ [] ∧ '.' ∉ part :=
  exists_stem_of_count_dot_le spells.count_dot_le spells.nonempty spells.sides

theorem Spells.splits (spells : Spells characters stemText bounds) :
    Splits characters stemText (bounds.flatMap bound) where
  text_eq := spells.text_eq
  closed := spells.noBracket
  opens first starts :=
    .inl (head?_of_boundCount? (boundCount?_flatMap_bound spells.digits) first starts)

theorem spells_of_splits
    (splits : Splits characters (stem schema name) (bounds.flatMap bound))
    (parts : ∀ part ∈ name :: schema.toList, part ≠ [] ∧ '.' ∉ part)
    (digits : ∀ digits ∈ bounds, ∀ character ∈ digits, Text.isDecimalDigit character = true) :
    Spells characters (stem schema name) bounds := by
  have noDot : ∀ part ∈ name :: schema.toList, '.' ∉ part := fun part isPart =>
    (parts part isPart).2
  refine ⟨splits.text_eq, splits.closed, ?count, ?nonempty, ?sides, digits⟩
  case count =>
    rw [count_dot_stem noDot]
    split <;> omega
  case nonempty =>
    cases schema with
    | none => exact (parts name List.mem_cons_self).1
    | some schema => simp [stem]
  case sides =>
    intro before after split
    rcases (stem_eq_append_cons_iff noDot).mp split with ⟨rfl, rfl⟩
    exact ⟨(parts before (by simp)).1, (parts name List.mem_cons_self).1⟩

theorem ofText_eq_ok_iff_exists_spells :
    ofText text = .ok type ↔
      ∃ stemText bounds,
        Spells (Text.trim text.toList) stemText bounds ∧ StandsFor stemText bounds type := by
  rw [ofText_eq_ok_iff]
  constructor
  · rintro ⟨schema, name, boundsText, splits, parts, counted, isSchema, isName⟩
    rcases boundCount?_eq_some_iff.mp counted with ⟨bounds, rfl, isCount, digits⟩
    refine ⟨stem schema name, bounds, spells_of_splits splits parts digits, ?_⟩
    rw [standsFor_stem_iff fun part isPart => (parts part isPart).2]
    exact ⟨isSchema, isName, isCount.symm⟩
  · rintro ⟨stemText, bounds, spells, stands⟩
    rcases spells.exists_stem with ⟨schema, name, rfl, parts⟩
    rw [standsFor_stem_iff fun part isPart => (parts part isPart).2] at stands
    rcases stands with ⟨isSchema, isName, isCount⟩
    refine ⟨schema, name, bounds.flatMap bound, spells.splits, parts, ?_, isSchema, isName⟩
    rw [isCount]
    exact boundCount?_flatMap_bound spells.digits

theorem Spells.exists_standsFor (spells : Spells characters stemText bounds) :
    ∃ type, StandsFor stemText bounds type := by
  rcases spells.exists_stem with ⟨schema, name, rfl, parts⟩
  refine ⟨⟨schema.map fun schema => String.ofList (Text.trim schema),
    String.ofList (Text.trim name), bounds.length⟩, ?_⟩
  rw [standsFor_stem_iff fun part isPart => (parts part isPart).2]
  exact ⟨rfl, rfl, rfl⟩

/-- A text is read as a type name exactly if the grammar has it, once the blanks at its ends are
taken off, and what is read is what the stem and the bounds stand for. -/
theorem ofText_grammar (text : String) :
    ((∃ type, ofText text = .ok type) ↔
        ∃ stemText bounds, Spells (Text.trim text.toList) stemText bounds) ∧
      ∀ type, ofText text = .ok type ↔
        ∃ stemText bounds,
          Spells (Text.trim text.toList) stemText bounds ∧ StandsFor stemText bounds type := by
  refine ⟨⟨?read, ?spelled⟩, fun type => ofText_eq_ok_iff_exists_spells⟩
  case read =>
    rintro ⟨type, accepted⟩
    rcases ofText_eq_ok_iff_exists_spells.mp accepted with ⟨stemText, bounds, spells, -⟩
    exact ⟨stemText, bounds, spells⟩
  case spelled =>
    rintro ⟨stemText, bounds, spells⟩
    rcases spells.exists_standsFor with ⟨type, stands⟩
    exact ⟨type, ofText_eq_ok_iff_exists_spells.mpr ⟨stemText, bounds, spells, stands⟩⟩

/-! Digits of any script stand in a bound, and blanks may stand inside a name but not in a bound. -/

example : ofText "\ta b . c d [12][٣]" =
    .ok { schema := some "a b", name := "c d", arrayBounds := 2 } := by
  decide

example : ofText "c[1 2]" = .error { text := "c[1 2]" } := by
  decide

end PlaceholderTyping.TypeName
