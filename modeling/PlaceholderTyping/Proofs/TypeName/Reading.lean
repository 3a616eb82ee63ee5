import Mathlib.Data.List.DropRight
import Mathlib.Data.List.TakeDrop
import PlaceholderTyping.TypeName

/-!
# The grammar of type names

Which texts are read as a type name, and what is read from them: between its outer blanks, such a
text consists of a stem, which is a name or a schema and a name beside a dot, and of array bounds.
-/

namespace PlaceholderTyping

/-! ## Trimmed texts -/

namespace Text

variable {text : List Char} {character : Char}

theorem trim_eq_rdropWhile (text : List Char) :
    trim text = (text.dropWhile isBlank).rdropWhile isBlank := rfl

theorem trim_eq_nil_iff : trim text = [] ↔ ∀ character ∈ text, isBlank character := by
  rw [trim_eq_rdropWhile, List.rdropWhile_eq_nil_iff, ← List.dropWhile_eq_nil_iff,
    List.dropWhile_idempotent isBlank text, List.dropWhile_eq_nil_iff]

theorem mem_of_mem_trim (member : character ∈ trim text) : character ∈ text :=
  (List.dropWhile_suffix isBlank).mem ((List.rdropWhile_prefix isBlank _).mem member)

theorem not_isBlank_of_head?_trim (starts : (trim text).head? = some character) :
    isBlank character = false := by
  rcases List.head?_eq_some_iff.mp starts with ⟨rest, trim_eq⟩
  rcases List.rdropWhile_prefix isBlank (text.dropWhile isBlank) with ⟨trailing, dropped⟩
  rw [← trim_eq_rdropWhile, trim_eq] at dropped
  have := List.head?_dropWhile_not isBlank text
  rwa [← dropped] at this

theorem not_isBlank_of_getLast?_trim (ends : (trim text).getLast? = some character) :
    isBlank character = false := by
  rcases List.mem_getLast?_eq_getLast ends with ⟨nonempty, rfl⟩
  exact Bool.eq_false_iff.mpr (List.rdropWhile_last_not isBlank _ nonempty)

/-- A text is trimmed if it neither starts nor ends with a blank. -/
theorem trim_eq_self_iff :
    trim text = text ↔
      (∀ first ∈ text.head?, isBlank first = false) ∧
        ∀ last ∈ text.getLast?, isBlank last = false := by
  constructor
  · intro trimmed
    rw [← trimmed]
    exact ⟨fun _ => not_isBlank_of_head?_trim, fun _ => not_isBlank_of_getLast?_trim⟩
  · rintro ⟨starts, ends⟩
    have keepsStart : text.dropWhile isBlank = text := by
      cases text with
      | nil => rfl
      | cons first rest => exact List.dropWhile_cons_of_neg (by simp [starts first rfl])
    rw [trim_eq_rdropWhile, keepsStart, List.rdropWhile_eq_self_iff]
    intro nonempty
    simp [ends _ (List.getLast?_eq_some_getLast nonempty)]

theorem trim_trim (text : List Char) : trim (trim text) = trim text :=
  trim_eq_self_iff.mpr
    ⟨fun _ => not_isBlank_of_head?_trim, fun _ => not_isBlank_of_getLast?_trim⟩

theorem trim_eq_self_of_forall (noBlank : ∀ character ∈ text, isBlank character = false) :
    trim text = text :=
  trim_eq_self_iff.mpr
    ⟨fun first starts => noBlank first (List.mem_of_mem_head? starts),
      fun last ends => noBlank last (List.mem_of_mem_getLast? ends)⟩

theorem trim_append {front back : List Char} (trimmedFront : trim front = front)
    (trimmedBack : trim back = back) : trim (front ++ back) = front ++ back := by
  rw [trim_eq_self_iff] at trimmedFront trimmedBack ⊢
  constructor
  · intro first starts
    rw [List.head?_append, Option.mem_def, Option.or_eq_some_iff] at starts
    rcases starts with starts | ⟨-, starts⟩
    · exact trimmedFront.1 first starts
    · exact trimmedBack.1 first starts
  · intro last ends
    rw [List.getLast?_append, Option.mem_def, Option.or_eq_some_iff] at ends
    rcases ends with ends | ⟨-, ends⟩
    · exact trimmedBack.2 last ends
    · exact trimmedFront.2 last ends

theorem trim_ne_nil_of_prefix {part : List Char} (starts : part <+: trim text)
    (nonempty : part ≠ []) : trim part ≠ [] := by
  intro isEmpty
  have blank : isBlank (part.head nonempty) = true :=
    trim_eq_nil_iff.mp isEmpty _ (List.head_mem nonempty)
  rcases starts with ⟨back, trim_eq⟩
  have starts : (trim text).head? = some (part.head nonempty) := by
    rw [← trim_eq, List.head?_append, List.head?_eq_some_head nonempty, Option.some_or]
  simp [not_isBlank_of_head?_trim starts] at blank

theorem trim_ne_nil_of_suffix {part : List Char} (ends : part <:+ trim text)
    (nonempty : part ≠ []) : trim part ≠ [] := by
  intro isEmpty
  have blank : isBlank (part.getLast nonempty) = true :=
    trim_eq_nil_iff.mp isEmpty _ (List.getLast_mem nonempty)
  rcases ends with ⟨front, trim_eq⟩
  have ends : (trim text).getLast? = some (part.getLast nonempty) := by
    rw [← trim_eq, List.getLast?_append_of_ne_nil front nonempty,
      List.getLast?_eq_some_getLast nonempty]
  simp [not_isBlank_of_getLast?_trim ends] at blank

end Text

namespace TypeName

/-! ## Stems and bounds -/

def separators : List Char := ['.', '[', ']']

theorem not_isBlank_of_mem_separators {character : Char} (separates : character ∈ separators) :
    Text.isBlank character = false := by
  simp only [separators, List.mem_cons, List.not_mem_nil, or_false] at separates
  rcases separates with rfl | rfl | rfl <;> decide

theorem notMem_separators_of_forall_isBlank {part : List Char}
    (blank : ∀ character ∈ part, Text.isBlank character) :
    ∀ character ∈ part, character ∉ separators := by
  intro character member separates
  have notBlank := not_isBlank_of_mem_separators separates
  simp [blank character member] at notBlank

def stem : Option (List Char) → List Char → List Char
  | none, name => name
  | some schema, name => schema ++ '.' :: name

variable {text : String} {schema : Option (List Char)} {name bounds stemText : List Char}

theorem mem_stem_iff {character : Char} :
    character ∈ stem schema name ↔
      (∃ part ∈ name :: schema.toList, character ∈ part) ∨ schema.isSome ∧ character = '.' := by
  cases schema with
  | none => simp [stem]
  | some schema =>
      simp only [stem, List.mem_append, List.mem_cons, Option.toList_some, List.not_mem_nil,
        or_false, exists_eq_or_imp, exists_eq_left, Option.isSome_some, true_and]
      tauto

theorem noBracket_stem
    (noSeparator : ∀ part ∈ name :: schema.toList, ∀ character ∈ part, character ∉ separators) :
    ∀ character ∈ stem schema name, character ≠ '[' ∧ character ≠ ']' := by
  intro character member
  rcases mem_stem_iff.mp member with ⟨part, isPart, inPart⟩ | ⟨-, rfl⟩
  · have := noSeparator part isPart character inPart
    simp_all [separators]
  · decide

theorem span_append {passes : Char → Bool} {front back : List Char}
    (passing : ∀ character ∈ front, passes character = true)
    (stopping : ∀ first ∈ back.head?, passes first = false) :
    (front ++ back).span passes = (front, back) := by
  have stops : back.takeWhile passes = [] ∧ back.dropWhile passes = back := by
    cases back with
    | nil => exact ⟨rfl, rfl⟩
    | cons first rest => simp [stopping first rfl]
  rw [List.span_eq_takeWhile_dropWhile, List.takeWhile_append_of_pos passing,
    List.dropWhile_append_of_pos passing, stops.1, stops.2, List.append_nil]

theorem splitSchema?_of_notMem (noDot : '.' ∉ stemText) :
    splitSchema? stemText = if stemText = [] then none else some (none, stemText) := by
  have split : (stemText ++ []).span (· != '.') = (stemText, []) :=
    span_append (fun character member => bne_iff_ne.mpr (ne_of_mem_of_not_mem member noDot))
      (by simp)
  rw [List.append_nil] at split
  rw [splitSchema?, split]
  cases stemText <;> rfl

theorem splitSchema?_append_cons {before after : List Char} (noDot : '.' ∉ before) :
    splitSchema? (before ++ '.' :: after) =
      if before = [] ∨ after = [] ∨ '.' ∈ after then none else some (some before, after) := by
  have split : (before ++ '.' :: after).span (· != '.') = (before, '.' :: after) :=
    span_append (fun character member => bne_iff_ne.mpr (ne_of_mem_of_not_mem member noDot))
      (by simp)
  rw [splitSchema?, split]
  cases before <;> simp

theorem splitSchema?_eq_some_iff :
    splitSchema? stemText = some (schema, name) ↔
      stemText = stem schema name ∧ ∀ part ∈ name :: schema.toList, part ≠ [] ∧ '.' ∉ part := by
  constructor
  · intro split
    by_cases hasDot : '.' ∈ stemText
    · rcases List.eq_append_cons_of_mem hasDot with ⟨before, after, rfl, noDot⟩
      rw [splitSchema?_append_cons noDot] at split
      split at split
      · contradiction
      · next isPart =>
          simp only [Option.some.injEq, Prod.mk.injEq] at split
          rcases split with ⟨rfl, rfl⟩
          simp_all [stem]
    · rw [splitSchema?_of_notMem hasDot] at split
      split at split
      · contradiction
      · next nonempty =>
          simp only [Option.some.injEq, Prod.mk.injEq] at split
          rcases split with ⟨rfl, rfl⟩
          simp_all [stem]
  · rintro ⟨rfl, parts⟩
    cases schema with
    | none =>
        rcases parts name (by simp) with ⟨nonempty, noDot⟩
        rw [stem, splitSchema?_of_notMem noDot, if_neg nonempty]
    | some before =>
        rcases parts name (by simp) with ⟨nonempty, noDot⟩
        rcases parts before (by simp) with ⟨nonemptyBefore, noDotBefore⟩
        rw [stem, splitSchema?_append_cons noDotBefore, if_neg (by tauto)]

def bound (digits : List Char) : List Char :=
  '[' :: digits ++ [']']

theorem boundCount?_digits_append {digits rest : List Char}
    (areDigits : ∀ character ∈ digits, Text.isDecimalDigit character = true) :
    boundCount? true (digits ++ ']' :: rest) = (boundCount? false rest).map (· + 1) := by
  induction digits with
  | nil => simp [boundCount?]
  | cons digit digits induction =>
      have isDigit := areDigits digit List.mem_cons_self
      have notClosing : digit ≠ ']' := by
        rintro rfl
        exact absurd isDigit (by decide)
      rw [List.cons_append, boundCount?, if_pos rfl, if_neg notClosing, if_pos isDigit]
      exact induction (List.forall_mem_cons.mp areDigits).2

theorem boundCount?_flatMap_bound {contents : List (List Char)}
    (areDigits : ∀ digits ∈ contents, ∀ character ∈ digits,
      Text.isDecimalDigit character = true) :
    boundCount? false (contents.flatMap bound) = some contents.length := by
  induction contents with
  | nil => rfl
  | cons digits contents induction =>
      rcases List.forall_mem_cons.mp areDigits with ⟨firstDigits, otherDigits⟩
      have opening : (digits :: contents).flatMap bound =
          '[' :: (digits ++ ']' :: contents.flatMap bound) := by simp [bound]
      rw [opening, boundCount?, if_neg (by decide), if_pos rfl,
        boundCount?_digits_append firstDigits, induction otherDigits, List.length_cons,
        Option.map_some]

theorem boundCount?_replicate (count : Nat) :
    boundCount? false (List.replicate count ['[', ']']).flatten = some count := by
  have areDigits : ∀ digits ∈ List.replicate count ([] : List Char), ∀ character ∈ digits,
      Text.isDecimalDigit character = true := by simp
  have counted := boundCount?_flatMap_bound areDigits
  rwa [List.flatMap_replicate, List.length_replicate] at counted

theorem head?_of_boundCount? {count : Nat} (counted : boundCount? false bounds = some count) :
    ∀ first ∈ bounds.head?, first = '[' := by
  cases bounds with
  | nil => simp
  | cons first rest =>
      rw [boundCount?, if_neg (by decide)] at counted
      split at counted
      · simpa
      · contradiction

/-! ## Accepted texts -/

structure Splits (text front back : List Char) : Prop where
  text_eq : text = front ++ back
  closed : ∀ character ∈ front, character ≠ '[' ∧ character ≠ ']'
  opens : ∀ first ∈ back.head?, first = '[' ∨ first = ']'

theorem exists_splits (text : List Char) : ∃ front back, Splits text front back := by
  let passes (character : Char) : Bool := character != '[' && character != ']'
  refine ⟨text.takeWhile passes, text.dropWhile passes, ?_, ?_, ?_⟩
  case refine_1 => exact List.takeWhile_append_dropWhile.symm
  case refine_2 =>
    intro character member
    simpa [passes] using List.mem_takeWhile_imp member
  case refine_3 =>
    intro first starts
    have stops := List.head?_dropWhile_not passes text
    rw [Option.mem_def.mp starts] at stops
    simpa [passes, or_iff_not_imp_left] using stops

theorem Splits.noSeparator {characters : List Char}
    (splits : Splits characters (stem schema name) bounds)
    (parts : ∀ part ∈ name :: schema.toList, part ≠ [] ∧ '.' ∉ part) :
    ∀ part ∈ name :: schema.toList, ∀ character ∈ part, character ∉ separators := by
  intro part isPart character member separates
  have noBracket := splits.closed character (mem_stem_iff.mpr (.inl ⟨part, isPart, member⟩))
  have noDot : character ≠ '.' := ne_of_mem_of_not_mem member (parts part isPart).2
  simp_all [separators]

/-- Reading looks at the two sides of the first bracket on their own. -/
theorem Splits.ofText_eq (splits : Splits (Text.trim text.toList) stemText bounds) :
    ofText text =
      match splitSchema? stemText, boundCount? false bounds with
      | some (schema, name), some arrayBounds =>
          .ok {
            schema := schema.map fun schema => String.ofList (Text.trim schema)
            name := String.ofList (Text.trim name)
            arrayBounds }
      | _, _ => .error { text } := by
  have split : (stemText ++ bounds).span (fun character => character != '[' && character != ']') =
      (stemText, bounds) := by
    refine span_append (fun character member => ?_) (fun first starts => ?_)
    · simpa using splits.closed character member
    · rcases splits.opens first starts with rfl | rfl <;> rfl
  rewrite [ofText, splits.text_eq, split]
  rfl

theorem ofText_eq_ok_iff {type : TypeName} :
    ofText text = .ok type ↔
      ∃ schema name bounds,
        Splits (Text.trim text.toList) (stem schema name) bounds ∧
          (∀ part ∈ name :: schema.toList, part ≠ [] ∧ '.' ∉ part) ∧
          boundCount? false bounds = some type.arrayBounds ∧
          type.schema = schema.map (fun schema => String.ofList (Text.trim schema)) ∧
          type.name = String.ofList (Text.trim name) := by
  constructor
  · intro accepted
    rcases exists_splits (Text.trim text.toList) with ⟨stemText, bounds, splits⟩
    rw [splits.ofText_eq] at accepted
    split at accepted
    · next schema name arrayBounds isStem counted =>
        rcases splitSchema?_eq_some_iff.mp isStem with ⟨rfl, parts⟩
        cases accepted
        exact ⟨schema, name, bounds, splits, parts, counted, rfl, rfl⟩
    · contradiction
  · rintro ⟨schema, name, bounds, splits, parts, counted, isSchema, isName⟩
    rw [splits.ofText_eq, splitSchema?_eq_some_iff.mpr ⟨rfl, parts⟩, counted]
    cases type
    simp_all

end TypeName

end PlaceholderTyping
