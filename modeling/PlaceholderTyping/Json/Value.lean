import PlaceholderTyping.Json.Number

/-!
# JSON values

A value keeps everything that a reader of records can depend on: members stay in the order of the
text, repeated keys included, and a string whose escapes pair up wrongly stays a string, without a
content. Such a string does no harm where nobody looks at it.
-/

namespace PlaceholderTyping.Json

inductive SurrogateDefect where
  | unpaired
  | unfinished
deriving DecidableEq, Repr

abbrev Content := Except SurrogateDefect String

inductive Value where
  | null
  | boolean (value : Bool)
  | number (value : Number)
  | string (content : Content)
  | array (elements : List Value)
  | object (members : List (Content × Value))

namespace Value

instance : Inhabited Value where
  default := .null

def text (content : String) : Value :=
  .string (.ok content)

/-- Orders members by key; a key without a content comes first. -/
def precedes (left right : Content × Value) : Bool :=
  match left.1, right.1 with
  | .ok left, .ok right => left ≤ right
  | .error _, _ => true
  | _, .error _ => false

def sortMembers : Value → Value
  | .array elements => .array (elements.attach.map fun ⟨element, _⟩ => element.sortMembers)
  | .object members =>
      let sorted := members.attach.map fun ⟨(key, value), _⟩ => (key, value.sortMembers)
      .object (sorted.mergeSort precedes)
  | value => value
decreasing_by
  · simp only [array.sizeOf_spec]
    have := List.sizeOf_lt_of_mem ‹element ∈ elements›
    omega
  · have smaller := List.sizeOf_lt_of_mem ‹(key, value) ∈ members›
    simp only [object.sizeOf_spec, Prod.mk.sizeOf_spec] at smaller ⊢
    omega

end Value

end PlaceholderTyping.Json
