import PlaceholderTyping.Json.DecodeError

/-!
# JSON codecs

A codec says how the values of a type are written as JSON and which JSON values are read back. A
value with a part that has no text cannot be written. Records are described field by field; one
description serves both directions and both written forms of a record, the object with named members
and the array of the fields in their order.
-/

namespace PlaceholderTyping.Json

structure Codec (α : Type) where
  encode? : α → Option Value
  decode : Value → Except DecodeError α

namespace Codec

/-! ## Simple values -/

def string : Codec String where
  encode? content := some (.text content)
  decode
    | .string (.ok content) => .ok content
    | found => .error (.mismatch found .string)

def boolean : Codec Bool where
  encode? value := some (.boolean value)
  decode
    | .boolean value => .ok value
    | found => .error (.mismatch found .boolean)

/-- Unsigned numbers. A negative number is of the right type but has no value here. -/
def unsigned : Codec Nat where
  encode? number := some (.number (.integer number))
  decode
    | .number (.integer (.ofNat number)) => .ok number
    | .number (.integer negative) => .error (.negative negative)
    | found => .error (.mismatch found .unsigned)

def list {α : Type} (element : Codec α) : Codec (List α) where
  encode? elements := (elements.mapM element.encode?).map .array
  decode
    | .array elements => elements.mapM element.decode
    | found => .error (.mismatch found .sequence)

def nullable {α : Type} (codec : Codec α) : Codec (Option α) where
  encode?
    | some value => codec.encode? value
    | none => some .null
  decode
    | .null => .ok none
    | found => some <$> codec.decode found

end Codec

/-! ## Fields -/

/-- A field of a record. Where `write?` gives nothing the record cannot be written, and where it
gives no value the member is left out; `absent` stands in when an object lacks the member, and `cut`
when an array ends before it. -/
structure Field (α : Type) where
  name : String
  write? : α → Option (Option Value)
  read : Value → Except DecodeError α
  absent : Option α
  cut : Option α

namespace Field

def required {α : Type} (name : String) (codec : Codec α) : Field α where
  name := name
  write? value := (codec.encode? value).map some
  read := codec.decode
  absent := none
  cut := none

def defaulted {α : Type} (name : String) (codec : Codec α) (default : α) : Field α where
  name := name
  write? value := (codec.encode? value).map some
  read := codec.decode
  absent := some default
  cut := some default

/-- A field that is not written when its value is missing. -/
def optional {α : Type} (name : String) (codec : Codec α) : Field (Option α) where
  name := name
  write?
    | some value => (codec.encode? value).map some
    | none => some none
  read := codec.nullable.decode
  absent := some none
  cut := some none

/-- A field that is always written. Only an object may lack it. -/
def nullable {α : Type} (name : String) (codec : Codec α) : Field (Option α) where
  name := name
  write? value := (codec.nullable.encode? value).map some
  read := codec.nullable.decode
  absent := some none
  cut := none

end Field

/-! ## Records

A record is read into a tuple of its field values, so the types of the fields index their
descriptions, the tuple, and the draft that fills up while the members of an object are read. -/

inductive Fields : List Type → Type 1
  | nil : Fields []
  | cons {α : Type} {types : List Type} (field : Field α) (rest : Fields types) :
      Fields (α :: types)

def Row : List Type → Type
  | [] => Unit
  | α :: types => α × Row types

def Draft : List Type → Type
  | [] => Unit
  | α :: types => Option α × Draft types

namespace Fields

def size : {types : List Type} → Fields types → Nat
  | _, .nil => 0
  | _, .cons _ rest => rest.size + 1

def write? : {types : List Type} → Fields types → Row types → Option (List (Content × Value))
  | _, .nil, _ => some []
  | _, .cons field rest, (value, values) => do
      let own ← field.write? value
      let others ← rest.write? values
      return (own.map fun written => (.ok field.name, written)).toList ++ others

def blank : {types : List Type} → Fields types → Draft types
  | _, .nil => ()
  | _, .cons _ rest => (none, rest.blank)

/-- Reads a member into its place, which has to be free. Members of unknown name are passed over
unread. -/
def put (key : String) (value : Value) :
    {types : List Type} → Fields types → Draft types → Except DecodeError (Draft types)
  | _, .nil, draft => .ok draft
  | _, .cons field rest, (slot, slots) =>
      if field.name = key then
        match slot with
        | some _ => .error (.duplicateField key)
        | none => do
            let content ← field.read value
            return (some content, slots)
      else do
        let slots ← rest.put key value slots
        return (slot, slots)

def putMember {types : List Type} (fields : Fields types) (draft : Draft types)
    (member : Content × Value) : Except DecodeError (Draft types) :=
  match member.1 with
  | .ok key => fields.put key member.2 draft
  | .error defect => .error (.malformedString defect)

/-- The row of a draft at the end of an object. The first required field that was not read is
missed. -/
def complete : {types : List Type} → Fields types → Draft types → Except DecodeError (Row types)
  | _, .nil, _ => .ok ()
  | _, .cons field rest, (slot, slots) =>
      match slot.or field.absent with
      | none => .error (.missingField field.name)
      | some value => do
          let values ← rest.complete slots
          return (value, values)

def ofElements (record : String) (size position : Nat) :
    {types : List Type} → Fields types → List Value → Except DecodeError (Row types)
  | _, .nil, [] => .ok ()
  | _, .nil, _ :: _ => .error .surplusElements
  | _, .cons field rest, [] =>
      match field.cut with
      | none => .error (.tooShort position record size)
      | some value => do
          let values ← rest.ofElements record size (position + 1) []
          return (value, values)
  | _, .cons field rest, element :: elements => do
      let value ← field.read element
      let values ← rest.ofElements record size (position + 1) elements
      return (value, values)

end Fields

def Codec.record {α : Type} {types : List Type} (name : String) (fields : Fields types)
    (toRow : α → Row types) (ofRow : Row types → α) : Codec α where
  encode? value := (fields.write? (toRow value)).map .object
  decode
    | .object members => do
        let draft ← members.foldlM fields.putMember fields.blank
        ofRow <$> fields.complete draft
    | .array elements => ofRow <$> fields.ofElements name fields.size 0 elements
    | found => .error (.mismatch found (.record name))

end PlaceholderTyping.Json
