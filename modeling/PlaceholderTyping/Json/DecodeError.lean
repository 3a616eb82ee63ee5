import PlaceholderTyping.Json.Value
import PlaceholderTyping.Text.Quoted
import PlaceholderTyping.TypeName

/-!
# Why a JSON value does not fit

Reading a record stops at the first member that does not fit, in the order of the text.
-/

namespace PlaceholderTyping.Json

inductive Expected where
  | string
  | boolean
  | sequence
  | unsigned
  | record (name : String)
deriving DecidableEq, Repr

inductive DecodeError where
  | missingField (name : String)
  | duplicateField (name : String)
  | invalidType (found : Value) (expected : Expected)
  | negative (number : Int)
  | tooShort (length : Nat) (record : String) (size : Nat)
  | surplusElements
  | numberOutOfRange
  | malformedString (defect : SurrogateDefect)
  | typeName (error : TypeNameError)

def Expected.text : Expected → String
  | .string => "a string"
  | .boolean => "a boolean"
  | .sequence => "a sequence"
  | .unsigned => "usize"
  | .record name => s!"struct {name}"

def Value.description : Value → String
  | .null => "null"
  | .boolean value => s!"boolean `{value}`"
  | .number (.integer value) => s!"integer `{value}`"
  | .number (.real value) => s!"floating point `{realText value}`"
  | .number .outOfRange => "number"
  | .string (.ok content) => s!"string {Text.quote content}"
  | .string (.error _) => "string"
  | .array _ => "sequence"
  | .object _ => "map"

namespace DecodeError

/-- The error for a value of the wrong kind. A number or a string that has no value of its own is
at fault itself. -/
def mismatch (found : Value) (expected : Expected) : DecodeError :=
  match found with
  | .number .outOfRange => .numberOutOfRange
  | .string (.error defect) => .malformedString defect
  | _ => .invalidType found expected

def message : DecodeError → String
  | .missingField name => s!"missing field `{name}`"
  | .duplicateField name => s!"duplicate field `{name}`"
  | .invalidType found expected =>
      s!"invalid type: {found.description}, expected {expected.text}"
  | .negative number => s!"invalid value: integer `{number}`, expected {Expected.unsigned.text}"
  | .tooShort length record size =>
      s!"invalid length {length}, expected struct {record} with {size} elements"
  | .surplusElements => "trailing characters"
  | .numberOutOfRange => "number out of range"
  | .malformedString .unpaired => "lone leading surrogate in hex escape"
  | .malformedString .unfinished => "unexpected end of hex escape"
  | .typeName error => error.message

end DecodeError

end PlaceholderTyping.Json
