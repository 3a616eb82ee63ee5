import PlaceholderTyping.Catalog.Document
import PlaceholderTyping.Json.Reader

/-!
# Loading catalogs

A catalog is loaded from the text of a JSON document, or from the bytes of a file.
-/

namespace PlaceholderTyping

open Json

inductive DocumentError where
  | notJson
  | unfit (error : DecodeError)

def DocumentError.message : DocumentError → String
  | .notJson => "the text is no JSON document"
  | .unfit error => error.message

def Json.Codec.decodeText {α : Type} (codec : Codec α) (text : String) :
    Except DocumentError α :=
  match Value.ofText? text with
  | none => .error .notJson
  | some value => (codec.decode value).mapError .unfit

inductive LoadError where
  | missingFile (path : String)
  | notUtf8 (path : String)
  | document (error : DocumentError)

namespace LoadError

def reason : LoadError → String
  | .missingFile path => s!"could not read {path}: No such file or directory (os error 2)"
  | .notUtf8 path => s!"could not read {path}: stream did not contain valid UTF-8"
  | .document error => error.message

def message (error : LoadError) : String :=
  s!"could not load catalog: {error.reason}"

end LoadError

namespace Catalog

def ofJson (text : String) : Except LoadError Catalog :=
  (codec.decodeText text).mapError .document

/-- Loads a catalog from a file. There are no contents where there is no file. -/
def ofFile (path : String) (contents : Option ByteArray) : Except LoadError Catalog :=
  match contents with
  | none => .error (.missingFile path)
  | some bytes =>
      match String.fromUTF8? bytes with
      | none => .error (.notUtf8 path)
      | some text => ofJson text

end Catalog

end PlaceholderTyping
