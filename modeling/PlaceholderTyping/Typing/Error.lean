import PlaceholderTyping.Tree.Basic

/-!
# Why a placeholder has no type

Locations are those of the nodes at fault, in the file.
-/

namespace PlaceholderTyping

inductive MissingInformation where
  | castType
  | targetName
  | targetTable (column : String)
deriving DecidableEq, Repr

namespace MissingInformation

def kind : MissingInformation → Node.Kind
  | .castType => .cast
  | .targetName | .targetTable _ => .target

def detail : MissingInformation → String
  | .castType => "has no type name"
  | .targetName => "has no column name"
  | .targetTable column => s!"\"{column}\" has no table to resolve against"

end MissingInformation

inductive TypingError where
  /-- There is no column on the left to compare with. -/
  | noColumnReference (location : Nat)
  | columnNotFound (column : String) (location : Nat)
  | ambiguousColumn (column : String) (location : Nat)
  /-- The column reference has more components than a qualifier and a name. -/
  | tooManyQualifiers (components : List String) (location : Nat)
  /-- The placeholder stands behind the last argument that the function has. -/
  | arityMismatch (function : String) (location : Nat)
  | missing (information : MissingInformation) (location : Nat)
  /-- The context tells no type, and the configuration rejects such contexts. -/
  | unsupportedContext (kind : Node.Kind) (location : Nat)
deriving DecidableEq, Repr

namespace TypingError

def location : TypingError → Nat
  | .noColumnReference location | .columnNotFound _ location | .ambiguousColumn _ location
  | .tooManyQualifiers _ location | .arityMismatch _ location | .missing _ location
  | .unsupportedContext _ location => location

def message : TypingError → String
  | .noColumnReference _ => "no column reference found"
  | .columnNotFound column _ => s!"column \"{column}\" does not exist"
  | .ambiguousColumn column _ => s!"column reference \"{column}\" is ambiguous"
  | .tooManyQualifiers components _ =>
      "improper qualified name (too many dotted names): " ++ ".".intercalate components
  | .arityMismatch function _ => s!"incorrect number of arguments to {function}"
  | .missing information _ => s!"{information.kind.tag} {information.detail}"
  | .unsupportedContext kind _ => s!"unsupported reference type: {kind.tag}"

def sqlState : TypingError → String
  | .columnNotFound .. | .ambiguousColumn .. => "42703"
  | .arityMismatch .. => "42883"
  | .tooManyQualifiers .. => "42601"
  | .noColumnReference _ | .missing .. | .unsupportedContext .. => "XXXXX"

end TypingError

end PlaceholderTyping
