import PlaceholderTyping.Config
import PlaceholderTyping.Occurrence.Basic
import PlaceholderTyping.Scope
import PlaceholderTyping.Tree.Descendants
import PlaceholderTyping.Typing.Error

/-!
# Inferring a type

A placeholder is typed from its immediate context alone: the column that it is compared with, the
argument that it fills, the column that it is assigned to, or the type that it is cast to.
-/

namespace PlaceholderTyping

structure Inference where
  suggestedName : String
  dataType : String
  isNotNull : Bool
  isArray : Bool
  table : Option QualifiedName := none
deriving DecidableEq, Repr

/-- What becomes of a placeholder: no parameter at all, a parameter of unknown type, or a typed
parameter. -/
inductive Outcome where
  | dropped
  | untyped
  | typed (inference : Inference)
deriving DecidableEq, Repr

namespace Inference

/-! ## Columns -/

def ofColumn (suggestedName : String) (table : QualifiedName) (column : Column) : Inference where
  suggestedName := suggestedName
  dataType := column.type.dataType
  isNotNull := column.isNotNull
  isArray := column.isArray
  table := some table

def ofLimit (suggestedName : String) : Inference where
  suggestedName := suggestedName
  dataType := "integer"
  isNotNull := true
  isArray := false

def columnName (reference : ColumnRef Node) : Except TypingError (Option String × String) :=
  match reference.names with
  | [] => .error (.noColumnReference reference.location)
  | [column] => .ok (none, column)
  | [qualifier, column] => .ok (some qualifier, column)
  | components => .error (.tooManyQualifiers components reference.location)

/-- An operand takes the type of the first column on the left. That column has to belong to exactly
one of the tables that come into question; a table that was mentioned twice counts twice. -/
def ofOperation (scope : Scope) (rename : Option String) (operation : Operation Node) :
    Except TypingError Inference := do
  let some reference := operation.left.bind Node.firstColumn?
    | throw (.noColumnReference operation.location)
  let (qualifier, name) ← columnName reference
  let found := (scope.candidates qualifier).filterMap fun table =>
    (scope.column? table name).map fun column => (table, column)
  match found with
  | [] => throw (.columnNotFound name reference.location)
  | [(table, column)] => return .ofColumn (rename.getD name) table column
  | _ => throw (.ambiguousColumn name reference.location)

/-- An assigned value takes the type of the column that it is assigned to, in the table of its
occurrence or else in the one mentioned first. -/
def ofTarget (scope : Scope) (table : Option TableRef) (target : Target Node) :
    Except TypingError Inference := do
  let some name := target.name
    | throw (.missing .targetName target.location)
  let some table := (table.map TableRef.tableName).or scope.defaultTable?
    | throw (.missing (.targetTable name) target.location)
  let some column := scope.column? table name
    | throw (.columnNotFound name target.location)
  return .ofColumn name table column

/-! ## Arguments -/

/-- The label under which an argument is the given placeholder: none when it stands bare, and the
name of the argument, if it has one, when it is given by name. -/
def argumentLabel? (ordinal : Nat) : Node → Option (Option String)
  | .placeholder parameter => if parameter.ordinal = ordinal then some none else none
  | .namedArgument argument =>
      match argument.value with
      | .placeholder parameter =>
          if parameter.ordinal = ordinal then some argument.name else none
      | _ => none
  | _ => none

def argumentSlot? (ordinal : Nat) (arguments : List Node) : Option (Nat × Option String) :=
  arguments.zipIdx.findSome? fun (argument, position) =>
    (argumentLabel? ordinal argument).map fun label => (position, label)

/-- The function that a call means. One that the catalog does not know takes anything, which the
flag tells. -/
def calledFunction (view : CatalogView) (call : Call Node) : Signature × Bool :=
  match view.function call.function call.arguments.length with
  | .ok function => (function, true)
  | .error _ => (.unknown call.function.name call.arguments.length, false)

/-- An argument takes the type that the function declares for its position. A placeholder that is
not an argument itself, but lies somewhere in one, is dropped. The name comes from the occurrence,
the label, the declaration or, at last, the function. -/
def ofCall (view : CatalogView) (ordinal : Nat) (rename : Option String) (call : Call Node) :
    Except TypingError Outcome := do
  let (function, isKnown) := calledFunction view call
  let some (position, label) := argumentSlot? ordinal call.arguments
    | return .dropped
  let some argument := function.arguments[position]?
    | throw (.arityMismatch function.name call.location)
  let declaredName := if argument.name.isEmpty then function.name else argument.name
  return .typed {
    suggestedName := (rename.or label).getD declaredName
    dataType := argument.type.dataType
    isNotNull := isKnown
    isArray := false }

/-! ## Casts -/

def ofCast (rename : Option String) (cast : Cast Node) : Except TypingError Inference := do
  let some type := cast.type
    | throw (.missing .castType cast.location)
  return {
    suggestedName := rename.getD ""
    dataType := type.dataType
    isNotNull := true
    isArray := type.isArray }

end Inference

def Occurrence.outcome (config : Config) (view : CatalogView) (scope : Scope)
    (occurrence : Occurrence) : Except TypingError Outcome :=
  match occurrence.context with
  | .limit => .ok (.typed (.ofLimit "limit"))
  | .offset => .ok (.typed (.ofLimit "offset"))
  | .node (.operation expression) =>
      .typed <$> Inference.ofOperation scope occurrence.rename expression
  | .node (.call expression) =>
      Inference.ofCall view occurrence.placeholder.ordinal occurrence.rename expression
  | .node (.target entry) => .typed <$> Inference.ofTarget scope occurrence.table entry
  | .node (.cast expression) => .typed <$> Inference.ofCast occurrence.rename expression
  | .node (.placeholder _) => .ok .untyped
  | .node parent =>
      match config.untypedContext with
      | .skip => .ok .dropped
      | .reject =>
          let location := parent.location?.getD occurrence.placeholder.location
          .error (.unsupportedContext parent.kind location)

end PlaceholderTyping
