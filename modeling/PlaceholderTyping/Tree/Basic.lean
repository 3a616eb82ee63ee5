import PlaceholderTyping.Decimal.Binary64
import PlaceholderTyping.QualifiedName
import PlaceholderTyping.TypeName

/-!
# Statement trees

The parse tree of a statement, as far as placeholders and their surroundings are concerned.
Whatever else a parser produces is expected to be folded into lists. Locations are byte offsets into
the file that holds the statement.

The shapes that carry several parts are structures of their own, over the type of their parts.
-/

namespace PlaceholderTyping

/-! ## Leaves -/

structure FloatLiteral where
  bits : UInt64
  isNumber : Binary64.isNan bits = false
deriving DecidableEq

structure NanLiteral where
deriving DecidableEq, Repr

def NanLiteral.message (_ : NanLiteral) : String :=
  "NotNan constructed with NaN"

def FloatLiteral.ofBits (bits : UInt64) : Except NanLiteral FloatLiteral :=
  if isNumber : Binary64.isNan bits = false then .ok { bits, isNumber } else .error {}

/-- Literals of equal value. The two zeros are equal. -/
def FloatLiteral.same (left right : FloatLiteral) : Bool :=
  left.bits == right.bits || (Binary64.isZero left.bits && Binary64.isZero right.bits)

structure TableRef where
  schema : Option String := none
  relation : String
  aliasName : Option String := none
  location : Nat
deriving DecidableEq, Repr

def TableRef.tableName (table : TableRef) : QualifiedName :=
  { schema := table.schema, name := table.relation }

structure Placeholder where
  ordinal : Nat
  location : Nat
deriving DecidableEq, Repr

inductive Connective where
  | and
  | or
  | not
deriving DecidableEq, Repr

/-! ## Expressions -/

/-- A reference to a column, qualified or not. Fields that are no text, such as the star, are not
part of its name. -/
structure ColumnRef (Node : Type) where
  fields : List Node
  location : Nat

/-- An operator between or before its operands. The parts of a qualified operator name stand apart.
An operator before its operand has no left side. -/
structure Operation (Node : Type) where
  name : List String
  left : Option Node
  right : Option Node
  location : Nat

def Operation.operator {Node : Type} (operation : Operation Node) : String :=
  ".".intercalate operation.name

structure Condition (Node : Type) where
  connective : Connective
  operands : List Node
  location : Nat

structure Call (Node : Type) where
  function : QualifiedName
  arguments : List Node
  location : Nat

structure NamedArgument (Node : Type) where
  name : Option String
  value : Node
  location : Nat

structure Cast (Node : Type) where
  operand : Node
  type : Option TypeName
  location : Nat

/-- An entry of a target list: an expression to be selected, a column to be inserted into, or the
assignment of a value to a column. -/
structure Target (Node : Type) where
  name : Option String
  value : Option Node
  location : Nat

/-! ## Statements -/

structure Select (Node : Type) where
  targets : List Node
  sources : List Node
  filter : Option Node
  rows : List (List Node)
  limit : Option Node
  offset : Option Node

/-- An `INSERT`. The columns belong to the statement itself, not to the expressions in it. -/
structure Insert (Node : Type) where
  relation : TableRef
  columns : List (Target Node)
  source : Option Node
  returning : List Node

structure Update (Node : Type) where
  relation : TableRef
  assignments : List Node
  sources : List Node
  filter : Option Node
  returning : List Node

structure Delete (Node : Type) where
  relation : TableRef
  filter : Option Node
  returning : List Node

/-! ## Nodes -/

/-- A node of a statement tree. A text is a bare fragment, such as the name in a column reference or
the content of a string constant. -/
inductive Node where
  | list (items : List Node)
  | text (value : String)
  | integer (value : Int)
  | float (value : FloatLiteral)
  | null
  | constant (value : Node) (location : Nat)
  | table (reference : TableRef)
  | column (reference : ColumnRef Node)
  | operation (expression : Operation Node)
  | condition (expression : Condition Node)
  | call (expression : Call Node)
  | namedArgument (argument : NamedArgument Node)
  | cast (expression : Cast Node)
  | target (entry : Target Node)
  | placeholder (parameter : Placeholder)
  | select (statement : Select Node)
  | insert (statement : Insert Node)
  | update (statement : Update Node)
  | delete (statement : Delete Node)

namespace Node

instance : Inhabited Node where
  default := .null

inductive Kind where
  | list
  | text
  | integer
  | float
  | null
  | constant
  | table
  | column
  | operation
  | condition
  | call
  | namedArgument
  | cast
  | target
  | placeholder
  | select
  | insert
  | update
  | delete
deriving DecidableEq, Repr

def Kind.tag : Kind → String
  | .list => "List"
  | .text => "String"
  | .integer => "Integer"
  | .float => "Float"
  | .null => "Null"
  | .constant => "AConst"
  | .table => "RangeVar"
  | .column => "ColumnRef"
  | .operation => "AExpr"
  | .condition => "BoolExpr"
  | .call => "FuncCall"
  | .namedArgument => "NamedArgExpr"
  | .cast => "TypeCast"
  | .target => "ResTarget"
  | .placeholder => "ParamRef"
  | .select => "SelectStmt"
  | .insert => "InsertStmt"
  | .update => "UpdateStmt"
  | .delete => "DeleteStmt"

def kind : Node → Kind
  | .list _ => .list
  | .text _ => .text
  | .integer _ => .integer
  | .float _ => .float
  | .null => .null
  | .constant .. => .constant
  | .table _ => .table
  | .column _ => .column
  | .operation _ => .operation
  | .condition _ => .condition
  | .call _ => .call
  | .namedArgument _ => .namedArgument
  | .cast _ => .cast
  | .target _ => .target
  | .placeholder _ => .placeholder
  | .select _ => .select
  | .insert _ => .insert
  | .update _ => .update
  | .delete _ => .delete

def location? : Node → Option Nat
  | .constant _ location => some location
  | .table reference => some reference.location
  | .column reference => some reference.location
  | .operation expression => some expression.location
  | .condition expression => some expression.location
  | .call expression => some expression.location
  | .namedArgument argument => some argument.location
  | .cast expression => some expression.location
  | .target entry => some entry.location
  | .placeholder parameter => some parameter.location
  | .list _ | .text _ | .integer _ | .float _ | .null | .select _ | .insert _ | .update _
  | .delete _ => none

def text? : Node → Option String
  | .text value => some value
  | _ => none

end Node

def ColumnRef.names (reference : ColumnRef Node) : List String :=
  reference.fields.filterMap Node.text?

structure Statement where
  root : Node
  location : Nat
  length : Nat

end PlaceholderTyping
