import PlaceholderTyping.Config
import PlaceholderTyping.Tree.Descendants

/-!
# Markers

A marker is a node that stands for a named placeholder. A call marker takes the name as its
argument. A sign marker is an operator before the name; since a cast binds tighter than the sign,
`@name::type` arrives as a sign over a cast, which stays in the statement when the marker goes.
-/

namespace PlaceholderTyping

inductive Marker where
  | call (expression : Call Node)
  | sign (operand : Node) (location : Nat)
  | signOverCast (cast : Cast Node) (location : Nat)

namespace Config

def isMarkerCall (config : Config) (call : Call Node) : Bool :=
  call.function = config.markerFunction

def isMarkerSign (config : Config) (operation : Operation Node) : Bool :=
  operation.left.isNone && operation.right.isSome && operation.operator == config.markerSign

def isMarkerSignOverCast (config : Config) (operation : Operation Node) : Bool :=
  config.isMarkerSign operation && operation.right.any (·.kind = .cast)

def marker? (config : Config) : Node → Option Marker
  | .call expression =>
      if config.isMarkerCall expression then some (.call expression) else none
  | .operation expression =>
      if config.isMarkerSign expression then
        expression.right.map fun
          | .cast cast => .signOverCast cast expression.location
          | operand => .sign operand expression.location
      else
        none
  | _ => none

def isMarker (config : Config) (node : Node) : Bool :=
  (config.marker? node).isSome

def containsMarker (config : Config) (node : Node) : Bool :=
  node.descendants.any config.isMarker

end Config

namespace Marker

def nameNodes : Marker → List Node
  | .call expression => expression.arguments
  | .sign operand _ => [operand]
  | .signOverCast cast _ => [cast.operand]

def name (marker : Marker) : String :=
  spelledName marker.nameNodes

def location : Marker → Nat
  | .call expression => expression.location
  | .sign _ location => location
  | .signOverCast _ location => location

def spelling (config : Config) (marker : Marker) : String :=
  match marker with
  | .call expression =>
      let function := config.markerFunction.text
      if isQuotedName expression.arguments then
        function ++ "('" ++ marker.name ++ "')"
      else
        function ++ "(" ++ marker.name ++ ")"
  | .sign .. | .signOverCast .. => config.markerSign ++ marker.name

/-- What takes the marker's place when its name has the given ordinal: a positional placeholder,
inside the cast if there is one. -/
def replacement (marker : Marker) (ordinal : Nat) : Node :=
  let placeholder := .placeholder { ordinal, location := marker.location }
  match marker with
  | .signOverCast cast _ => .cast { cast with operand := placeholder }
  | .call _ | .sign .. => placeholder

end Marker

end PlaceholderTyping
