import PlaceholderTyping.Edit.Basic
import PlaceholderTyping.Marker
import PlaceholderTyping.OrderedMap

/-!
# Normalization

Named placeholders become positional ones. Names are numbered from 1 in the order in which they
first appear, and every appearance of a name gets its number. Each replacement is recorded as an
edit of the statement's text.
-/

namespace PlaceholderTyping

abbrev PlaceholderNames := OrderedMap Nat String

structure NamingState where
  names : List String := []
  edits : List Edit := []

namespace NamingState

def ordinal (state : NamingState) (name : String) : Nat :=
  state.names.idxOf name + 1

def addName (state : NamingState) (name : String) : NamingState :=
  if name ∈ state.names then state else { state with names := state.names ++ [name] }

def namesByOrdinal (state : NamingState) : PlaceholderNames :=
  .ofList (state.names.zipIdx.map fun (name, index) => (index + 1, name))

end NamingState

namespace Marker

/-- The edit that puts a positional placeholder in the place of the marker's text. Its location
counts from the start of the statement. -/
def edit (config : Config) (statementLocation ordinal : Nat) (marker : Marker) : Edit where
  location := marker.location - statementLocation
  old := marker.spelling config
  new := s!"${ordinal}"

def replace (config : Config) (statementLocation : Nat) (marker : Marker) :
    StateM NamingState Node := do
  let ordinal := (← get).ordinal marker.name
  modify fun state =>
    { state.addName marker.name with
      edits := state.edits ++ [marker.edit config statementLocation ordinal] }
  return marker.replacement ordinal

end Marker

/-- Replaces the markers of a tree, from left to right. What stands below a marker goes with it. -/
def Node.replaceMarkers (config : Config) (statementLocation : Nat) (node : Node) :
    StateM NamingState Node :=
  match config.marker? node with
  | some marker => marker.replace config statementLocation
  | none =>
      node.withChildren <$> node.children.attach.mapM fun ⟨child, _⟩ =>
        child.replaceMarkers config statementLocation
termination_by node
decreasing_by exact Node.sizeOf_lt_of_mem_children ‹child ∈ node.children›

structure NormalizedStatement where
  statement : Statement
  names : PlaceholderNames
  edits : List Edit

/-- Normalizes a statement. One without markers is returned as it is. -/
def Statement.normalize (config : Config) (statement : Statement) : NormalizedStatement :=
  if config.containsMarker statement.root then
    let (root, state) := (statement.root.replaceMarkers config statement.location).run {}
    { statement := { statement with root }, names := state.namesByOrdinal, edits := state.edits }
  else
    { statement, names := ∅, edits := [] }

end PlaceholderTyping
