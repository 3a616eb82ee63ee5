import PlaceholderTyping.Normalization
import PlaceholderTyping.Occurrence.Search
import PlaceholderTyping.Parameter
import PlaceholderTyping.Typing.Inference

/-!
# Resolution

The parameters of a statement. Each occurrence is typed on its own, in order, and the first failure
is the failure of the statement. Names that the statement gave to its placeholders take precedence
over inferred ones.
-/

namespace PlaceholderTyping

def Outcome.parameter? (names : PlaceholderNames) (ordinal : Nat) : Outcome → Option Parameter
  | .dropped => none
  | .untyped => some { ordinal, type := none }
  | .typed inference =>
      some {
        ordinal
        type := some {
          name := (names.get? ordinal).getD inference.suggestedName
          dataType := inference.dataType
          isNotNull := inference.isNotNull
          isArray := inference.isArray
          table := inference.table } }

def resolve (config : Config) (view : CatalogView) (tables : List TableRef)
    (occurrences : List Occurrence) (names : PlaceholderNames) :
    Except TypingError (List Parameter) := do
  let scope := Scope.ofTables view tables
  let parameters ← occurrences.mapM fun occurrence => do
    let outcome ← occurrence.outcome config view scope
    return outcome.parameter? names occurrence.placeholder.ordinal
  return parameters.filterMap id

def NormalizedStatement.parameters (config : Config) (view : CatalogView)
    (normalized : NormalizedStatement) : Except TypingError (List Parameter) :=
  let found := normalized.statement.findPlaceholders
  resolve config view found.tables found.occurrences normalized.names

end PlaceholderTyping
