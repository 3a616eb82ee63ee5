import PlaceholderTyping.QualifiedName

/-!
# Configuration

The spellings that mark a named placeholder, and what becomes of a placeholder that stands where
nothing tells its type.
-/

namespace PlaceholderTyping

/-- What typing does with a placeholder in a context that tells nothing of its type: leave it out,
or fail. -/
inductive UntypedContext where
  | skip
  | reject
deriving DecidableEq, Repr

/-- The settings of a run. A named placeholder is written as a call of `markerFunction`, as in
`sqlc.arg(name)`, or with `markerSign` before it, as in `@name`. -/
structure Config where
  markerFunction : QualifiedName := { schema := some "sqlc", name := "arg" }
  markerSign : String := "@"
  untypedContext : UntypedContext := .skip
deriving DecidableEq, Repr

instance : Inhabited Config where
  default := {}

end PlaceholderTyping
