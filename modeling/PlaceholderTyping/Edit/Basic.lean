/-!
# Edits

A textual substitution in a statement, and the ways in which it may fail to apply.
-/

namespace PlaceholderTyping

/-- The replacement of one text by another. The location is a byte offset from the start of the
statement. -/
structure Edit where
  location : Nat
  old : String
  new : String
deriving DecidableEq, Repr

inductive EditError where
  | outOfBounds (edit : Edit)
  | emptyOld (edit : Edit)
  | emptyNew (edit : Edit)
  | mismatch (edit : Edit) (found : String)
  | overlap (lower upper : Edit)
deriving DecidableEq, Repr

namespace EditError

def message : EditError → String
  | .outOfBounds edit => s!"edit at {edit.location} is out of bounds"
  | .emptyOld edit => s!"edit at {edit.location} has nothing to replace"
  | .emptyNew edit => s!"edit at {edit.location} has empty contents"
  | .mismatch edit found =>
      s!"edit at {edit.location} expected '{edit.old}' but found '{found}'"
  | .overlap lower upper => s!"edits at {lower.location} and {upper.location} overlap"

def edits : EditError → List Edit
  | .outOfBounds edit | .emptyOld edit | .emptyNew edit | .mismatch edit _ => [edit]
  | .overlap lower upper => [lower, upper]

def found? : EditError → Option String
  | .mismatch _ found => some found
  | _ => none

end EditError

end PlaceholderTyping
