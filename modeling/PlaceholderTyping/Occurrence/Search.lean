import PlaceholderTyping.Occurrence.Place
import PlaceholderTyping.Tree.Descent

/-!
# Finding placeholders

A statement mentions tables and placeholders in the order of its text. From its mentions follow the
tables that it draws on and, for every ordinal, the occurrence at which its placeholder first
appears.
-/

namespace PlaceholderTyping

inductive Mention where
  | table (reference : TableRef)
  | placeholder (placeholder : Placeholder) (context : Context) (owner : Owner)

namespace Node

/-- What a node in a given place mentions itself. A statement mentions its target before anything
else. -/
def ownMentions (place : Place) : Node → List Mention
  | .table reference => [.table reference]
  | .placeholder parameter =>
      [.placeholder parameter (place.context parameter) place.owner]
  | .insert statement => [.table statement.relation]
  | .update statement => [.table statement.relation]
  | .delete statement => [.table statement.relation]
  | _ => []

def mentions (place : Place) (node : Node) : List Mention :=
  node.ownMentions place ++
    (node.placed place).attach.flatMap fun ⟨(childPlace, child), _⟩ => child.mentions childPlace
termination_by node
decreasing_by exact sizeOf_lt_of_mem_children (mem_children_of_mem_placed ‹_ ∈ node.placed place›)

end Node

namespace Mention

def table? : Mention → Option TableRef
  | .table reference => some reference
  | .placeholder .. => none

/-- The occurrences among mentions. `latest` is the table that was mentioned last before them. -/
def occurrences (latest : Option TableRef) : List Mention → List Occurrence
  | [] => []
  | .table reference :: rest => occurrences (some reference) rest
  | .placeholder parameter context owner :: rest =>
      let table :=
        match owner with
        | .fixed owned => owned
        | .latest => latest
      { placeholder := parameter, context, table } :: occurrences latest rest

end Mention

namespace Occurrence

/-- Puts an occurrence in its place among others in ascending order of ordinals, unless its ordinal
has an occurrence already. -/
def insertNew (occurrence : Occurrence) : List Occurrence → List Occurrence
  | [] => [occurrence]
  | first :: rest =>
      if occurrence.placeholder.ordinal < first.placeholder.ordinal then
        occurrence :: first :: rest
      else if occurrence.placeholder.ordinal = first.placeholder.ordinal then
        first :: rest
      else
        first :: insertNew occurrence rest

def firstByOrdinal (occurrences : List Occurrence) : List Occurrence :=
  occurrences.foldl (fun kept occurrence => occurrence.insertNew kept) []

end Occurrence

structure FoundPlaceholders where
  tables : List TableRef
  occurrences : List Occurrence

def Statement.findPlaceholders (statement : Statement) : FoundPlaceholders :=
  let mentions := statement.root.mentions (.under none)
  { tables := mentions.filterMap Mention.table?
    occurrences := Occurrence.firstByOrdinal (Mention.occurrences none mentions) }

end PlaceholderTyping
