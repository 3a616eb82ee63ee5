import PlaceholderTyping.Proofs.Occurrence.FirstAppearance
import PlaceholderTyping.Proofs.Tree.Relabeling

/-!
# Placeholders of relabeled statements

The search through a statement goes by the kinds of nodes and by ordinals, which a relabeling does
not touch. So what is found in a relabeled statement is what is found in the given one, relabeled.
-/

namespace PlaceholderTyping

variable (change : Relabeling)

/-! ## Places -/

def Context.relabel : Context → Context
  | .limit => .limit
  | .offset => .offset
  | .node parent => .node (parent.relabel change)

def Owner.relabel : Owner → Owner
  | .fixed table => .fixed (table.map (TableRef.relabel change))
  | .latest => .latest

namespace Place

def relabel : Place → Place
  | .under parent => .under (parent.map (Node.relabel change))
  | .limit => .limit
  | .offset => .offset
  | .insertSource relation columns =>
      .insertSource (relation.relabel change) (columns.map (Target.relabel change))
  | .columnValue relation column =>
      .columnValue (relation.relabel change) (column.relabel change)
  | .assignment relation => .assignment (relation.relabel change)
  | .assignedValue relation entry =>
      .assignedValue (relation.relabel change) (entry.relabel change)

theorem parent_relabel (place : Place) :
    (place.relabel change).parent = place.parent.map (Node.relabel change) := by
  cases place <;> rfl

theorem owner_relabel (place : Place) :
    (place.relabel change).owner = place.owner.relabel change := by
  cases place <;> rfl

theorem context_relabel (parameter : Placeholder) (place : Place) :
    (place.relabel change).context (parameter.relabel change) =
      (place.context parameter).relabel change := by
  cases place with
  | under parent => cases parent <;> rfl
  | _ => rfl

end Place

/-! ## Places of children -/

def Place.relabelPlaced (entry : Place × Node) : Place × Node :=
  (entry.1.relabel change, entry.2.relabel change)

theorem map_place_relabel (place : Place) (nodes : List Node) :
    (nodes.map (Node.relabel change)).map (place.relabel change, ·) =
      (nodes.map (place, ·)).map (Place.relabelPlaced change) := by
  rw [List.map_map, List.map_map]
  rfl

theorem placeRow_relabel (relation : TableRef) (columns : List (Target Node)) (row : List Node) :
    placeRow (relation.relabel change) (columns.map (Target.relabel change))
        (row.map (Node.relabel change)) =
      (placeRow relation columns row).map (Place.relabelPlaced change) := by
  induction row generalizing columns with
  | nil => simp [placeRow]
  | cons value values induction =>
      cases columns with
      | nil => exact map_place_relabel change (.under none) (value :: values)
      | cons column columns => simp [placeRow, induction, Place.relabelPlaced, Place.relabel]

theorem Select.placed_relabel (place : Place) (select : Select Node) :
    (select.relabel change).placed (place.relabel change) =
      (select.placed place).map (Place.relabelPlaced change) := by
  have free := map_place_relabel change (.under none)
  have limit := map_place_relabel change .limit
  have offset := map_place_relabel change .offset
  simp only [Place.relabel, Option.map_none] at free limit offset
  cases place with
  | insertSource relation columns =>
      simp only [placed, Select.relabel_eq, Place.relabel, List.map_append, Option.toList_map,
        List.flatMap_map, List.map_flatMap, placeRow_relabel, free, limit, offset]
  | _ =>
      simp only [placed, Select.relabel_eq, Place.relabel, List.map_append, Option.toList_map,
        ← List.map_flatten, free, limit, offset]

theorem Node.map_place_children_relabel (place : Place) (node : Node) :
    (node.relabel change).children.map (place.relabel change, ·) =
      (node.children.map (place, ·)).map (Place.relabelPlaced change) := by
  rw [children_relabel]
  exact map_place_relabel change place node.children

theorem Node.placed_relabel (place : Place) (node : Node) :
    (node.relabel change).placed (place.relabel change) =
      (node.placed place).map (Place.relabelPlaced change) := by
  have free := map_place_relabel change (.under none)
  have own := map_place_children_relabel change (.under (some node)) node
  cases node with
  | select statement => exact statement.placed_relabel change place
  | operation | call | cast => exact own
  | target entry =>
      cases place with
      | assignment relation =>
          exact map_place_children_relabel change (.assignedValue relation entry) (.target entry)
      | _ => exact own
  | insert statement =>
      have source := map_place_relabel change
        (.insertSource statement.relation statement.columns) statement.source.toList
      simp only [Place.relabel, Option.map_none] at free source
      simp only [relabel, placed, Insert.relabel_eq, List.map_append, Option.toList_map, free,
        source]
  | update statement =>
      have assignments := map_place_relabel change (.assignment statement.relation)
        statement.assignments
      simp only [Place.relabel, Option.map_none] at free assignments
      simp only [relabel, placed, Update.relabel_eq, List.map_append, Option.toList_map, free,
        assignments]
  | delete statement =>
      simp only [Place.relabel, Option.map_none] at free
      simp only [relabel, placed, Delete.relabel_eq, List.map_append, Option.toList_map, free]
  | _ =>
      have passedOn := map_place_children_relabel change (.under place.parent)
      rw [Place.relabel, ← Place.parent_relabel] at passedOn
      exact passedOn _

/-! ## Mentions -/

def Mention.relabel : Mention → Mention
  | .table reference => .table (reference.relabel change)
  | .placeholder parameter context owner =>
      .placeholder (parameter.relabel change) (context.relabel change) (owner.relabel change)

theorem Node.ownMentions_relabel (place : Place) (node : Node) :
    (node.relabel change).ownMentions (place.relabel change) =
      (node.ownMentions place).map (Mention.relabel change) := by
  cases node with
  | placeholder parameter =>
      simp only [relabel, ownMentions, Place.context_relabel, Place.owner_relabel]
      rfl
  | insert statement => simp only [relabel, ownMentions, Insert.relabel_eq]; rfl
  | update statement => simp only [relabel, ownMentions, Update.relabel_eq]; rfl
  | delete statement => simp only [relabel, ownMentions, Delete.relabel_eq]; rfl
  | _ => rfl

theorem Node.mentions_relabel (place : Place) (node : Node) :
    (node.relabel change).mentions (place.relabel change) =
      (node.mentions place).map (Mention.relabel change) := by
  induction node using childInduction generalizing place with
  | step node ofChildren =>
      rw [mentions_eq, mentions_eq, ownMentions_relabel, placed_relabel, List.map_append,
        List.map_flatMap, List.flatMap_map]
      apply congrArg ((node.ownMentions place).map (Mention.relabel change) ++ ·)
      apply List.flatMap_congr
      intro (childPlace, child) member
      exact ofChildren child (mem_children_of_mem_placed member) childPlace

/-! ## Occurrences -/

namespace Occurrence

def relabel (occurrence : Occurrence) : Occurrence where
  placeholder := occurrence.placeholder.relabel change
  context := occurrence.context.relabel change
  table := occurrence.table.map (TableRef.relabel change)
  rename := occurrence.rename

theorem insertNew_relabel (occurrence : Occurrence) (kept : List Occurrence) :
    (occurrence.relabel change).insertNew (kept.map (relabel change)) =
      (occurrence.insertNew kept).map (relabel change) := by
  induction kept with
  | nil => rfl
  | cons first rest induction =>
      -- The ordinals that are compared stay as they are.
      rw [List.map_cons, insertNew, insertNew, induction, apply_ite (List.map (relabel change)),
        apply_ite (List.map (relabel change))]
      rfl

theorem firstByOrdinal_relabel (occurrences : List Occurrence) :
    firstByOrdinal (occurrences.map (relabel change)) =
      (firstByOrdinal occurrences).map (relabel change) := by
  induction occurrences using List.reverseRecOn with
  | nil => rfl
  | append_singleton occurrences last induction =>
      rw [List.map_append, List.map_singleton, firstByOrdinal_concat, firstByOrdinal_concat,
        induction, insertNew_relabel]

end Occurrence

theorem Mention.occurrences_relabel (latest : Option TableRef) (mentions : List Mention) :
    occurrences (latest.map (TableRef.relabel change)) (mentions.map (relabel change)) =
      (occurrences latest mentions).map (Occurrence.relabel change) := by
  induction mentions generalizing latest with
  | nil => rfl
  | cons first rest induction =>
      cases first with
      | table reference => exact induction (some reference)
      | placeholder parameter context owner =>
          simp only [List.map_cons, relabel, occurrences, induction]
          cases owner <;> rfl

def FoundPlaceholders.relabel (found : FoundPlaceholders) : FoundPlaceholders where
  tables := found.tables.map (TableRef.relabel change)
  occurrences := found.occurrences.map (Occurrence.relabel change)

/-- It does not matter whether a statement is relabeled before or after the search. -/
theorem Statement.findPlaceholders_relabel (statement : Statement) :
    (statement.relabel change).findPlaceholders = statement.findPlaceholders.relabel change := by
  have mentioned := statement.root.mentions_relabel change (.under none)
  have occurrences := Mention.occurrences_relabel change none
    (statement.root.mentions (.under none))
  rw [Place.relabel, Option.map_none] at mentioned
  rw [Option.map_none] at occurrences
  rw [findPlaceholders, findPlaceholders, FoundPlaceholders.relabel, relabel, mentioned,
    occurrences, Occurrence.firstByOrdinal_relabel, List.filterMap_map, List.map_filterMap]
  apply congrArg (FoundPlaceholders.mk · _)
  apply List.filterMap_congr
  intro mention _
  cases mention <;> rfl

end PlaceholderTyping
