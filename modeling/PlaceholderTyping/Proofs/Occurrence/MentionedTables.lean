import PlaceholderTyping.Proofs.Occurrence.FirstAppearance

/-!
# The tables that are found in a statement

The search hands over each table that a node of the statement mentions, in pre-order. So what a
placeholder stands under has its table among them, and the tables of a nested statement stand
together among those of the whole.
-/

namespace PlaceholderTyping

theorem Appearance.filterMap_table?_mentions (appearance : Appearance) :
    appearance.mentions.filterMap Mention.table? = appearance.node.mentionedTable?.toList := by
  rcases appearance with ⟨node, above⟩
  cases node <;> rfl

theorem Statement.tables_findPlaceholders (statement : Statement) :
    statement.findPlaceholders.tables =
      statement.root.descendants.filterMap Node.mentionedTable? := by
  change (statement.root.mentions (.ofSurroundings [])).filterMap Mention.table? = _
  rw [Node.mentions_eq_flatMap_appearances, List.filterMap_flatMap,
    ← Node.map_node_appearances [] statement.root, List.filterMap_map,
    List.filterMap_eq_flatMap_toList (_ ∘ _)]
  simp only [Appearance.filterMap_table?_mentions, Function.comp_apply]

/-- The nodes above a node that appears in a tree belong to the tree, or the tree itself stands
under them. -/
theorem Node.mem_descendants_of_mem_above {node : Node} {above : Surroundings}
    {appearance : Appearance} (appears : appearance ∈ node.appearances above)
    {ancestor : Node × Role} (isAbove : ancestor ∈ appearance.above) :
    ancestor.1 ∈ node.descendants ∨ ancestor ∈ above := by
  induction node using roleInduction generalizing above with
  | step node ofChildren =>
      rw [appearances_eq, List.mem_cons] at appears
      rcases appears with rfl | deeper
      · exact .inr isAbove
      · rcases List.mem_flatMap.mp deeper with ⟨⟨role, child⟩, isChild, inChild⟩
        rw [descendants_eq, List.mem_cons, List.mem_flatMap]
        rcases ofChildren role child isChild inChild with inTree | isFurther
        · exact .inl (.inr ⟨child, mem_children_of_mem_roles isChild, inTree⟩)
        · rcases List.mem_cons.mp isFurther with rfl | isOuter
          · exact .inl (.inl rfl)
          · exact .inr isOuter

theorem Statement.mem_tables_of_mem_above {statement : Statement} {appearance : Appearance}
    (appears : appearance ∈ statement.appearances) {ancestor : Node × Role}
    (isAbove : ancestor ∈ appearance.above) {table : TableRef}
    (mentions : ancestor.1.mentionedTable? = some table) :
    table ∈ statement.findPlaceholders.tables := by
  rw [tables_findPlaceholders]
  rcases Node.mem_descendants_of_mem_above appears isAbove with inTree | outside
  · exact List.mem_filterMap.mpr ⟨ancestor.1, inTree, mentions⟩
  · cases outside

/-! ## Tables of occurrences -/

namespace Surroundings

theorem mentionedTable?_of_insertion? {above : Surroundings} {relation : TableRef}
    {columns : List (Target Node)} (isInsertion : above.insertion? = some (relation, columns)) :
    ∃ ancestor ∈ above, ancestor.1.mentionedTable? = some relation := by
  unfold insertion? at isInsertion
  split at isInsertion
  · cases isInsertion
    exact ⟨_, List.mem_cons_self, rfl⟩
  · cases isInsertion

theorem mentionedTable?_of_insertedColumn? {above : Surroundings} {relation : TableRef}
    {column : Target Node} (isColumn : above.insertedColumn? = some (relation, column)) :
    ∃ ancestor ∈ above, ancestor.1.mentionedTable? = some relation := by
  unfold insertedColumn? at isColumn
  split at isColumn
  · rcases Option.bind_eq_some_iff.mp isColumn with ⟨⟨owner, columns⟩, isInsertion, atPosition⟩
    rcases Option.map_eq_some_iff.mp atPosition with ⟨_, _, same⟩
    cases same
    rcases mentionedTable?_of_insertion? isInsertion with ⟨ancestor, isAbove, mentions⟩
    exact ⟨ancestor, List.mem_cons_of_mem _ isAbove, mentions⟩
  · cases isColumn

theorem mentionedTable?_of_assignedTable? {above : Surroundings} {relation : TableRef}
    (isAssigned : above.assignedTable? = some relation) :
    ∃ ancestor ∈ above, ancestor.1.mentionedTable? = some relation := by
  unfold assignedTable? at isAssigned
  split at isAssigned
  · unfold assignment? at isAssigned
    split at isAssigned
    · cases isAssigned
      exact ⟨_, List.mem_cons_of_mem _ List.mem_cons_self, rfl⟩
    · cases isAssigned
  · cases isAssigned

/-- The table that goes with a placeholder is mentioned by a node above it, or last before it. -/
theorem mentioned_of_table {above : Surroundings} {latest : Option TableRef} {table : TableRef}
    (isTable : above.table latest = some table) :
    (∃ ancestor ∈ above, ancestor.1.mentionedTable? = some table) ∨ latest = some table := by
  unfold Surroundings.table at isTable
  split at isTable
  · cases isTable
  · cases isTable
  · rcases Option.or_eq_some_iff.mp isTable with isInserted | ⟨_, isOther⟩
    · rcases Option.map_eq_some_iff.mp isInserted with ⟨⟨relation, column⟩, isColumn, rfl⟩
      exact .inl (mentionedTable?_of_insertedColumn? isColumn)
    · rcases Option.or_eq_some_iff.mp isOther with isAssigned | ⟨_, isLatest⟩
      · exact .inl (mentionedTable?_of_assignedTable? isAssigned)
      · exact .inr isLatest

end Surroundings

theorem Statement.mem_tables_of_mem_latestTable {statement : Statement}
    {before after : List Appearance} (split : statement.appearances = before ++ after)
    {table : TableRef} (isLatest : Appearance.latestTable before = some table) :
    table ∈ statement.findPlaceholders.tables := by
  rw [tables_findPlaceholders, ← Node.map_node_appearances [], List.filterMap_map,
    ← Statement.appearances, split, List.filterMap_append]
  exact List.mem_append_left _ (List.mem_of_getLast? isLatest)

/-- The table that goes with an occurrence is mentioned in the statement. -/
theorem Statement.mem_tables_of_mem_occurrences {statement : Statement} {occurrence : Occurrence}
    (found : occurrence ∈ statement.findPlaceholders.occurrences) {table : TableRef}
    (isTable : table ∈ occurrence.table) : table ∈ statement.findPlaceholders.tables := by
  rw [occurrences_findPlaceholders] at found
  rcases (Appearance.mem_firstByOrdinal_occurrences_iff _ occurrence).mp found with
    ⟨before, above, isFirst, _, tableIs, _⟩
  rcases isFirst.appears with ⟨after, split⟩
  have appears : ⟨.placeholder occurrence.placeholder, above⟩ ∈ statement.appearances :=
    split ▸ List.mem_append_right _ List.mem_cons_self
  rcases Surroundings.mentioned_of_table (tableIs.symm.trans isTable) with
    ⟨ancestor, isAbove, mentions⟩ | isLatest
  · exact mem_tables_of_mem_above appears isAbove mentions
  · exact mem_tables_of_mem_latestTable split isLatest

/-! ## Tables of nested statements -/

namespace Node

inductive Mentions : Node → TableRef → Prop where
  | table (reference : TableRef) : Mentions (.table reference) reference
  | insert (statement : Insert Node) : Mentions (.insert statement) statement.relation
  | update (statement : Update Node) : Mentions (.update statement) statement.relation
  | delete (statement : Delete Node) : Mentions (.delete statement) statement.relation

theorem mentionedTable?_eq_some_iff {node : Node} {table : TableRef} :
    node.mentionedTable? = some table ↔ node.Mentions table := by
  constructor
  · intro mentioned
    cases node with
    | table | insert | update | delete =>
        cases mentioned
        constructor
    | _ => cases mentioned
  · rintro ⟨⟩ <;> rfl

/-- In pre-order, the nodes of a part of a tree stand together. -/
theorem descendants_isInfix {node part : Node} (member : part ∈ node.descendants) :
    part.descendants <:+: node.descendants := by
  induction node using childInduction with
  | step node ofChildren =>
      rw [descendants_eq node, List.mem_cons, List.mem_flatMap] at member
      rcases member with rfl | ⟨child, isChild, inChild⟩
      · exact List.infix_rfl
      · have childTogether : child.descendants <:+: node.children.flatMap descendants :=
          List.infix_of_mem_flatten (List.mem_map_of_mem isChild)
        rw [descendants_eq node]
        exact (ofChildren child isChild inChild).trans (List.infix_cons childTogether)

end Node

/-- The tables that are found are those that the nodes of the statement mention, one for each node
that mentions one, in pre-order, at whatever depth the node stands; what is found in a part alone
stands together in what is found in the whole. -/
theorem Statement.tables_preOrder (statement : Statement) :
    let tables := statement.findPlaceholders.tables
    let preOrder := statement.root.descendants
    tables = preOrder.filterMap Node.mentionedTable? ∧
      (∀ table, table ∈ tables ↔ ∃ node ∈ preOrder, node.Mentions table) ∧
      ∀ part ∈ preOrder, { statement with root := part }.findPlaceholders.tables <:+: tables := by
  intro tables preOrder
  have tablesAre : tables = preOrder.filterMap Node.mentionedTable? :=
    tables_findPlaceholders statement
  refine ⟨tablesAre, ?mentioned, ?nested⟩
  case mentioned =>
    intro table
    simp only [tablesAre, List.mem_filterMap, Node.mentionedTable?_eq_some_iff]
  case nested =>
    intro part isPart
    rw [tablesAre, tables_findPlaceholders]
    exact (Node.descendants_isInfix isPart).filterMap _

end PlaceholderTyping
