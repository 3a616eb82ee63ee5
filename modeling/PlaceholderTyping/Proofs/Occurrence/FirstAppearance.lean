import PlaceholderTyping.Proofs.Occurrence.FirstByOrdinal
import PlaceholderTyping.Proofs.Occurrence.Surroundings

/-!
# Occurrences and appearances

The mentions of a tree are those of its appearances, in their order. So the occurrences of a
statement come, one for one, from the appearances of placeholders in it, and what is found of an
ordinal is its first appearance.
-/

namespace PlaceholderTyping

/-! ## Mentions of appearances -/

namespace Node

def placeholder? : Node → Option Placeholder
  | .placeholder parameter => some parameter
  | _ => none

def mentionedTable? : Node → Option TableRef
  | .table reference => some reference
  | .insert statement => some statement.relation
  | .update statement => some statement.relation
  | .delete statement => some statement.relation
  | _ => none

def placeholders (node : Node) : List Placeholder :=
  node.descendants.filterMap placeholder?

theorem mentions_eq (place : Place) (node : Node) :
    node.mentions place =
      node.ownMentions place ++
        (node.placed place).flatMap fun (childPlace, child) => child.mentions childPlace := by
  rw [mentions, List.flatMap_subtype (fun _ _ => rfl), List.unattach_attach]

end Node

def Appearance.mentions (appearance : Appearance) : List Mention :=
  appearance.node.ownMentions (.ofSurroundings appearance.above)

theorem Node.mentions_eq_flatMap_appearances (above : Surroundings) (node : Node) :
    node.mentions (.ofSurroundings above) =
      (node.appearances above).flatMap Appearance.mentions := by
  induction node using roleInduction generalizing above with
  | step node ofChildren =>
      rw [mentions_eq, appearances_eq, placed_eq_map_roles, List.flatMap_map, List.flatMap_cons,
        List.flatMap_assoc]
      congr 1
      apply List.flatMap_congr
      intro (role, child) member
      exact ofChildren role child member ((node, role) :: above)

/-! ## Occurrences of appearances -/

namespace Appearance

def latestTable (before : List Appearance) : Option TableRef :=
  (before.filterMap (·.node.mentionedTable?)).getLast?

theorem latestTable_cons (first : Appearance) (rest : List Appearance) :
    latestTable (first :: rest) = (latestTable rest).or first.node.mentionedTable? := by
  unfold latestTable
  cases mentioned : first.node.mentionedTable? with
  | none => simp [mentioned]
  | some table => simp [mentioned, List.getLast?_cons]

def occurrence? (latest : Option TableRef) (appearance : Appearance) : Option Occurrence :=
  appearance.node.placeholder?.map fun parameter =>
    { placeholder := parameter
      context := appearance.above.context parameter
      table := appearance.above.table latest }

theorem occurrence?_eq_some_iff (latest : Option TableRef) (appearance : Appearance)
    (occurrence : Occurrence) :
    appearance.occurrence? latest = some occurrence ↔
      appearance.node = .placeholder occurrence.placeholder ∧
        occurrence.context = appearance.above.context occurrence.placeholder ∧
        occurrence.table = appearance.above.table latest ∧ occurrence.rename = none := by
  rcases appearance with ⟨node, above⟩
  rcases occurrence with ⟨parameter, context, table, rename⟩
  cases node with
  | placeholder other =>
      simp only [occurrence?, Node.placeholder?, Option.map_some, Option.some.injEq,
        Occurrence.mk.injEq, Node.placeholder.injEq]
      constructor
      · rintro ⟨rfl, rfl, rfl, rfl⟩
        exact ⟨rfl, rfl, rfl, rfl⟩
      · rintro ⟨rfl, rfl, rfl, rfl⟩
        exact ⟨rfl, rfl, rfl, rfl⟩
  | _ => simp [occurrence?, Node.placeholder?]

theorem occurrences_mentions_append (latest : Option TableRef) (appearance : Appearance)
    (rest : List Mention) :
    Mention.occurrences latest (appearance.mentions ++ rest) =
      (appearance.occurrence? latest).toList ++
        Mention.occurrences (appearance.node.mentionedTable?.or latest) rest := by
  rcases appearance with ⟨node, above⟩
  cases node with
  | placeholder parameter =>
      have contextIs := Place.context_ofSurroundings parameter above
      have tableIs := Place.table_owner_ofSurroundings latest above
      simp only [occurrence?, Node.placeholder?, Option.map_some, ← contextIs, ← tableIs]
      rfl
  | _ => rfl

theorem placeholders_occurrences (latest : Option TableRef) (appearances : List Appearance) :
    (Mention.occurrences latest (appearances.flatMap mentions)).map (·.placeholder) =
      appearances.filterMap (·.node.placeholder?) := by
  induction appearances generalizing latest with
  | nil => rfl
  | cons first rest induction =>
      rw [List.flatMap_cons, occurrences_mentions_append, List.map_append, induction]
      cases isPlaceholder : first.node.placeholder? <;> simp [occurrence?, isPlaceholder]

def hasOrdinal (number : Nat) (appearance : Appearance) : Bool :=
  appearance.node.placeholder?.any (·.ordinal = number)

theorem find?_occurrence? (latest : Option TableRef) (appearance : Appearance) (number : Nat) :
    (appearance.occurrence? latest).toList.find? (·.ordinal = number) =
      if appearance.hasOrdinal number then appearance.occurrence? latest else none := by
  unfold occurrence? hasOrdinal
  cases appearance.node.placeholder? with
  | none => rfl
  | some parameter =>
      by_cases same : parameter.ordinal = number <;> simp [Occurrence.ordinal, same]

theorem isSome_occurrence?_of_hasOrdinal {appearance : Appearance} {number : Nat}
    (found : appearance.hasOrdinal number = true) (latest : Option TableRef) :
    (appearance.occurrence? latest).isSome = true := by
  unfold hasOrdinal at found
  rcases (Option.any_eq_true _ _).mp found with ⟨parameter, isPlaceholder, _⟩
  rw [occurrence?, isPlaceholder]
  rfl

theorem find?_occurrences (latest : Option TableRef) (appearances : List Appearance)
    (number : Nat) :
    (Mention.occurrences latest (appearances.flatMap mentions)).find? (·.ordinal = number) =
      (appearances.find? (·.hasOrdinal number)).bind
        (occurrence? ((latestTable (appearances.takeWhile (!·.hasOrdinal number))).or latest)) := by
  induction appearances generalizing latest with
  | nil => rfl
  | cons first rest induction =>
      rw [List.flatMap_cons, occurrences_mentions_append, List.find?_append, find?_occurrence?]
      cases found : first.hasOrdinal number with
      | true =>
          rw [List.find?_cons_of_pos found, List.takeWhile_cons_of_neg (by simp [found])]
          exact Option.or_of_isSome (isSome_occurrence?_of_hasOrdinal found latest)
      | false =>
          -- A table mentioned here takes the place of `latest` for the rest.
          rw [List.find?_cons_of_neg (by simp [found]),
            List.takeWhile_cons_of_pos (by simp [found]), latestTable_cons, Option.or_assoc]
          exact induction _

end Appearance

/-! ## First appearances -/

namespace Appearance

theorem hasOrdinal_eq_false_iff (appearance : Appearance) (number : Nat) :
    appearance.hasOrdinal number = false ↔
      ∀ other, appearance.node = .placeholder other → other.ordinal ≠ number := by
  rcases appearance with ⟨node, above⟩
  cases node with
  | placeholder parameter => simp [hasOrdinal, Node.placeholder?]
  | _ => simp [hasOrdinal, Node.placeholder?]

/-- Among the given appearances, one of the placeholder in the given surroundings comes first of
those that have its ordinal, with `before` ahead of it. -/
structure IsFirst (appearances before : List Appearance) (parameter : Placeholder)
    (above : Surroundings) : Prop where
  appears : ∃ after, appearances = before ++ ⟨.placeholder parameter, above⟩ :: after
  isFirst : ∀ earlier ∈ before, ∀ other, earlier.node = .placeholder other →
    other.ordinal ≠ parameter.ordinal

theorem isFirst_iff (appearances before : List Appearance) (parameter : Placeholder)
    (above : Surroundings) :
    IsFirst appearances before parameter above ↔
      appearances.find? (·.hasOrdinal parameter.ordinal) = some ⟨.placeholder parameter, above⟩ ∧
        appearances.takeWhile (!·.hasOrdinal parameter.ordinal) = before := by
  have hasOwn : hasOrdinal parameter.ordinal ⟨.placeholder parameter, above⟩ = true := by
    simp [hasOrdinal, Node.placeholder?]
  have takeWhile_split (start after : List Appearance)
      (others : ∀ earlier ∈ start, (!earlier.hasOrdinal parameter.ordinal) = true) :
      (start ++ ⟨.placeholder parameter, above⟩ :: after).takeWhile
        (!·.hasOrdinal parameter.ordinal) = start := by
    rw [List.takeWhile_append_of_pos others, List.takeWhile_cons_of_neg (by simp [hasOwn]),
      List.append_nil]
  constructor
  · rintro ⟨⟨after, rfl⟩, isFirst⟩
    have others : ∀ earlier ∈ before, (!earlier.hasOrdinal parameter.ordinal) = true := by
      intro earlier member
      rw [(hasOrdinal_eq_false_iff earlier parameter.ordinal).mpr (isFirst earlier member)]
      rfl
    refine ⟨List.find?_eq_some_iff_append.mpr ⟨hasOwn, before, after, rfl, others⟩, ?_⟩
    exact takeWhile_split before after others
  · rintro ⟨found, rfl⟩
    rcases List.find?_eq_some_iff_append.mp found with ⟨_, start, after, rfl, others⟩
    rw [takeWhile_split start after others]
    refine ⟨⟨after, rfl⟩, ?_⟩
    intro earlier member
    apply (hasOrdinal_eq_false_iff earlier parameter.ordinal).mp
    simpa using others earlier member

theorem IsFirst.unique {appearances before otherBefore : List Appearance}
    {parameter other : Placeholder} {above otherAbove : Surroundings}
    (first : IsFirst appearances before parameter above)
    (otherFirst : IsFirst appearances otherBefore other otherAbove)
    (same : parameter.ordinal = other.ordinal) : parameter = other ∧ above = otherAbove := by
  have found := ((isFirst_iff _ _ _ _).mp first).1
  rw [same, ((isFirst_iff _ _ _ _).mp otherFirst).1] at found
  cases found
  exact ⟨rfl, rfl⟩

theorem exists_isFirst_iff (appearances : List Appearance) (number : Nat) :
    (∃ before parameter above, IsFirst appearances before parameter above ∧
        parameter.ordinal = number) ↔
      number ∈ (appearances.filterMap (·.node.placeholder?)).map (·.ordinal) := by
  constructor
  · rintro ⟨before, parameter, above, ⟨⟨after, rfl⟩, _⟩, rfl⟩
    apply List.mem_map_of_mem
    rw [List.filterMap_append]
    exact List.mem_append_right _ List.mem_cons_self
  · intro member
    rcases List.mem_map.mp member with ⟨parameter, isAmong, rfl⟩
    rcases List.mem_filterMap.mp isAmong with ⟨appearance, appears, isPlaceholder⟩
    have hasOwn : appearance.hasOrdinal parameter.ordinal = true := by
      simp [hasOrdinal, isPlaceholder]
    have found : (appearances.find? (·.hasOrdinal parameter.ordinal)).isSome = true :=
      List.find?_isSome.mpr ⟨appearance, appears, hasOwn⟩
    rcases Option.isSome_iff_exists.mp found with ⟨⟨node, above⟩, found⟩
    have hasOrdinal := List.find?_some found
    rcases (Option.any_eq_true _ _).mp hasOrdinal with ⟨first, nodeIs, same⟩
    cases node with
    | placeholder =>
        cases nodeIs
        have same : first.ordinal = parameter.ordinal := of_decide_eq_true same
        rw [← same] at found
        exact ⟨_, first, above, (isFirst_iff _ _ _ _).mpr ⟨found, rfl⟩, same⟩
    | _ => cases nodeIs

/-- What is found in a list of appearances are the first appearances, seen in their surroundings. -/
theorem mem_firstByOrdinal_occurrences_iff (appearances : List Appearance)
    (occurrence : Occurrence) :
    occurrence ∈ Occurrence.firstByOrdinal
        (Mention.occurrences none (appearances.flatMap mentions)) ↔
      ∃ before above, IsFirst appearances before occurrence.placeholder above ∧
        occurrence.context = above.context occurrence.placeholder ∧
        occurrence.table = above.table (latestTable before) ∧ occurrence.rename = none := by
  rw [Occurrence.mem_firstByOrdinal_iff, find?_occurrences, Option.bind_eq_some_iff]
  constructor
  · rintro ⟨⟨node, above⟩, found, isOccurrence⟩
    rw [Option.or_none] at isOccurrence
    rcases (occurrence?_eq_some_iff _ _ _).mp isOccurrence with ⟨nodeIs, information⟩
    subst nodeIs
    exact ⟨_, above, (isFirst_iff _ _ _ _).mpr ⟨found, rfl⟩, information⟩
  · rintro ⟨before, above, isFirst, information⟩
    rcases (isFirst_iff _ _ _ _).mp isFirst with ⟨found, rfl⟩
    refine ⟨_, found, ?_⟩
    rw [Option.or_none]
    exact (occurrence?_eq_some_iff _ _ _).mpr ⟨rfl, information⟩

end Appearance

/-! ## Appearances in a statement -/

namespace Statement

def appearances (statement : Statement) : List Appearance :=
  statement.root.appearances []

theorem occurrences_findPlaceholders (statement : Statement) :
    statement.findPlaceholders.occurrences =
      Occurrence.firstByOrdinal
        (Mention.occurrences none (statement.appearances.flatMap Appearance.mentions)) := by
  rw [appearances, ← Node.mentions_eq_flatMap_appearances]
  rfl

/-- What is found of an ordinal is read off the surroundings of its first appearance. -/
theorem find?_occurrences_of_isFirst {statement : Statement} {before : List Appearance}
    {parameter : Placeholder} {above : Surroundings}
    (isFirst : Appearance.IsFirst statement.appearances before parameter above) :
    statement.findPlaceholders.occurrences.find? (·.ordinal = parameter.ordinal) =
      some {
        placeholder := parameter
        context := above.context parameter
        table := above.table (Appearance.latestTable before) } := by
  let occurrence : Occurrence :=
    { placeholder := parameter
      context := above.context parameter
      table := above.table (Appearance.latestTable before) }
  rw [occurrences_findPlaceholders]
  apply ((Occurrence.ascending_firstByOrdinal _).find?_eq_some_iff occurrence).mpr
  exact (Appearance.mem_firstByOrdinal_occurrences_iff _ occurrence).mpr
    ⟨before, above, isFirst, rfl, rfl, rfl⟩

theorem filterMap_placeholder?_appearances (statement : Statement) :
    statement.appearances.filterMap (·.node.placeholder?) = statement.root.placeholders := by
  rw [Node.placeholders, ← Node.map_node_appearances [], List.filterMap_map]
  rfl

end Statement

end PlaceholderTyping
