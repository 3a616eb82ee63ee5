import PlaceholderTyping.Tree.Descendants

/-!
# What trees spell out

Trees spell out what their text fragments say one after the other, and all other nodes add nothing
of their own. Nodes spell out one name only, and that is the one that is put together of their
descendants.
-/

namespace PlaceholderTyping

inductive SpellsOut : List Node → String → Prop where
  | nil : SpellsOut [] ""
  | fragment (content : String) {rest : List Node} {later : String}
      (restSpells : SpellsOut rest later) : SpellsOut (.text content :: rest) (content ++ later)
  | other {node : Node} {rest : List Node} {below later : String} (noFragment : node.kind ≠ .text)
      (childrenSpell : SpellsOut node.children below) (restSpells : SpellsOut rest later) :
      SpellsOut (node :: rest) (below ++ later)

/-! ## Spelled names -/

theorem spelledName_cons (node : Node) (rest : List Node) :
    spelledName (node :: rest) = spelledName [node] ++ spelledName rest := by
  simp [spelledName]

theorem spelledName_text (content : String) : spelledName [.text content] = content := by
  simp [spelledName, Node.descendants_eq, Node.children, Node.text?]

theorem spelledName_singleton {node : Node} (noFragment : node.kind ≠ .text) :
    spelledName [node] = spelledName node.children := by
  have noText : node.text? = none := by
    cases node with
    | text => exact absurd rfl noFragment
    | _ => rfl
  rw [spelledName, spelledName, List.flatMap_singleton, Node.descendants_eq,
    List.filterMap_cons_none noText]

/-! ## What is spelled out -/

theorem SpellsOut.eq_spelledName {nodes : List Node} {name : String}
    (spells : SpellsOut nodes name) : name = spelledName nodes := by
  induction spells with
  | nil => rfl
  | fragment content _ ofRest => rw [spelledName_cons, spelledName_text, ← ofRest]
  | other noFragment _ _ ofChildren ofRest =>
      rw [spelledName_cons, spelledName_singleton noFragment, ← ofChildren, ← ofRest]

theorem SpellsOut.cons {node : Node} {rest : List Node} {own later : String}
    (spells : SpellsOut [node] own) (restSpells : SpellsOut rest later) :
    SpellsOut (node :: rest) (own ++ later) := by
  cases spells with
  | fragment content nothing =>
      cases nothing
      rw [String.append_empty]
      exact .fragment content restSpells
  | other noFragment childrenSpell nothing =>
      cases nothing
      rw [String.append_empty]
      exact .other noFragment childrenSpell restSpells

theorem spellsOut_of_forall {nodes : List Node}
    (eachSpells : ∀ node ∈ nodes, SpellsOut [node] (spelledName [node])) :
    SpellsOut nodes (spelledName nodes) := by
  induction nodes with
  | nil => exact .nil
  | cons node rest induction =>
      rw [List.forall_mem_cons] at eachSpells
      rw [spelledName_cons]
      exact eachSpells.1.cons (induction eachSpells.2)

theorem spellsOut_singleton (node : Node) : SpellsOut [node] (spelledName [node]) := by
  induction node using Node.childInduction with
  | step node ofChildren =>
      by_cases isFragment : node.kind = .text
      · cases node with
        | text content =>
            rw [spelledName_text]
            have spells := SpellsOut.fragment content .nil
            rwa [String.append_empty] at spells
        | _ => cases isFragment
      · have spells := SpellsOut.other isFragment (spellsOut_of_forall ofChildren) .nil
        rwa [String.append_empty, ← spelledName_singleton isFragment] at spells

theorem spellsOut_iff {nodes : List Node} {name : String} :
    SpellsOut nodes name ↔ name = spelledName nodes := by
  constructor
  · exact SpellsOut.eq_spelledName
  · rintro rfl
    exact spellsOut_of_forall fun node _ => spellsOut_singleton node

theorem spellsOut_spelledName (nodes : List Node) : SpellsOut nodes (spelledName nodes) :=
  spellsOut_iff.mpr rfl

theorem SpellsOut.unique {nodes : List Node} {first second : String}
    (spells : SpellsOut nodes first) (alsoSpells : SpellsOut nodes second) : first = second :=
  spells.eq_spelledName.trans alsoSpells.eq_spelledName.symm

end PlaceholderTyping
