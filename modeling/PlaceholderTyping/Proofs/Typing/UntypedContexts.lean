import PlaceholderTyping.Proofs.Occurrence.FirstAppearance
import PlaceholderTyping.Proofs.Typing.Independence
import PlaceholderTyping.Proofs.Typing.Inference

/-!
# Contexts that tell no type

The configuration says what to do with a placeholder in a context that tells no type. The search
never notes such a context: a placeholder that has no node above it to tell its type is its own
context. So it makes no difference to a statement what the configuration says.
-/

namespace PlaceholderTyping

/-! ## Typing without the policy -/

namespace Inference

variable {kind : Node.Kind} {location : Nat}

theorem ofOperation_ne_unsupportedContext (scope : Scope) (rename : Option String)
    (operation : Operation Node) :
    ofOperation scope rename operation ≠ .error (.unsupportedContext kind location) := by
  rw [Ne, ofOperation_eq_error_iff]
  simp [columnName_eq_error_iff]

theorem ofTarget_ne_unsupportedContext (scope : Scope) (table : Option TableRef)
    (target : Target Node) :
    ofTarget scope table target ≠ .error (.unsupportedContext kind location) := by
  unfold ofTarget
  cases target.name with
  | none => nofun
  | some name =>
      cases (table.map TableRef.tableName).or scope.defaultTable? with
      | none => nofun
      | some table =>
          dsimp only
          cases scope.column? table name <;> nofun

theorem ofCall_ne_unsupportedContext (view : CatalogView) (ordinal : Nat) (rename : Option String)
    (call : Call Node) :
    ofCall view ordinal rename call ≠ .error (.unsupportedContext kind location) := by
  unfold ofCall
  cases argumentSlot? ordinal call.arguments with
  | none => nofun
  | some slot =>
      dsimp only
      cases (calledFunction view call).1.arguments[slot.1]? <;> nofun

theorem ofCast_ne_unsupportedContext (rename : Option String) (cast : Cast Node) :
    ofCast rename cast ≠ .error (.unsupportedContext kind location) := by
  unfold ofCast
  cases cast.type <;> nofun

end Inference

namespace Occurrence

def HasTypingContext (occurrence : Occurrence) : Prop :=
  ∀ parent ∈ occurrence.parent?, parent.kind ∈ Node.Kind.typing

variable {config : Config} {view : CatalogView} {scope : Scope} {occurrence : Occurrence}

theorem not_isSkipped (typing : occurrence.HasTypingContext) : ¬ occurrence.IsSkipped config := by
  intro skipped
  rcases skipped with ⟨_, parent, isParent, tellsNothing⟩
  exact tellsNothing (typing parent isParent)

/-- Where nothing tells a type, the policy decides. -/
theorem outcome_of_kind_notMem {parent : Node} (isParent : occurrence.context = .node parent)
    (tellsNothing : parent.kind ∉ Node.Kind.typing) :
    occurrence.outcome config view scope =
      if config.untypedContext = .skip then .ok .dropped
      else
        .error (.unsupportedContext parent.kind
          (parent.location?.getD occurrence.placeholder.location)) := by
  rw [outcome, isParent]
  cases parent with
  | operation | call | target | cast | placeholder =>
      simp [Node.kind, Node.Kind.typing] at tellsNothing
  | _ => cases config.untypedContext <;> rfl

theorem outcome_untypedContext (config : Config) (typing : occurrence.HasTypingContext)
    (policy other : UntypedContext) :
    occurrence.outcome { config with untypedContext := policy } view scope =
      occurrence.outcome { config with untypedContext := other } view scope := by
  rcases occurrence with ⟨parameter, context, table, rename⟩
  cases context with
  | limit | offset => rfl
  | node parent =>
      have isTyping := typing parent rfl
      cases parent with
      | operation | call | target | cast | placeholder => rfl
      | _ => simp [Node.kind, Node.Kind.typing] at isTyping

theorem outcome_ne_unsupportedContext (typing : occurrence.HasTypingContext) (kind : Node.Kind)
    (location : Nat) :
    occurrence.outcome config view scope ≠ .error (.unsupportedContext kind location) := by
  rcases occurrence with ⟨parameter, context, table, rename⟩
  cases context with
  | limit | offset => nofun
  | node parent =>
      have isTyping := typing parent rfl
      intro fails
      cases parent with
      | operation expression =>
          exact Inference.ofOperation_ne_unsupportedContext scope rename expression
            (map_eq_error_iff.mp fails)
      | call expression =>
          exact Inference.ofCall_ne_unsupportedContext view _ rename expression fails
      | target entry =>
          exact Inference.ofTarget_ne_unsupportedContext scope table entry
            (map_eq_error_iff.mp fails)
      | cast expression =>
          exact Inference.ofCast_ne_unsupportedContext rename expression
            (map_eq_error_iff.mp fails)
      | placeholder => cases fails
      | _ => simp [Node.kind, Node.Kind.typing] at isTyping

end Occurrence

/-! ## What the search notes -/

theorem Node.kind_mem_typing {node : Node} (tells : node.tellsType = true) :
    node.kind ∈ Node.Kind.typing := by
  cases node with
  | operation | call | cast | target => simp [kind, Kind.typing]
  | _ => cases tells

theorem Surroundings.kind_mem_typing {parameter : Placeholder} {above : Surroundings}
    {parent : Node} (isParent : above.context parameter = .node parent) :
    parent.kind ∈ Node.Kind.typing := by
  rcases above.context_cases parameter with ⟨_, _, tells, context⟩ | ⟨_, limit | offset | others⟩
  · rw [context] at isParent
    cases isParent
    exact Node.kind_mem_typing tells
  · rw [limit] at isParent
    cases isParent
  · rw [offset] at isParent
    cases isParent
  · rcases others with ⟨column, context⟩ | context
    · rw [context] at isParent
      cases isParent
      simp [Node.kind, Node.Kind.typing]
    · rw [context] at isParent
      cases isParent
      simp [Node.kind, Node.Kind.typing]

theorem Occurrence.mem_parent?_iff {occurrence : Occurrence} {parent : Node} :
    parent ∈ occurrence.parent? ↔ occurrence.context = .node parent := by
  unfold parent?
  cases occurrence.context <;> simp

theorem Statement.hasTypingContext {statement : Statement} {occurrence : Occurrence}
    (found : occurrence ∈ statement.findPlaceholders.occurrences) :
    occurrence.HasTypingContext := by
  rw [occurrences_findPlaceholders] at found
  rcases (Appearance.mem_firstByOrdinal_occurrences_iff _ occurrence).mp found with
    ⟨before, above, _, context, _⟩
  intro parent isParent
  rw [Occurrence.mem_parent?_iff, context] at isParent
  exact Surroundings.kind_mem_typing isParent

/-! ## Resolution -/

/-- What a statement resolves to does not depend on how contexts that tell no type are treated, since
none of its occurrences has one. In particular no occurrence is skipped for its context, and none is
rejected. -/
theorem Statement.resolve_untypedContext (config : Config) (view : CatalogView)
    (names : PlaceholderNames) (statement : Statement) :
    let found := statement.findPlaceholders
    let resolved (policy : UntypedContext) :=
      resolve { config with untypedContext := policy } view found.tables found.occurrences names
    resolved .skip = resolved .reject ∧
      (∀ policy kind location, resolved policy ≠ .error (.unsupportedContext kind location)) ∧
      ∀ occurrence ∈ found.occurrences,
        occurrence.HasTypingContext ∧
          ¬ occurrence.IsSkipped { config with untypedContext := .skip } := by
  intro found resolved
  refine ⟨?_, ?_, ?_⟩
  · apply resolve_congr
    intro occurrence isFound
    exact Occurrence.outcome_untypedContext config (hasTypingContext isFound) .skip .reject
  · intro policy kind location fails
    rcases exists_outcome_of_resolve_eq_error fails with ⟨occurrence, isFound, ofOccurrence⟩
    exact Occurrence.outcome_ne_unsupportedContext (hasTypingContext isFound) kind location
      ofOccurrence
  · intro occurrence isFound
    exact ⟨hasTypingContext isFound, Occurrence.not_isSkipped (hasTypingContext isFound)⟩

end PlaceholderTyping
