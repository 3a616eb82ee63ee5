import PlaceholderTyping.Proofs.Success
import PlaceholderTyping.Proofs.Typing.DroppedOccurrence
import PlaceholderTyping.Proofs.Typing.Resolution

/-!
# Occurrences are typed on their own

What a resolution makes of an occurrence does not depend on the other occurrences, except that it
ends at the first failure. Which occurrences are left out can be told from their contexts, without
the catalog.
-/

namespace PlaceholderTyping

/-! ## Occurrences that are left out -/

instance (number : Nat) (node : Node) : Decidable (node.Passes number) :=
  decidable_of_iff _ (Inference.isSome_argumentLabel?_iff number node)

instance (call : Call Node) (number : Nat) : Decidable (call.Takes number) :=
  inferInstanceAs (Decidable (∃ argument ∈ call.arguments, argument.Passes number))

def Node.call? : Node → Option (Call Node)
  | .call expression => some expression
  | _ => none

def Node.Kind.typing : List Node.Kind :=
  [.operation, .call, .target, .cast, .placeholder]

namespace Occurrence

def parent? (occurrence : Occurrence) : Option Node :=
  match occurrence.context with
  | .node parent => some parent
  | .limit | .offset => none

/-- The occurrence stands under a call that does not take its placeholder. -/
def IsLostInCall (occurrence : Occurrence) : Prop :=
  ∃ parent ∈ occurrence.parent?, ∃ call ∈ parent.call?, ¬ call.Takes occurrence.ordinal

def IsSkipped (config : Config) (occurrence : Occurrence) : Prop :=
  config.untypedContext = .skip ∧
    ∃ parent ∈ occurrence.parent?, parent.kind ∉ Node.Kind.typing

instance (occurrence : Occurrence) : Decidable occurrence.IsLostInCall :=
  inferInstanceAs (Decidable (∃ parent ∈ occurrence.parent?, ∃ call ∈ parent.call?,
    ¬ call.Takes occurrence.ordinal))

instance (config : Config) (occurrence : Occurrence) : Decidable (occurrence.IsSkipped config) :=
  inferInstanceAs (Decidable (config.untypedContext = .skip ∧
    ∃ parent ∈ occurrence.parent?, parent.kind ∉ Node.Kind.typing))

theorem leftOut_under_iff {config : Config} {occurrence : Occurrence} {parent : Node}
    (context : occurrence.context = .node parent) :
    occurrence.IsLostInCall ∨ occurrence.IsSkipped config ↔
      (∃ call ∈ parent.call?, ¬ call.Takes occurrence.ordinal) ∨
        config.untypedContext = .skip ∧ parent.kind ∉ Node.Kind.typing := by
  simp [IsLostInCall, IsSkipped, parent?, context]

theorem outcome_eq_dropped_iff_leftOut (config : Config) (view : CatalogView) (scope : Scope)
    (occurrence : Occurrence) :
    occurrence.outcome config view scope = .ok .dropped ↔
      occurrence.IsLostInCall ∨ occurrence.IsSkipped config := by
  rcases occurrence with ⟨parameter, context, table, rename⟩
  cases context with
  | limit | offset => simp [outcome, IsLostInCall, IsSkipped, parent?]
  | node parent =>
      rw [leftOut_under_iff rfl]
      cases parent with
      | call expression =>
          refine (Inference.ofCall_eq_dropped_iff view _ rename expression).trans ?_
          simp [Node.call?, Node.kind, Node.Kind.typing, ordinal]
      | operation | target | cast =>
          refine iff_of_false (typed_ne_dropped _) ?_
          simp [Node.call?, Node.kind, Node.Kind.typing]
      | placeholder => simp [outcome, Node.call?, Node.kind, Node.Kind.typing]
      | _ =>
          cases policy : config.untypedContext <;>
            simp [outcome, policy, Node.call?, Node.kind, Node.Kind.typing]

end Occurrence

/-! ## Concatenation -/

variable {config : Config} {view : CatalogView} {tables : List TableRef} {names : PlaceholderNames}

theorem resolve_append (earlier later : List Occurrence) :
    resolve config view tables (earlier ++ later) names = do
      let earlierParameters ← resolve config view tables earlier names
      let laterParameters ← resolve config view tables later names
      return earlierParameters ++ laterParameters := by
  induction earlier with
  | nil =>
      rw [List.nil_append, resolve_nil]
      cases resolve config view tables later names <;> rfl
  | cons first rest induction =>
      rw [List.cons_append, resolve_cons, resolve_cons, induction]
      cases first.parameter? config view names (.ofTables view tables) with
      | error failure => rfl
      | ok parameter =>
          cases resolve config view tables rest names with
          | error failure => rfl
          | ok parameters =>
              cases resolve config view tables later names with
              | error failure => rfl
              | ok laterParameters =>
                  exact congrArg Except.ok (List.append_assoc _ _ _).symm

theorem resolve_cons_eq_error_iff {first : Occurrence} {rest : List Occurrence}
    {failure : TypingError} :
    resolve config view tables (first :: rest) names = .error failure ↔
      resolve config view tables [first] names = .error failure ∨
        (∃ parameters, resolve config view tables [first] names = .ok parameters) ∧
          resolve config view tables rest names = .error failure := by
  rw [← List.singleton_append, resolve_append, bind_eq_error_iff]
  simp only [bind_eq_error_iff, pure_ne_error, and_false, exists_false, or_false, exists_and_right]

/-- The first occurrence that fails on its own decides. -/
theorem resolve_eq_error_iff {occurrences : List Occurrence} {failure : TypingError} :
    resolve config view tables occurrences names = .error failure ↔
      ∃ before failing after,
        occurrences = before ++ failing :: after ∧
          (∀ earlier ∈ before, ∃ parameters,
            resolve config view tables [earlier] names = .ok parameters) ∧
          resolve config view tables [failing] names = .error failure := by
  induction occurrences with
  | nil =>
      refine iff_of_false nofun ?_
      intro fails
      rcases fails with ⟨before, failing, after, split, _⟩
      cases before <;> cases split
  | cons first rest induction =>
      rw [resolve_cons_eq_error_iff, induction]
      constructor
      · intro fails
        rcases fails with firstFails | ⟨firstSucceeds, before, failing, after, rfl, succeed, fails⟩
        · exact ⟨[], first, rest, rfl, nofun, firstFails⟩
        · refine ⟨first :: before, failing, after, rfl, ?_, fails⟩
          exact List.forall_mem_cons.mpr ⟨firstSucceeds, succeed⟩
      · intro fails
        rcases fails with ⟨before, failing, after, split, succeed, fails⟩
        cases before with
        | nil =>
            cases split
            exact .inl fails
        | cons head before =>
            cases split
            rcases List.forall_mem_cons.mp succeed with ⟨firstSucceeds, succeed⟩
            exact .inr ⟨firstSucceeds, before, failing, after, rfl, succeed, fails⟩

/-- On success, every occurrence has succeeded on its own, and its parameters are in place. -/
theorem resolve_eq_ok_iff {occurrences : List Occurrence} {parameters : List Parameter} :
    resolve config view tables occurrences names = .ok parameters ↔
      ∃ parts,
        List.Forall₂ (fun occurrence part =>
          resolve config view tables [occurrence] names = .ok part) occurrences parts ∧
          parameters = parts.flatten := by
  induction occurrences generalizing parameters with
  | nil =>
      rw [resolve_nil, Except.ok.injEq]
      simp [eq_comm]
  | cons first rest induction =>
      change resolve config view tables ([first] ++ rest) names = .ok parameters ↔ _
      rw [resolve_append]
      simp only [bind_eq_ok_iff, pure_eq_ok_iff, induction, List.forall₂_cons_left_iff]
      constructor
      · intro succeeds
        rcases succeeds with ⟨part, firstSucceeds, _, ⟨parts, restSucceeds, rfl⟩, rfl⟩
        exact ⟨part :: parts, ⟨part, parts, firstSucceeds, restSucceeds, rfl⟩, rfl⟩
      · intro succeeds
        rcases succeeds with ⟨_, ⟨part, parts, firstSucceeds, restSucceeds, rfl⟩, rfl⟩
        exact ⟨part, firstSucceeds, _, ⟨parts, restSucceeds, rfl⟩, rfl⟩

/-- The parameters have the ordinals of the occurrences that are not left out, in their order. -/
theorem ordinals_resolve_eq {occurrences : List Occurrence} {parameters : List Parameter}
    (resolved : resolve config view tables occurrences names = .ok parameters) :
    parameters.map Parameter.ordinal =
      (occurrences.filter fun occurrence =>
        ¬ (occurrence.IsLostInCall ∨ occurrence.IsSkipped config)).map Occurrence.ordinal := by
  have sameFilter : occurrences.filter (!·.isDropped config view (.ofTables view tables)) =
      occurrences.filter fun occurrence =>
        ¬ (occurrence.IsLostInCall ∨ occurrence.IsSkipped config) := by
    apply List.filter_congr
    intro occurrence _
    rw [decide_not]
    apply congrArg (!·)
    rw [Bool.eq_iff_iff, decide_eq_true_iff, Occurrence.isDropped_eq_true_iff,
      Occurrence.outcome_eq_dropped_iff_leftOut]
  rw [ordinals_resolve resolved, sameFilter]

/-- Resolving a concatenation is resolving the one part and then the other. So the first occurrence
that fails on its own decides, and if none fails, the parameters are those of each occurrence on its
own, one after the other. Left out are exactly the occurrences under a call that does not take the
placeholder and, where such contexts are skipped, those under a node that tells nothing of types. -/
theorem resolve_oneByOne (config : Config) (view : CatalogView) (tables : List TableRef)
    (names : PlaceholderNames) :
    (∀ earlier later, resolve config view tables (earlier ++ later) names = do
        let earlierParameters ← resolve config view tables earlier names
        let laterParameters ← resolve config view tables later names
        return earlierParameters ++ laterParameters) ∧
      ∀ occurrences,
        (∀ failure, resolve config view tables occurrences names = .error failure ↔
          ∃ before failing after,
            occurrences = before ++ failing :: after ∧
              (∀ earlier ∈ before, ∃ parameters,
                resolve config view tables [earlier] names = .ok parameters) ∧
              resolve config view tables [failing] names = .error failure) ∧
          (∀ parameters, resolve config view tables occurrences names = .ok parameters ↔
            ∃ parts,
              List.Forall₂ (fun occurrence part =>
                resolve config view tables [occurrence] names = .ok part) occurrences parts ∧
                parameters = parts.flatten) ∧
          ∀ parameters, resolve config view tables occurrences names = .ok parameters →
            parameters.map Parameter.ordinal =
              (occurrences.filter fun occurrence =>
                ¬ (occurrence.IsLostInCall ∨ occurrence.IsSkipped config)).map
                  Occurrence.ordinal := by
  refine ⟨resolve_append, ?_⟩
  intro occurrences
  exact ⟨fun _ => resolve_eq_error_iff, fun _ => resolve_eq_ok_iff, fun _ => ordinals_resolve_eq⟩

/-! ## Occurrences of which some are left out -/

/-- `$2` as a limit, `$1` in a list that is passed to a function, `$4` in a list, and `$3::int4`. -/
def mixedOccurrences : List Occurrence :=
  let placeholder (ordinal : Nat) : Placeholder := { ordinal, location := 10 * ordinal }
  [ { placeholder := placeholder 2, context := .limit },
    { placeholder := placeholder 1
      context := .node <| .call {
        function := { name := "lower" }
        arguments := [.list [.placeholder (placeholder 1)]]
        location := 4 } },
    { placeholder := placeholder 4, context := .node (.list [.placeholder (placeholder 4)]) },
    { placeholder := placeholder 3
      context := .node <| .cast {
        operand := .placeholder (placeholder 3)
        type := some { name := "int4" }
        location := 32 } } ]

theorem ordinals_mixedOccurrences :
    ∃ parameters, resolve {} (Catalog.view {}) [] mixedOccurrences ∅ = .ok parameters ∧
      parameters.map Parameter.ordinal = [2, 3] ∧
      parameters.map Parameter.ordinal =
        (mixedOccurrences.filter fun occurrence =>
          ¬ (occurrence.IsLostInCall ∨ occurrence.IsSkipped {})).map Occurrence.ordinal := by
  have resolved : ∃ parameters, resolve {} (Catalog.view {}) [] mixedOccurrences ∅ =
      .ok parameters := ⟨_, rfl⟩
  rcases resolved with ⟨parameters, resolved⟩
  have ordinals := ((resolve_oneByOne {} (Catalog.view {}) [] ∅).2 mixedOccurrences).2.2
    parameters resolved
  refine ⟨parameters, resolved, ?_, ordinals⟩
  rw [ordinals]
  decide

end PlaceholderTyping
