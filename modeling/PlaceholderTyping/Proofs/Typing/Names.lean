import PlaceholderTyping.Proofs.Success
import PlaceholderTyping.Proofs.Typing.Resolution

/-!
# Names of parameters

Names that were given to placeholders, in a statement or at an occurrence, appear in the names of
its parameters and nowhere else. To show this, names are blanked out: what is left of a resolution
then is what a resolution without any given names leaves.
-/

namespace PlaceholderTyping

/-! ## Blank names -/

def Parameter.withoutName (parameter : Parameter) : Parameter :=
  { parameter with type := parameter.type.map ({ · with name := "" }) }

def Occurrence.withoutRename (occurrence : Occurrence) : Occurrence :=
  { occurrence with rename := none }

def Inference.withoutName (inference : Inference) : Inference :=
  { inference with suggestedName := "" }

def Outcome.withoutName : Outcome → Outcome
  | .dropped => .dropped
  | .untyped => .untyped
  | .typed inference => .typed inference.withoutName

theorem Outcome.parameter?_withoutName (names : PlaceholderNames) (ordinal : Nat)
    (outcome : Outcome) :
    (outcome.parameter? names ordinal).map Parameter.withoutName =
      outcome.withoutName.parameter? ∅ ordinal := by
  cases outcome <;> rfl

/-! ## One occurrence -/

namespace Inference

theorem withoutName_ofOperation (scope : Scope) (rename : Option String)
    (operation : Operation Node) :
    withoutName <$> ofOperation scope rename operation =
      withoutName <$> ofOperation scope none operation := by
  unfold ofOperation
  cases operation.left.bind Node.firstColumn? with
  | none => rfl
  | some reference =>
      dsimp only
      cases columnName reference with
      | error failure => rfl
      | ok spelled =>
          simp only [bind, Except.bind]
          split <;> rfl

theorem withoutName_ofCall (view : CatalogView) (ordinal : Nat) (rename : Option String)
    (call : Call Node) :
    Outcome.withoutName <$> ofCall view ordinal rename call =
      Outcome.withoutName <$> ofCall view ordinal none call := by
  unfold ofCall
  cases argumentSlot? ordinal call.arguments with
  | none => rfl
  | some slot =>
      dsimp only
      cases (calledFunction view call).1.arguments[slot.1]? <;> rfl

theorem withoutName_ofCast (rename : Option String) (cast : Cast Node) :
    withoutName <$> ofCast rename cast = withoutName <$> ofCast none cast := by
  unfold ofCast
  cases cast.type <;> rfl

end Inference

namespace Occurrence

theorem withoutName_typed (inferred : Except TypingError Inference) :
    Outcome.withoutName <$> Outcome.typed <$> inferred =
      Outcome.typed <$> Inference.withoutName <$> inferred := by
  cases inferred <;> rfl

variable {config : Config} {view : CatalogView} {scope : Scope}

theorem withoutName_outcome (occurrence : Occurrence) :
    Outcome.withoutName <$> occurrence.outcome config view scope =
      Outcome.withoutName <$> occurrence.withoutRename.outcome config view scope := by
  rcases occurrence with ⟨parameter, context, table, rename⟩
  cases context with
  | limit | offset => rfl
  | node parent =>
      cases parent with
      | operation expression =>
          simp only [outcome, withoutRename, withoutName_typed]
          rw [Inference.withoutName_ofOperation]
      | call expression => exact Inference.withoutName_ofCall view _ rename expression
      | cast expression =>
          simp only [outcome, withoutRename, withoutName_typed]
          rw [Inference.withoutName_ofCast]
      | _ => rfl

theorem withoutName_parameter?_eq (names : PlaceholderNames) (occurrence : Occurrence) :
    Option.map Parameter.withoutName <$> occurrence.parameter? config view names scope =
      Outcome.parameter? ∅ occurrence.ordinal <$> Outcome.withoutName <$>
        occurrence.outcome config view scope := by
  rw [parameter?]
  cases occurrence.outcome config view scope with
  | error failure => rfl
  | ok outcome => exact congrArg Except.ok (outcome.parameter?_withoutName names occurrence.ordinal)

/-- Without its name, the parameter of an occurrence does not depend on any name that was given. -/
theorem withoutName_parameter? (names : PlaceholderNames) (occurrence : Occurrence) :
    Option.map Parameter.withoutName <$> occurrence.parameter? config view names scope =
      Option.map Parameter.withoutName <$>
        occurrence.withoutRename.parameter? config view ∅ scope := by
  rw [withoutName_parameter?_eq, withoutName_parameter?_eq, withoutName_outcome]
  rfl

end Occurrence

/-! ## Resolutions -/

variable {config : Config} {view : CatalogView} {tables : List TableRef}

theorem withoutName_resolve_cons (names : PlaceholderNames) (first : Occurrence)
    (rest : List Occurrence) :
    List.map Parameter.withoutName <$> resolve config view tables (first :: rest) names =
      (Option.map Parameter.withoutName <$>
          first.parameter? config view names (.ofTables view tables)).bind fun parameter =>
        (List.map Parameter.withoutName <$> resolve config view tables rest names).map
          fun parameters => parameter.toList ++ parameters := by
  rw [resolve_cons]
  cases first.parameter? config view names (.ofTables view tables) with
  | error failure => rfl
  | ok parameter =>
      cases resolve config view tables rest names with
      | error failure => rfl
      | ok parameters => cases parameter <;> rfl

/-- Without their names, the parameters of a statement do not depend on any name that was given, and
neither does a failure. -/
theorem withoutName_resolve (names : PlaceholderNames) (occurrences : List Occurrence) :
    List.map Parameter.withoutName <$> resolve config view tables occurrences names =
      List.map Parameter.withoutName <$>
        resolve config view tables (occurrences.map Occurrence.withoutRename) ∅ := by
  induction occurrences with
  | nil => rfl
  | cons first rest induction =>
      rw [List.map_cons, withoutName_resolve_cons, withoutName_resolve_cons,
        first.withoutName_parameter?, induction]

/-! ## Given names -/

def Parameter.BearsName (names : PlaceholderNames) (parameter : Parameter) : Prop :=
  ∀ type ∈ parameter.type, ∀ name ∈ names.get? parameter.ordinal, type.name = name

theorem Outcome.bearsName_of_parameter?_eq_some {names : PlaceholderNames} {ordinal : Nat}
    {outcome : Outcome} {parameter : Parameter}
    (isParameter : outcome.parameter? names ordinal = some parameter) :
    parameter.BearsName names := by
  intro type hasType name named
  cases outcome with
  | dropped => cases isParameter
  | untyped =>
      cases isParameter
      cases hasType
  | typed inference =>
      cases isParameter
      cases hasType
      exact congrArg (Option.getD · inference.suggestedName) named

theorem bearsName_of_mem_resolve {names : PlaceholderNames} {occurrences : List Occurrence}
    {parameters : List Parameter}
    (resolved : resolve config view tables occurrences names = .ok parameters)
    {parameter : Parameter} (member : parameter ∈ parameters) : parameter.BearsName names := by
  rcases exists_parameter?_of_mem_resolve resolved member with ⟨occurrence, _, ofOccurrence⟩
  rcases bind_eq_ok_iff.mp ofOccurrence with ⟨outcome, _, ofOutcome⟩
  exact Outcome.bearsName_of_parameter?_eq_some (pure_eq_ok_iff.mp ofOutcome).symm

/-- Two resolutions of the same occurrences under different names, whether these were given in the
statement or at the occurrences, fail alike or give the same parameters but for their names. A typed
parameter has the name that the statement gave to its ordinal, if any. -/
theorem resolve_withoutNames (config : Config) (view : CatalogView) (tables : List TableRef)
    {occurrences otherOccurrences : List Occurrence}
    (sameButRenamed : occurrences.map Occurrence.withoutRename =
      otherOccurrences.map Occurrence.withoutRename)
    (names otherNames : PlaceholderNames) :
    let resolved := resolve config view tables occurrences names
    let otherResolved := resolve config view tables otherOccurrences otherNames
    ((∃ failure, resolved = .error failure ∧ otherResolved = .error failure) ∨
      ∃ parameters otherParameters,
        resolved = .ok parameters ∧ otherResolved = .ok otherParameters ∧
          parameters.map Parameter.withoutName = otherParameters.map Parameter.withoutName) ∧
      (∀ parameters, resolved = .ok parameters →
        ∀ parameter ∈ parameters, parameter.BearsName names) ∧
      ∀ parameters, otherResolved = .ok parameters →
        ∀ parameter ∈ parameters, parameter.BearsName otherNames := by
  intro resolved otherResolved
  refine ⟨?_, ?_, ?_⟩
  · apply fail_or_succeed_of_map_eq_map
    calc List.map Parameter.withoutName <$> resolved
      _ = List.map Parameter.withoutName <$>
            resolve config view tables (occurrences.map Occurrence.withoutRename) ∅ :=
          withoutName_resolve names occurrences
      _ = List.map Parameter.withoutName <$> otherResolved := by
          rw [sameButRenamed, ← withoutName_resolve otherNames]
  · intro parameters succeeds parameter
    exact bearsName_of_mem_resolve succeeds
  · intro parameters succeeds parameter
    exact bearsName_of_mem_resolve succeeds

/-! ## A parameter under two names -/

def castOccurrence (rename : Option String) : Occurrence where
  placeholder := { ordinal := 1, location := 7 }
  context := .node <| .cast {
    operand := .placeholder { ordinal := 1, location := 7 }
    type := some { name := "int4" }
    location := 9 }
  rename := rename

def integerParameter (name : String) : Parameter where
  ordinal := 1
  type := some { name, dataType := "int4", isNotNull := true, isArray := false }

theorem resolve_castOccurrence :
    let names : PlaceholderNames := .ofList [(1, "total")]
    let resolved := resolve {} (Catalog.view {}) [] [castOccurrence (some "count")] ∅
    let otherResolved := resolve {} (Catalog.view {}) [] [castOccurrence none] names
    resolved = .ok [integerParameter "count"] ∧ otherResolved = .ok [integerParameter "total"] ∧
      (integerParameter "count").withoutName = (integerParameter "total").withoutName ∧
      (integerParameter "total").BearsName names := by
  intro names resolved otherResolved
  have resolvedIs : resolved = .ok [integerParameter "count"] := rfl
  have otherResolvedIs : otherResolved = .ok [integerParameter "total"] := rfl
  have sameButRenamed : [castOccurrence (some "count")].map Occurrence.withoutRename =
      [castOccurrence none].map Occurrence.withoutRename := rfl
  rcases resolve_withoutNames {} (Catalog.view {}) [] sameButRenamed ∅ names with
    ⟨⟨_, fails, _⟩ | ⟨_, _, succeeds, otherSucceeds, same⟩, _, bearNames⟩
  · cases resolvedIs.symm.trans fails
  · cases resolvedIs.symm.trans succeeds
    cases otherResolvedIs.symm.trans otherSucceeds
    exact ⟨resolvedIs, otherResolvedIs, List.head_eq_of_cons_eq same,
      bearNames _ otherResolvedIs _ List.mem_cons_self⟩

end PlaceholderTyping
