import PlaceholderTyping.Proofs.Occurrence.FirstByOrdinal
import PlaceholderTyping.Proofs.Success
import PlaceholderTyping.Typing.Resolution

/-!
# Resolving occurrence by occurrence

A resolution takes up one occurrence after the other. If none of them fails, it gives one parameter
for each that is not dropped.
-/

namespace PlaceholderTyping

variable {config : Config} {view : CatalogView} {names : PlaceholderNames}

namespace Occurrence

def parameter? (config : Config) (view : CatalogView) (names : PlaceholderNames) (scope : Scope)
    (occurrence : Occurrence) : Except TypingError (Option Parameter) := do
  let outcome ← occurrence.outcome config view scope
  return outcome.parameter? names occurrence.placeholder.ordinal

def isDropped (config : Config) (view : CatalogView) (scope : Scope) (occurrence : Occurrence) :
    Bool :=
  match occurrence.outcome config view scope with
  | .ok .dropped => true
  | _ => false

theorem isDropped_eq_true_iff (scope : Scope) (occurrence : Occurrence) :
    occurrence.isDropped config view scope = true ↔
      occurrence.outcome config view scope = .ok .dropped := by
  unfold isDropped
  split
  · next dropped => exact iff_of_true rfl dropped
  · next other => exact iff_of_false Bool.false_ne_true other

theorem ordinals_parameter? {scope : Scope} {occurrence : Occurrence} {parameter : Option Parameter}
    (typed : occurrence.parameter? config view names scope = .ok parameter) :
    parameter.toList.map Parameter.ordinal =
      ([occurrence].filter (!·.isDropped config view scope)).map ordinal := by
  unfold parameter? at typed
  cases outcomeIs : occurrence.outcome config view scope with
  | error failure =>
      rw [outcomeIs] at typed
      cases typed
  | ok outcome =>
      rw [outcomeIs] at typed
      cases outcome with
      | dropped =>
          cases typed
          simp [isDropped, outcomeIs, Outcome.parameter?]
      | untyped | typed =>
          cases typed
          simp [isDropped, outcomeIs, Outcome.parameter?, ordinal]

/-- A type of a parameter was inferred from the context of its occurrence. -/
theorem exists_inference_of_parameter?_eq_some {scope : Scope} {occurrence : Occurrence}
    {parameter : Parameter}
    (isParameter : occurrence.parameter? config view names scope = .ok (some parameter))
    {type : ParameterType} (hasType : parameter.type = some type) :
    ∃ inference, occurrence.outcome config view scope = .ok (.typed inference) ∧
      type = {
        name := (names.get? occurrence.ordinal).getD inference.suggestedName
        dataType := inference.dataType
        isNotNull := inference.isNotNull
        isArray := inference.isArray
        table := inference.table } := by
  rcases bind_eq_ok_iff.mp isParameter with ⟨outcome, outcomeIs, ofOutcome⟩
  rw [pure_eq_ok_iff] at ofOutcome
  cases outcome with
  | dropped => cases ofOutcome
  | untyped =>
      cases ofOutcome
      cases hasType
  | typed inference =>
      cases ofOutcome
      cases hasType
      exact ⟨inference, outcomeIs, rfl⟩

end Occurrence

theorem resolve_nil (tables : List TableRef) :
    resolve config view tables [] names = .ok [] := rfl

theorem resolve_cons (tables : List TableRef) (first : Occurrence) (rest : List Occurrence) :
    resolve config view tables (first :: rest) names =
      (first.parameter? config view names (.ofTables view tables)).bind fun parameter =>
        (resolve config view tables rest names).map fun parameters =>
          parameter.toList ++ parameters := by
  change (do
    let parameters ← (first :: rest).mapM (Occurrence.parameter? config view names _)
    return parameters.filterMap id) = Except.bind _ fun parameter =>
      Except.map _ (do
        let parameters ← rest.mapM (Occurrence.parameter? config view names _)
        return parameters.filterMap id)
  rw [List.mapM_cons]
  cases first.parameter? config view names (.ofTables view tables) with
  | error failure => rfl
  | ok parameter =>
      cases rest.mapM (Occurrence.parameter? config view names (.ofTables view tables)) with
      | error failure => rfl
      | ok parameters => cases parameter <;> rfl

theorem resolve_singleton (tables : List TableRef) (occurrence : Occurrence) :
    resolve config view tables [occurrence] names =
      (occurrence.parameter? config view names (.ofTables view tables)).map Option.toList := by
  rw [resolve_cons, resolve_nil]
  cases occurrence.parameter? config view names (.ofTables view tables) with
  | error failure => rfl
  | ok parameter => exact congrArg Except.ok (List.append_nil _)

theorem resolve_singleton_eq (tables : List TableRef) (occurrence : Occurrence) :
    resolve config view tables [occurrence] names =
      (fun outcome => (outcome.parameter? names occurrence.ordinal).toList) <$>
        occurrence.outcome config view (.ofTables view tables) := by
  rw [resolve_singleton, Occurrence.parameter?]
  cases occurrence.outcome config view (.ofTables view tables) <;> rfl

/-- What is resolved depends on the outcomes of the occurrences and on nothing else. -/
theorem resolve_congr {otherConfig : Config} {otherView : CatalogView}
    {tables otherTables : List TableRef} {occurrences : List Occurrence}
    (sameOutcomes : ∀ occurrence ∈ occurrences,
      occurrence.outcome otherConfig otherView (.ofTables otherView otherTables) =
        occurrence.outcome config view (.ofTables view tables)) :
    resolve otherConfig otherView otherTables occurrences names =
      resolve config view tables occurrences names := by
  induction occurrences with
  | nil => rfl
  | cons first rest induction =>
      rcases List.forall_mem_cons.mp sameOutcomes with ⟨ofFirst, ofRest⟩
      rw [resolve_cons, resolve_cons, induction ofRest, Occurrence.parameter?,
        Occurrence.parameter?, ofFirst]

/-- Resolution succeeds exactly if each occurrence in turn has an outcome. -/
theorem resolve_cons_eq_ok_iff {tables : List TableRef} {first : Occurrence}
    {rest : List Occurrence} {parameters : List Parameter} :
    resolve config view tables (first :: rest) names = .ok parameters ↔
      ∃ parameter later,
        first.parameter? config view names (.ofTables view tables) = .ok parameter ∧
          resolve config view tables rest names = .ok later ∧
          parameters = parameter.toList ++ later := by
  rw [resolve_cons]
  cases first.parameter? config view names (.ofTables view tables) with
  | error failure => simp [Except.bind]
  | ok parameter =>
      cases resolve config view tables rest names with
      | error failure => simp [Except.bind, Except.map]
      | ok later => simp [Except.bind, Except.map, eq_comm]

/-- The parameters have, in order, the ordinals of the occurrences that are not dropped. -/
theorem ordinals_resolve {tables : List TableRef} {occurrences : List Occurrence}
    {parameters : List Parameter}
    (resolved : resolve config view tables occurrences names = .ok parameters) :
    parameters.map Parameter.ordinal =
      (occurrences.filter (!·.isDropped config view (.ofTables view tables))).map
        Occurrence.ordinal := by
  induction occurrences generalizing parameters with
  | nil =>
      rw [resolve_nil] at resolved
      cases resolved
      rfl
  | cons first rest induction =>
      rcases resolve_cons_eq_ok_iff.mp resolved with ⟨parameter, later, typed, remaining, rfl⟩
      rw [List.map_append, Occurrence.ordinals_parameter? typed, induction remaining,
        ← List.map_append, ← List.filter_append]
      rfl

/-- Every parameter comes of one of the occurrences. -/
theorem exists_parameter?_of_mem_resolve {tables : List TableRef} {occurrences : List Occurrence}
    {parameters : List Parameter}
    (resolved : resolve config view tables occurrences names = .ok parameters)
    {parameter : Parameter} (member : parameter ∈ parameters) :
    ∃ occurrence ∈ occurrences,
      occurrence.parameter? config view names (.ofTables view tables) = .ok (some parameter) := by
  induction occurrences generalizing parameters with
  | nil =>
      rw [resolve_nil] at resolved
      cases resolved
      cases member
  | cons first rest induction =>
      rcases resolve_cons_eq_ok_iff.mp resolved with ⟨found, later, typed, remaining, rfl⟩
      rcases List.mem_append.mp member with ofFirst | ofRest
      · rw [Option.mem_toList] at ofFirst
        cases ofFirst
        exact ⟨first, List.mem_cons_self, typed⟩
      · rcases induction remaining ofRest with ⟨occurrence, occurrenceMember, ofOccurrence⟩
        exact ⟨occurrence, List.mem_cons_of_mem _ occurrenceMember, ofOccurrence⟩

/-- Every failure is that of one of the occurrences. -/
theorem exists_outcome_of_resolve_eq_error {tables : List TableRef} {occurrences : List Occurrence}
    {failure : TypingError}
    (fails : resolve config view tables occurrences names = .error failure) :
    ∃ occurrence ∈ occurrences,
      occurrence.outcome config view (.ofTables view tables) = .error failure := by
  induction occurrences with
  | nil => cases fails
  | cons first rest induction =>
      rw [resolve_cons] at fails
      rcases bind_eq_error_iff.mp fails with ofFirst | ⟨parameter, _, ofRest⟩
      · rcases bind_eq_error_iff.mp ofFirst with outcomeFails | ⟨outcome, _, returns⟩
        · exact ⟨first, List.mem_cons_self, outcomeFails⟩
        · cases returns
      · rcases induction (map_eq_error_iff.mp ofRest) with ⟨occurrence, member, outcomeFails⟩
        exact ⟨occurrence, List.mem_cons_of_mem _ member, outcomeFails⟩

end PlaceholderTyping
