import PlaceholderTyping.Proofs.Typing.Independence
import PlaceholderTyping.Proofs.Typing.Inference
import PlaceholderTyping.Proofs.Typing.Names

/-!
# Renamed occurrences

A name that was given to an occurrence becomes the name of its parameter where the type is that of a
compared column, of an argument or of a cast. Row counts and assigned columns insist on their own
names: only a name from the statement replaces those.
-/

namespace PlaceholderTyping

namespace Occurrence

/-- The name that a context gives to a placeholder, however the occurrence is renamed. -/
def contextName? (occurrence : Occurrence) : Option String :=
  match occurrence.context with
  | .limit => some "limit"
  | .offset => some "offset"
  | .node (.target entry) => entry.name
  | .node _ => none

variable {config : Config} {view : CatalogView} {scope : Scope} {names : PlaceholderNames}
  {occurrence : Occurrence} {rename : String}

theorem suggestedName_of_renamed (renamed : occurrence.rename = some rename)
    {inference : Inference}
    (typed : occurrence.outcome config view scope = .ok (.typed inference)) :
    inference.suggestedName = occurrence.contextName?.getD rename := by
  unfold outcome at typed
  unfold contextName?
  -- The rename is only asked for where the context has no name of its own.
  split at typed
  · next context =>
      cases typed
      rw [context]
      rfl
  · next context =>
      cases typed
      rw [context]
      rfl
  · next operation context =>
      rcases map_eq_ok_iff.mp typed with ⟨_, ofOperation, same⟩
      cases same
      rcases (Inference.ofOperation_eq_ok_iff _ _ _ _).mp ofOperation with
        ⟨reference, qualifier, name, table, column, _, _, _, rfl⟩
      rw [context, renamed]
      rfl
  · next call context =>
      rcases (Inference.ofCall_eq_typed_iff _ _ _ _ _).mp typed with
        ⟨position, label, argument, _, _, rfl⟩
      rw [context, renamed]
      rfl
  · next target context =>
      rcases map_eq_ok_iff.mp typed with ⟨_, ofTarget, same⟩
      cases same
      rcases (Inference.ofTarget_eq_ok_iff _ _ _ _).mp ofTarget with
        ⟨name, table, column, assigned, _, _, rfl⟩
      rw [context]
      exact (congrArg (Option.getD · rename) assigned).symm
  · next cast context =>
      rcases map_eq_ok_iff.mp typed with ⟨_, ofCast, same⟩
      cases same
      rcases (Inference.ofCast_eq_ok_iff _ _ _).mp ofCast with ⟨type, _, rfl⟩
      rw [context, renamed]
      rfl
  · cases typed
  · split at typed <;> cases typed

theorem name_of_parameter?_of_renamed (renamed : occurrence.rename = some rename)
    {parameter : Parameter}
    (isParameter : occurrence.parameter? config view names scope = .ok (some parameter))
    {type : ParameterType} (hasType : parameter.type = some type) :
    type.name = (names.get? occurrence.ordinal).getD (occurrence.contextName?.getD rename) := by
  rcases exists_inference_of_parameter?_eq_some isParameter hasType with ⟨inference, typed, rfl⟩
  rw [suggestedName_of_renamed renamed typed]

end Occurrence

/-- Among the parameters of a statement, that of a renamed occurrence, if it has a type, has the name
from the statement for its ordinal. Without such a name it has the one that its context insists on,
and the new name only where there is none. -/
theorem resolve_renamed {config : Config} {view : CatalogView} {tables : List TableRef}
    {names : PlaceholderNames} {before after : List Occurrence} {occurrence : Occurrence}
    {rename : String} (renamed : occurrence.rename = some rename) {parameters : List Parameter}
    (resolved : resolve config view tables (before ++ occurrence :: after) names =
      .ok parameters) :
    ∃ (earlier : List Parameter) (own : Option Parameter) (later : List Parameter),
      resolve config view tables before names = .ok earlier ∧
        resolve config view tables [occurrence] names = .ok own.toList ∧
        resolve config view tables after names = .ok later ∧
        parameters = earlier ++ own.toList ++ later ∧
        ∀ parameter ∈ own, ∀ type ∈ parameter.type,
          (∀ name ∈ names.get? occurrence.ordinal, type.name = name) ∧
            (names.get? occurrence.ordinal = none →
              type.name = occurrence.contextName?.getD rename ∧
                (type.name = rename ↔ ∀ name ∈ occurrence.contextName?, name = rename)) := by
  rw [resolve_append] at resolved
  rcases bind_eq_ok_iff.mp resolved with ⟨earlier, ofBefore, rest⟩
  rcases bind_eq_ok_iff.mp rest with ⟨_, ofRest, same⟩
  rcases resolve_cons_eq_ok_iff.mp ofRest with ⟨own, later, ofOccurrence, ofAfter, rfl⟩
  cases same
  refine ⟨earlier, own, later, ofBefore, ?_, ofAfter, (List.append_assoc _ _ _).symm, ?_⟩
  · rw [resolve_singleton, ofOccurrence]
    rfl
  · intro parameter isOwn type hasType
    cases isOwn
    have name := Occurrence.name_of_parameter?_of_renamed renamed ofOccurrence hasType
    constructor
    · intro given named
      rw [name, named]
      rfl
    · intro unnamed
      rw [unnamed, Option.getD_none] at name
      refine ⟨name, ?_⟩
      rw [name]
      cases occurrence.contextName? <;> simp

/-! ## New names that are lost -/

namespace Catalog

def withTags : Catalog :=
  (empty "public").addTable "public" {
    name := "users"
    columns := [.ofType "tags" { name := "text" }] }

end Catalog

def renamedLimit : Occurrence where
  placeholder := { ordinal := 1, location := 9 }
  context := .limit
  rename := some "page_size"

def limitParameter : Parameter where
  ordinal := 1
  type := some { name := "limit", dataType := "integer", isNotNull := true, isArray := false }

def renamedTags : Occurrence where
  placeholder := { ordinal := 1, location := 25 }
  context := .node <| .target {
    name := some "tags"
    value := some (.placeholder { ordinal := 1, location := 25 })
    location := 18 }
  rename := some "labels"

def updatedUsers : TableRef where
  relation := "users"
  location := 7

def tagsParameter : Parameter where
  ordinal := 1
  type := some {
    name := "tags"
    dataType := "text"
    isNotNull := false
    isArray := false
    table := some updatedUsers.tableName }

theorem resolve_renamedCast :
    resolve {} Catalog.withTags.view [updatedUsers]
        ([renamedLimit] ++ castOccurrence (some "count") :: [renamedTags]) ∅ =
        .ok [limitParameter, integerParameter "count", tagsParameter] ∧
      ∀ type ∈ (integerParameter "count").type, type.name = "count" := by
  have resolved : resolve {} Catalog.withTags.view [updatedUsers]
      ([renamedLimit] ++ castOccurrence (some "count") :: [renamedTags]) ∅ =
      .ok [limitParameter, integerParameter "count", tagsParameter] := rfl
  have alone : resolve {} Catalog.withTags.view [updatedUsers] [castOccurrence (some "count")] ∅ =
      .ok [integerParameter "count"] := rfl
  rcases resolve_renamed rfl resolved with ⟨_, own, _, _, ofCast, _, _, named⟩
  rw [alone, Except.ok.injEq, eq_comm, Option.toList_eq_singleton_iff] at ofCast
  refine ⟨resolved, ?_⟩
  intro type hasType
  exact ((named _ ofCast type hasType).2 rfl).2.mpr nofun

/-- A renamed limit is still called a limit, and a renamed value is still called by its column. -/
theorem rename_lost :
    let names : PlaceholderNames := ∅
    names.get? 1 = none ∧
      renamedLimit.rename = some "page_size" ∧
      resolve {} (Catalog.view {}) [] [renamedLimit] names = .ok [limitParameter] ∧
      limitParameter.type.map (·.name) = some "limit" ∧
      renamedTags.rename = some "labels" ∧
      resolve {} Catalog.withTags.view [updatedUsers] [renamedTags] names = .ok [tagsParameter] ∧
      tagsParameter.type.map (·.name) = some "tags" :=
  ⟨rfl, rfl, rfl, rfl, rfl, rfl, rfl⟩

end PlaceholderTyping
