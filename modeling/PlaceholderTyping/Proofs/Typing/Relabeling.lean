import PlaceholderTyping.Proofs.Catalog.Candidates
import PlaceholderTyping.Proofs.Occurrence.Relabeling
import PlaceholderTyping.Proofs.Typing.Inference
import PlaceholderTyping.Proofs.Typing.UntypedContexts

/-!
# Typing in relabeled statements

A type is read off columns and arguments, to which it does not matter where anything stands. If the
relabeled tables have the columns of the given ones, every occurrence has the outcome that it had
before, with its table relabeled, or fails as before, at the relabeled location.
-/

namespace PlaceholderTyping

variable (change : Relabeling)

/-! ## Results -/

def Inference.relabel (inference : Inference) : Inference :=
  { inference with table := inference.table.map (QualifiedName.relabel change) }

def Outcome.relabel : Outcome → Outcome
  | .dropped => .dropped
  | .untyped => .untyped
  | .typed inference => .typed (inference.relabel change)

def ParameterType.relabel (type : ParameterType) : ParameterType :=
  { type with table := type.table.map (QualifiedName.relabel change) }

def Parameter.relabel (parameter : Parameter) : Parameter :=
  { parameter with type := parameter.type.map (ParameterType.relabel change) }

def TypingError.relabel : TypingError → TypingError
  | .noColumnReference location => .noColumnReference (change.location location)
  | .columnNotFound column location => .columnNotFound column (change.location location)
  | .ambiguousColumn column location => .ambiguousColumn column (change.location location)
  | .tooManyQualifiers components location =>
      .tooManyQualifiers components (change.location location)
  | .arityMismatch function location => .arityMismatch function (change.location location)
  | .missing information location => .missing information (change.location location)
  | .unsupportedContext kind location => .unsupportedContext kind (change.location location)

theorem Outcome.parameter?_relabel (names : PlaceholderNames) (ordinal : Nat)
    (outcome : Outcome) :
    (outcome.relabel change).parameter? names ordinal =
      (outcome.parameter? names ordinal).map (Parameter.relabel change) := by
  cases outcome <;> rfl

section

variable {α β : Type}

def relabelResult (transform : α → β) : Except TypingError α → Except TypingError β
  | .ok value => .ok (transform value)
  | .error failure => .error (failure.relabel change)

theorem relabelResult_bind {γ δ : Type} {transform : α → β} {finish : γ → δ}
    {next : α → Except TypingError γ} {relabeledNext : β → Except TypingError δ}
    (nextRelabeled : ∀ value,
      relabeledNext (transform value) = relabelResult change finish (next value))
    (result : Except TypingError α) :
    relabelResult change transform result >>= relabeledNext =
      relabelResult change finish (result >>= next) := by
  cases result with
  | error failure => rfl
  | ok value => exact nextRelabeled value

theorem relabelResult_map {γ δ : Type} {transform : α → β} {finish : γ → δ} {wrap : α → γ}
    {relabeledWrap : β → δ} (wrapRelabeled : ∀ value,
      relabeledWrap (transform value) = finish (wrap value))
    (result : Except TypingError α) :
    relabeledWrap <$> relabelResult change transform result =
      relabelResult change finish (wrap <$> result) := by
  cases result with
  | error failure => rfl
  | ok value => exact congrArg Except.ok (wrapRelabeled value)

end

/-! ## Scopes -/

namespace Scope

variable (view : CatalogView) (tables : List TableRef)

theorem tables_ofTables_relabel :
    (ofTables view (tables.map (TableRef.relabel change))).tables =
      (ofTables view tables).tables.map (QualifiedName.relabel change) := by
  rw [ofTables, ofTables, List.map_map, List.map_map]
  rfl

theorem defaultTable?_ofTables_relabel :
    (ofTables view (tables.map (TableRef.relabel change))).defaultTable? =
      (ofTables view tables).defaultTable?.map (QualifiedName.relabel change) := by
  rw [defaultTable?, defaultTable?, tables_ofTables_relabel, List.head?_map]

theorem candidates_ofTables_relabel (qualifier : Option String) :
    (ofTables view (tables.map (TableRef.relabel change))).candidates qualifier =
      ((ofTables view tables).candidates qualifier).map (QualifiedName.relabel change) := by
  have sameInQuestion : TableRef.inQuestion (tables.map (TableRef.relabel change)) qualifier =
      (TableRef.inQuestion tables qualifier).map (TableRef.relabel change) :=
    TableRef.inQuestion_map (TableRef.relabel change) (fun _ => rfl) (fun _ => rfl)
  rw [candidates_ofTables, candidates_ofTables, sameInQuestion, List.map_map, List.map_map]
  rfl

variable {view tables}

theorem exists_of_mem_tables {name : QualifiedName} (member : name ∈ (ofTables view tables).tables) :
    ∃ table ∈ tables, table.tableName = name :=
  List.mem_map.mp member

/-- Only mentioned tables come into question. -/
theorem exists_of_mem_candidates {qualifier : Option String} {name : QualifiedName}
    (candidate : name ∈ (ofTables view tables).candidates qualifier) :
    ∃ table ∈ tables, table.tableName = name := by
  rw [candidates_ofTables] at candidate
  rcases List.mem_map.mp candidate with ⟨table, isInQuestion, same⟩
  exact ⟨table, TableRef.mem_of_mem_inQuestion isInQuestion, same⟩

end Scope

/-- No column of the tables in question is lost or won, and all mentioned tables are in question. -/
structure Relabeling.KeepsColumns (view : CatalogView) (tables : List TableRef)
    (InQuestion : QualifiedName → Prop) : Prop where
  mentioned : ∀ table ∈ tables, InQuestion table.tableName
  columns : ∀ name, InQuestion name → ∀ column,
    (Scope.ofTables view (tables.map (TableRef.relabel change))).column? (name.relabel change)
        column =
      (Scope.ofTables view tables).column? name column

/-! ## Contexts -/

namespace Inference

variable {change} {view : CatalogView} {tables : List TableRef}
  {InQuestion : QualifiedName → Prop}

theorem columnName_relabel (reference : ColumnRef Node) :
    columnName (reference.relabel change) = relabelResult change id (columnName reference) := by
  rw [columnName, columnName, ColumnRef.names_relabel, ColumnRef.relabel_eq]
  split <;> rfl

theorem candidateColumns_relabel (keeps : change.KeepsColumns view tables InQuestion)
    (qualifier : Option String) (name : String) :
    candidateColumns (.ofTables view (tables.map (TableRef.relabel change))) qualifier name =
      (candidateColumns (.ofTables view tables) qualifier name).map
        (Prod.map (QualifiedName.relabel change) id) := by
  rw [candidateColumns, candidateColumns, Scope.candidates_ofTables_relabel, List.filterMap_map,
    List.map_filterMap]
  apply List.filterMap_congr
  intro table candidate
  rcases Scope.exists_of_mem_candidates candidate with ⟨mention, mentioned, rfl⟩
  rw [Function.comp_apply, keeps.columns _ (keeps.mentioned mention mentioned), Option.map_map]
  rfl

theorem ofOperation_relabel (keeps : change.KeepsColumns view tables InQuestion)
    (rename : Option String) (operation : Operation Node) :
    ofOperation (.ofTables view (tables.map (TableRef.relabel change))) rename
        (operation.relabel change) =
      relabelResult change (relabel change)
        (ofOperation (.ofTables view tables) rename operation) := by
  have leftColumn : (operation.relabel change).left.bind Node.firstColumn? =
      (operation.left.bind Node.firstColumn?).map (ColumnRef.relabel change) := by
    rw [Operation.relabel_eq]
    cases operation.left with
    | none => rfl
    | some operand => exact operand.firstColumn?_relabel change
  unfold ofOperation
  rw [leftColumn]
  cases operation.left.bind Node.firstColumn? with
  | none =>
      rw [Operation.relabel_eq]
      rfl
  | some reference =>
      dsimp only [Option.map_some]
      rw [columnName_relabel]
      apply relabelResult_bind
      intro (qualifier, name)
      have candidates := candidateColumns_relabel keeps qualifier name
      unfold candidateColumns at candidates
      dsimp only [id]
      rw [candidates, ColumnRef.relabel_eq]
      generalize List.filterMap _ _ = found
      -- There is no column, exactly one, or more than one.
      rcases found with _ | ⟨⟨table, column⟩, _ | ⟨second, others⟩⟩ <;> rfl

theorem ofTarget_relabel (keeps : change.KeepsColumns view tables InQuestion)
    {owner : Option TableRef} (owned : ∀ table ∈ owner, InQuestion table.tableName)
    (target : Target Node) :
    ofTarget (.ofTables view (tables.map (TableRef.relabel change)))
        (owner.map (TableRef.relabel change)) (target.relabel change) =
      relabelResult change (relabel change)
        (ofTarget (.ofTables view tables) owner target) := by
  have chosen : ((owner.map (TableRef.relabel change)).map TableRef.tableName).or
        (Scope.ofTables view (tables.map (TableRef.relabel change))).defaultTable? =
      ((owner.map TableRef.tableName).or (Scope.ofTables view tables).defaultTable?).map
        (QualifiedName.relabel change) := by
    rw [Scope.defaultTable?_ofTables_relabel, Option.map_or, Option.map_map, Option.map_map]
    rfl
  rw [Target.relabel_eq]
  unfold ofTarget
  cases target.name with
  | none => rfl
  | some name =>
      dsimp only
      rw [chosen]
      cases isChosen : (owner.map TableRef.tableName).or
          (Scope.ofTables view tables).defaultTable? with
      | none => rfl
      | some table =>
          have inQuestion : InQuestion table := by
            rcases Option.or_eq_some_iff.mp isChosen with isOwner | ⟨_, isFirst⟩
            · rcases Option.map_eq_some_iff.mp isOwner with ⟨mention, isMention, rfl⟩
              exact owned mention isMention
            · rcases Scope.exists_of_mem_tables (List.mem_of_mem_head? isFirst) with
                ⟨mention, mentioned, rfl⟩
              exact keeps.mentioned mention mentioned
          dsimp only [Option.map_some]
          rw [keeps.columns table inQuestion]
          cases (Scope.ofTables view tables).column? table name <;> rfl

theorem argumentLabel?_relabel (ordinal : Nat) (argument : Node) :
    argumentLabel? ordinal (argument.relabel change) = argumentLabel? ordinal argument := by
  cases argument with
  | namedArgument argument =>
      simp only [Node.relabel, argumentLabel?, NamedArgument.relabel_eq]
      cases argument.value <;> rfl
  | _ => rfl

theorem argumentSlot?_relabel (ordinal : Nat) (arguments : List Node) :
    argumentSlot? ordinal (arguments.map (Node.relabel change)) =
      argumentSlot? ordinal arguments := by
  rw [argumentSlot?, argumentSlot?, List.zipIdx_map, List.findSome?_map]
  apply congrArg (List.findSome? · arguments.zipIdx)
  funext entry
  rcases entry with ⟨argument, position⟩
  exact congrArg (Option.map (Prod.mk position)) (argumentLabel?_relabel ordinal argument)

theorem ofCall_relabel (ordinal : Nat) (rename : Option String) (call : Call Node) :
    ofCall view ordinal rename (call.relabel change) =
      relabelResult change (Outcome.relabel change) (ofCall view ordinal rename call) := by
  have sameFunction : calledFunction view (call.relabel change) = calledFunction view call := by
    rw [calledFunction, calledFunction, Call.relabel_eq, List.length_map]
  unfold ofCall
  rw [sameFunction, Call.relabel_eq, argumentSlot?_relabel]
  cases argumentSlot? ordinal call.arguments with
  | none => rfl
  | some slot =>
      rcases slot with ⟨position, label⟩
      dsimp only
      cases (calledFunction view call).1.arguments[position]? <;> rfl

theorem ofCast_relabel (rename : Option String) (cast : Cast Node) :
    ofCast rename (cast.relabel change) =
      relabelResult change (relabel change) (ofCast rename cast) := by
  rw [Cast.relabel_eq]
  unfold ofCast
  cases cast.type <;> rfl

end Inference

/-! ## Resolution -/

section

variable {change} {config : Config} {view : CatalogView} {tables : List TableRef}
  {InQuestion : QualifiedName → Prop}

theorem typed_map_relabel {given relabeled : Except TypingError Inference}
    (isRelabeled : relabeled = relabelResult change (Inference.relabel change) given) :
    Outcome.typed <$> relabeled =
      relabelResult change (Outcome.relabel change) (Outcome.typed <$> given) := by
  rw [isRelabeled]
  apply relabelResult_map
  intro inference
  rfl

theorem Occurrence.outcome_relabel (keeps : change.KeepsColumns view tables InQuestion)
    {occurrence : Occurrence} (owned : ∀ table ∈ occurrence.table, InQuestion table.tableName) :
    (occurrence.relabel change).outcome config view
        (.ofTables view (tables.map (TableRef.relabel change))) =
      relabelResult change (Outcome.relabel change)
        (occurrence.outcome config view (.ofTables view tables)) := by
  rcases occurrence with ⟨parameter, context, table, rename⟩
  cases context with
  | limit | offset => rfl
  | node parent =>
      by_cases isTyping : parent.kind ∈ Node.Kind.typing
      · cases parent with
        | operation expression =>
            exact typed_map_relabel (Inference.ofOperation_relabel keeps rename expression)
        | call expression => exact Inference.ofCall_relabel parameter.ordinal rename expression
        | target entry => exact typed_map_relabel (Inference.ofTarget_relabel keeps owned entry)
        | cast expression => exact typed_map_relabel (Inference.ofCast_relabel rename expression)
        | placeholder => rfl
        | _ => simp [Node.kind, Node.Kind.typing] at isTyping
      · have isParent : (relabel change ⟨parameter, .node parent, table, rename⟩).context =
            .node (parent.relabel change) := rfl
        have stillNotTyping : (parent.relabel change).kind ∉ Node.Kind.typing := by
          rwa [Node.kind_relabel]
        rw [outcome_of_kind_notMem isParent stillNotTyping, outcome_of_kind_notMem rfl isTyping,
          Node.kind_relabel, Node.location?_relabel, relabel, Placeholder.relabel, Option.getD_map]
        split <;> rfl

theorem Occurrence.parameter?_relabel (keeps : change.KeepsColumns view tables InQuestion)
    (names : PlaceholderNames) {occurrence : Occurrence}
    (owned : ∀ table ∈ occurrence.table, InQuestion table.tableName) :
    (occurrence.relabel change).parameter? config view names
        (.ofTables view (tables.map (TableRef.relabel change))) =
      relabelResult change (Option.map (Parameter.relabel change))
        (occurrence.parameter? config view names (.ofTables view tables)) := by
  rw [parameter?, parameter?, outcome_relabel keeps owned]
  apply relabelResult_bind
  intro outcome
  exact congrArg Except.ok (outcome.parameter?_relabel change names occurrence.ordinal)

/-- Resolution gives the relabeled parameters, or fails at the relabeled location. -/
theorem resolve_relabel (keeps : change.KeepsColumns view tables InQuestion)
    (names : PlaceholderNames) {occurrences : List Occurrence}
    (owned : ∀ occurrence ∈ occurrences, ∀ table ∈ occurrence.table,
      InQuestion table.tableName) :
    resolve config view (tables.map (TableRef.relabel change))
        (occurrences.map (Occurrence.relabel change)) names =
      relabelResult change (List.map (Parameter.relabel change))
        (resolve config view tables occurrences names) := by
  induction occurrences with
  | nil => rfl
  | cons first rest induction =>
      rcases List.forall_mem_cons.mp owned with ⟨firstOwned, restOwned⟩
      rw [List.map_cons, resolve_cons, resolve_cons, Occurrence.parameter?_relabel keeps names
        firstOwned, induction restOwned]
      apply relabelResult_bind
      intro parameter
      apply relabelResult_map
      intro parameters
      rw [List.map_append, Option.toList_map]

end

end PlaceholderTyping
