import PlaceholderTyping.Proofs.Occurrence.FirstByOrdinal
import PlaceholderTyping.Proofs.Occurrence.Surroundings
import PlaceholderTyping.Typing.Inference

/-!
# Dropped occurrences

In the contexts that a search hands over, typing drops an occurrence only under a call, and there
exactly if no argument of the call is the placeholder itself.
-/

namespace PlaceholderTyping

/-! ## Arguments that are placeholders -/

inductive Node.Passes (number : Nat) : Node → Prop where
  | bare (parameter : Placeholder) (same : parameter.ordinal = number) :
      Passes number (.placeholder parameter)
  | named (argument : NamedArgument Node) (parameter : Placeholder)
      (value : argument.value = .placeholder parameter) (same : parameter.ordinal = number) :
      Passes number (.namedArgument argument)

def Call.Takes (call : Call Node) (number : Nat) : Prop :=
  ∃ argument ∈ call.arguments, argument.Passes number

namespace Inference

theorem isSome_argumentLabel?_iff (number : Nat) (argument : Node) :
    (argumentLabel? number argument).isSome = true ↔ argument.Passes number := by
  constructor
  · intro labelled
    cases argument with
    | placeholder parameter =>
        rw [argumentLabel?] at labelled
        split at labelled
        · next same => exact .bare parameter same
        · cases labelled
    | namedArgument argument =>
        rw [argumentLabel?] at labelled
        split at labelled
        · next parameter value =>
            split at labelled
            · next same => exact .named argument parameter value same
            · cases labelled
        · cases labelled
    | _ => cases labelled
  · intro passes
    cases passes with
    | bare parameter same => simp [argumentLabel?, same]
    | named argument parameter value same => simp [argumentLabel?, value, same]

theorem argumentSlot?_eq_none_iff (number : Nat) (arguments : List Node) :
    argumentSlot? number arguments = none ↔ ∀ argument ∈ arguments, ¬ argument.Passes number := by
  rw [argumentSlot?, List.findSome?_eq_none_iff]
  constructor
  · intro unlabelled argument member passes
    rw [← List.zipIdx_map_fst 0 arguments] at member
    rcases List.mem_map.mp member with ⟨entry, entryMember, rfl⟩
    have noLabel := Option.map_eq_none_iff.mp (unlabelled entry entryMember)
    have label := (isSome_argumentLabel?_iff number entry.1).mpr passes
    rw [noLabel] at label
    cases label
  · rintro passNot ⟨argument, position⟩ member
    apply Option.map_eq_none_iff.mpr
    apply Option.not_isSome_iff_eq_none.mp
    intro label
    exact passNot argument (List.fst_mem_of_mem_zipIdx member)
      ((isSome_argumentLabel?_iff number argument).mp label)

theorem argumentSlot?_arguments_eq_none_iff (number : Nat) (call : Call Node) :
    argumentSlot? number call.arguments = none ↔ ¬ call.Takes number := by
  rw [argumentSlot?_eq_none_iff, Call.Takes]
  simp only [not_exists, not_and]

theorem ofCall_eq_dropped_iff (view : CatalogView) (number : Nat) (rename : Option String)
    (call : Call Node) :
    ofCall view number rename call = .ok .dropped ↔ ¬ call.Takes number := by
  rw [← argumentSlot?_arguments_eq_none_iff]
  unfold ofCall
  cases argumentSlot? number call.arguments with
  | none => exact iff_of_true rfl rfl
  | some slot =>
      rcases slot with ⟨position, label⟩
      rcases calledFunction view call with ⟨function, isKnown⟩
      refine iff_of_false ?_ nofun
      cases declared : function.arguments[position]? with
      | none => simp [declared, throw, throwThe, MonadExceptOf.throw]
      | some argument => simp [declared, pure, Except.pure]

end Inference

/-! ## Contexts -/

/-- The context of a placeholder is the closest node that tells a type. Where there is none, it is a
limit, a column that an `INSERT` fills or the placeholder itself. -/
theorem Surroundings.context_cases (parameter : Placeholder) (above : Surroundings) :
    (∃ parent, above.typingNode? = some parent ∧ parent.tellsType = true ∧
        above.context parameter = .node parent) ∨
      above.typingNode? = none ∧
        (above.context parameter = .limit ∨ above.context parameter = .offset ∨
          (∃ column, above.context parameter = .node (.target column)) ∨
          above.context parameter = .node (.placeholder parameter)) := by
  unfold context
  split
  · exact .inr ⟨rfl, .inl rfl⟩
  · exact .inr ⟨rfl, .inr (.inl rfl)⟩
  · split
    · next inserted =>
        unfold insertedColumn? at inserted
        split at inserted
        · exact .inr ⟨rfl, .inr (.inr (.inl ⟨_, rfl⟩))⟩
        · cases inserted
    · cases typing : above.typingNode? with
      | none => exact .inr ⟨rfl, .inr (.inr (.inr rfl))⟩
      | some parent => exact .inl ⟨parent, rfl, List.find?_some typing, rfl⟩

namespace Occurrence

theorem typed_ne_dropped (inferred : Except TypingError Inference) :
    Outcome.typed <$> inferred ≠ .ok .dropped := by
  cases inferred <;> nofun

/-- An occurrence is dropped exactly if the closest node that tells a type is a call that does not
take the placeholder. -/
theorem outcome_eq_dropped_iff (config : Config) (view : CatalogView) (scope : Scope)
    {occurrence : Occurrence} {above : Surroundings}
    (context : occurrence.context = above.context occurrence.placeholder) :
    occurrence.outcome config view scope = .ok .dropped ↔
      ∃ call, above.typingNode? = some (.call call) ∧ ¬ call.Takes occurrence.ordinal := by
  rw [outcome, context]
  rcases above.context_cases occurrence.placeholder with
    ⟨parent, typing, tells, found⟩ | ⟨typing, found⟩
  · rw [found, typing]
    cases parent with
    | call expression =>
        refine (Inference.ofCall_eq_dropped_iff view _ occurrence.rename expression).trans ?_
        constructor
        · intro takesNot
          exact ⟨expression, rfl, takesNot⟩
        · rintro ⟨_, same, takesNot⟩
          cases same
          exact takesNot
    | operation | cast | target => exact iff_of_false (typed_ne_dropped _) nofun
    | _ => cases tells
  · rw [typing]
    rcases found with found | found | ⟨column, found⟩ | found
    · rw [found]
      exact iff_of_false nofun nofun
    · rw [found]
      exact iff_of_false nofun nofun
    · rw [found]
      exact iff_of_false (typed_ne_dropped _) nofun
    · rw [found]
      exact iff_of_false nofun nofun

end Occurrence

end PlaceholderTyping
