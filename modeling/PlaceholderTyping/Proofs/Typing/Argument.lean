import PlaceholderTyping.Proofs.Catalog.FunctionHistory
import PlaceholderTyping.Proofs.Typing.DroppedOccurrence
import PlaceholderTyping.Proofs.Typing.Inference
import PlaceholderTyping.Proofs.Typing.Resolution

/-!
# Placeholders that are passed to functions

A placeholder that is an argument of a call takes the type that is declared for the first position
that it fills. A catalog only answers with functions of as many arguments as the call has, and the
function that stands in for an unknown one has as many too. So there always is a declaration for
that position, and such a placeholder never fails to be typed.
-/

namespace PlaceholderTyping

/-! ## Numbers of arguments -/

theorem Schema.length_arguments_of_function? {schema : Schema} {name : String} {arity : Nat}
    {function : Signature} (found : schema.function? name arity = some function) :
    function.arguments.length = arity := by
  have accepted := List.find?_some found
  rw [Bool.and_eq_true, decide_eq_true_iff, decide_eq_true_iff] at accepted
  exact accepted.2

/-- Whichever schema has the answer, it is a function of as many arguments as were asked for. -/
theorem Catalog.length_arguments_of_function {catalog : Catalog} {name : QualifiedName}
    {arity : Nat} {function : Signature} (found : catalog.function name arity = .ok function) :
    function.arguments.length = arity := by
  rcases List.exists_of_findSome?_eq_some (Catalog.function_eq_ok_iff.mp found) with
    ⟨schema, _, foundInSchema⟩
  exact Schema.length_arguments_of_function? foundInSchema

namespace Inference

variable {view : CatalogView} {call : Call Node}

theorem calledFunction_of_known {function : Signature}
    (known : view.function call.function call.arguments.length = .ok function) :
    calledFunction view call = (function, true) := by
  rw [calledFunction, known]

theorem calledFunction_of_unknown {failure : LookupError}
    (unknown : view.function call.function call.arguments.length = .error failure) :
    calledFunction view call =
      (.unknown call.function.name call.arguments.length, false) := by
  rw [calledFunction, unknown]

/-- Known or not, the function that a call means has as many arguments as the call. -/
theorem length_arguments_calledFunction (catalog : Catalog) (call : Call Node) :
    (calledFunction catalog.view call).1.arguments.length = call.arguments.length := by
  cases found : catalog.view.function call.function call.arguments.length with
  | error failure =>
      rw [calledFunction_of_unknown found]
      exact List.length_replicate
  | ok function =>
      rw [calledFunction_of_known found]
      exact Catalog.length_arguments_of_function found

end Inference

/-! ## First positions -/

structure Call.TakesFirstAt (call : Call Node) (number position : Nat) : Prop where
  passes : ∃ argument, call.arguments[position]? = some argument ∧ argument.Passes number
  isFirst : ∀ earlier ∈ call.arguments.take position, ¬ earlier.Passes number

namespace Call.TakesFirstAt

variable {call : Call Node} {number position other : Nat}

theorem position_lt (takesFirst : call.TakesFirstAt number position) :
    position < call.arguments.length := by
  rcases takesFirst.passes with ⟨argument, atPosition, _⟩
  exact (List.getElem?_eq_some_iff.mp atPosition).1

theorem not_lt (takesFirst : call.TakesFirstAt number position)
    (takesFirstToo : call.TakesFirstAt number other) : ¬ position < other := by
  intro earlier
  rcases takesFirst.passes with ⟨argument, atPosition, passes⟩
  rw [← List.getElem?_take_of_lt earlier] at atPosition
  exact takesFirstToo.isFirst argument (List.mem_of_getElem? atPosition) passes

theorem unique (takesFirst : call.TakesFirstAt number position)
    (takesFirstToo : call.TakesFirstAt number other) : position = other := by
  have notBefore := takesFirst.not_lt takesFirstToo
  have notAfter := takesFirstToo.not_lt takesFirst
  omega

end Call.TakesFirstAt

namespace Inference

theorem takesFirstAt_of_argumentSlot? {call : Call Node} {number position : Nat}
    {label : Option String}
    (found : argumentSlot? number call.arguments = some (position, label)) :
    call.TakesFirstAt number position := by
  rcases List.findSome?_eq_some_iff.mp found with
    ⟨before, ⟨argument, index⟩, after, split, labelled, unlabelled⟩
  rcases Option.map_eq_some_iff.mp labelled with ⟨ownLabel, isLabel, same⟩
  cases same
  -- The split of the numbered arguments is one of the arguments, at the position.
  rcases List.zipIdx_eq_append_iff.mp split with ⟨earlier, rest, arguments, rfl, indexed⟩
  rcases List.zipIdx_eq_cons_iff.mp indexed.symm with ⟨_, later, rfl, same, _⟩
  rw [Prod.mk.injEq, Nat.zero_add] at same
  rcases same with ⟨rfl, rfl⟩
  have passes : argument.Passes number := by
    rw [← isSome_argumentLabel?_iff, isLabel]
    rfl
  refine ⟨⟨argument, ?_, passes⟩, ?_⟩
  · rw [arguments, List.getElem?_append_right (Nat.le_refl _), Nat.sub_self,
      List.getElem?_cons_zero]
  · rw [arguments, List.take_left]
    exact (argumentSlot?_eq_none_iff number earlier).mp (List.findSome?_eq_none_iff.mpr unlabelled)

/-- A call that takes a placeholder tells its type, whether the function is known or not. -/
theorem ofCall_of_takes (catalog : Catalog) {number : Nat} (rename : Option String)
    {call : Call Node} (takes : call.Takes number) :
    ∃ position argument name,
      call.TakesFirstAt number position ∧
        (calledFunction catalog.view call).1.arguments[position]? = some argument ∧
        ofCall catalog.view number rename call = .ok (.typed {
          suggestedName := name
          dataType := argument.type.dataType
          isNotNull := (calledFunction catalog.view call).2
          isArray := false }) := by
  have hasSlot : argumentSlot? number call.arguments ≠ none := by
    intro noSlot
    exact (argumentSlot?_arguments_eq_none_iff number call).mp noSlot takes
  rcases Option.ne_none_iff_exists'.mp hasSlot with ⟨⟨position, label⟩, slot⟩
  have takesFirst := takesFirstAt_of_argumentSlot? slot
  -- This is where the number of arguments comes in: no position is beyond the declared ones.
  have isDeclared : position < (calledFunction catalog.view call).1.arguments.length := by
    rw [length_arguments_calledFunction]
    exact takesFirst.position_lt
  have declared := List.getElem?_eq_getElem isDeclared
  have typed := (ofCall_eq_typed_iff catalog.view number rename call _).mpr
    ⟨position, label, _, slot, declared, rfl⟩
  exact ⟨position, _, _, takesFirst, declared, typed⟩

end Inference

/-! ## Resolving an argument -/

/-- A placeholder that is an argument of a call always has a parameter, and one only. It shows the
type that the catalog's function declares for the first position that the placeholder fills, or any
type if the catalog has no such function. Only in the first case it must not be null. -/
theorem resolve_argument (config : Config) (catalog : Catalog) (names : PlaceholderNames)
    (tables : List TableRef) (occurrence : Occurrence) {call : Call Node}
    (context : occurrence.context = .node (.call call))
    (takes : call.Takes occurrence.ordinal) :
    let found := catalog.function call.function call.arguments.length
    ∃ position name dataType isNotNull,
      call.TakesFirstAt occurrence.ordinal position ∧
        resolve config catalog.view tables [occurrence] names = .ok [{
          ordinal := occurrence.ordinal
          type := some { name, dataType, isNotNull, isArray := false } }] ∧
        (∀ function, found = .ok function →
          isNotNull = true ∧
            ∃ argument, function.arguments[position]? = some argument ∧
              dataType = argument.type.dataType) ∧
        ∀ failure, found = .error failure → isNotNull = false ∧ dataType = "any" := by
  intro found
  rcases Inference.ofCall_of_takes catalog occurrence.rename takes with
    ⟨position, argument, name, takesFirst, declared, typed⟩
  have outcome : occurrence.outcome config catalog.view (.ofTables catalog.view tables) =
      Inference.ofCall catalog.view occurrence.ordinal occurrence.rename call := by
    rw [Occurrence.outcome, context]
    rfl
  refine ⟨position, (names.get? occurrence.ordinal).getD name, argument.type.dataType,
    (Inference.calledFunction catalog.view call).2, takesFirst, ?_, ?_, ?_⟩
  · rw [resolve_singleton_eq, outcome, typed]
    rfl
  · intro function known
    rw [Inference.calledFunction_of_known known] at declared ⊢
    exact ⟨rfl, argument, declared, rfl⟩
  · intro failure unknown
    rw [Inference.calledFunction_of_unknown unknown] at declared ⊢
    have anyArgument := List.eq_of_mem_replicate (List.mem_of_getElem? declared)
    rw [anyArgument]
    exact ⟨rfl, rfl⟩

/-! ## An argument that is passed twice -/

namespace Catalog

def withPick : Catalog :=
  let pick (types : List String) : Signature :=
    { name := "pick"
      arguments := types.map fun type => { type := { name := type } }
      result := .any }
  ((empty "public").addFunction "public" (pick ["int4", "text"])).addFunction "pg_catalog"
    (pick ["text", "int8", "uuid"])

end Catalog

def passingTwice (function : QualifiedName) : Call Node :=
  let parameter (location : Nat) : Node := .placeholder { ordinal := 1, location }
  { function
    arguments := [
      .call { function := { name := "lower" }, arguments := [parameter 18], location := 12 },
      .namedArgument { name := some "chosen", value := parameter 33, location := 23 },
      parameter 37 ]
    location := 7 }

theorem takes_passingTwice (function : QualifiedName) : (passingTwice function).Takes 1 :=
  ⟨_, List.mem_cons_of_mem _ (List.mem_cons_of_mem _ List.mem_cons_self), .bare _ rfl⟩

theorem takesFirstAt_passingTwice (function : QualifiedName) :
    (passingTwice function).TakesFirstAt 1 1 := by
  constructor
  · exact ⟨_, rfl, .named _ _ rfl rfl⟩
  · intro earlier member passes
    cases List.mem_singleton.mp member
    cases passes

/-- A function of three arguments is found beyond the default schema, which has one of two only. -/
theorem resolve_passedTwice :
    let resolved (function : QualifiedName) :=
      resolve {} Catalog.withPick.view [] [{
        placeholder := { ordinal := 1, location := 18 }
        context := .node (.call (passingTwice function)) }] ∅
    (∃ name, resolved { name := "pick" } = .ok [{
        ordinal := 1
        type := some { name, dataType := "int8", isNotNull := true, isArray := false } }]) ∧
      ∃ name, resolved { schema := some "public", name := "pick" } = .ok [{
        ordinal := 1
        type := some { name, dataType := "any", isNotNull := false, isArray := false } }] := by
  intro resolved
  have decided (function : QualifiedName) := resolve_argument {} Catalog.withPick ∅ []
    { placeholder := { ordinal := 1, location := 18 }
      context := .node (.call (passingTwice function)) } rfl (takes_passingTwice function)
  constructor
  · rcases decided { name := "pick" } with
      ⟨position, name, dataType, isNotNull, takesFirst, resolvedIs, ofKnown, _⟩
    cases takesFirst.unique (takesFirstAt_passingTwice _)
    rcases ofKnown _ rfl with ⟨rfl, argument, declared, rfl⟩
    cases declared
    exact ⟨name, resolvedIs⟩
  · rcases decided { schema := some "public", name := "pick" } with
      ⟨position, name, dataType, isNotNull, _, resolvedIs, _, ofUnknown⟩
    rcases ofUnknown _ rfl with ⟨rfl, rfl⟩
    exact ⟨name, resolvedIs⟩

end PlaceholderTyping
