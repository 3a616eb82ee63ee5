import PlaceholderTyping.Proofs.Edit.Rewriting

/-!
# Replacing in place

Edits can also be applied to a copy of the source that is rewritten step by step, while what is
checked is checked in the source. From the top down this comes to the same: up to the end of the
edit that is next, the copy is still the source, so that a stretch that lies between characters of
the one lies between characters of the other.
-/

namespace PlaceholderTyping.Edit

/-- What is cut out of a text is cut out of every longer text as well, and nothing else is found up
to the end of the shorter one. -/
theorem cut?_append {edit : Edit} {text : List Char}
    (within : edit.endOffset ≤ Text.byteLength text) (rest : List Char) :
    edit.cut? (text ++ rest) =
      (edit.cut? text).map fun (before, inside, after) => (before, inside, after ++ rest) := by
  cases found : edit.cut? text with
  | some parts =>
      rcases parts with ⟨before, inside, after⟩
      rcases cut?_eq_some_iff.mp found with ⟨rfl, located, long⟩
      exact cut?_eq_some_iff.mpr ⟨List.append_assoc _ _ _, located, long⟩
  | none =>
      rw [Option.map_none, Option.eq_none_iff_forall_ne_some]
      rintro ⟨before, inside, after⟩ foundLater
      rcases cut?_eq_some_iff.mp foundLater with ⟨split, located, long, ordered⟩
      have has : Text.HasAt (text ++ rest) edit.location inside := ⟨before, after, split, located⟩
      rw [endOffset, ← long] at within
      rcases has.of_append within with ⟨start, stop, sameSplit, sameLocation⟩
      have foundHere : edit.cut? text = some (start, inside, stop) :=
        cut?_eq_some_iff.mpr ⟨sameSplit, sameLocation, long, ordered⟩
      cases found.symm.trans foundHere

/-- Applies edits in descending order of location to a copy of the source. There is no outcome at
all where the copy would have to be cut off the boundaries between its characters. -/
def applyInPlace (source copy : List Char) : List Edit → Option (Except EditError (List Char))
  | [] => some (.ok copy)
  | edit :: lower =>
      match edit.check (Text.byteLength source) lower.head? with
      | .error error => some (.error error)
      | .ok () =>
          match edit.cut? source with
          | none => some (.error (.outOfBounds edit))
          | some (_, inside, _) =>
              if inside ≠ edit.old.toList then
                some (.error (.mismatch edit (String.ofList inside)))
              else
                match edit.cut? copy with
                | none => none
                | some (before, _, after) =>
                    applyInPlace source (before ++ edit.new.toList ++ after) lower

def applyAllInPlace (source : String) (edits : List Edit) : Option (Except EditError String) :=
  (applyInPlace source.toList source.toList (descending edits)).map (String.ofList <$> ·)

/-- Source and copy begin with the same pending text, and the next edit, if it ends within the
source, ends within that text. -/
theorem applyInPlace_eq {pending rest : List Char} {edits : List Edit}
    (short : ∀ edit ∈ edits, edit.endOffset < UInt64.size)
    (within : ∀ next ∈ edits.head?,
      next.endOffset ≤ Text.byteLength (pending ++ rest) → next.endOffset ≤ Text.byteLength pending)
    (finished : List Char) :
    applyInPlace (pending ++ rest) (pending ++ finished) edits =
      some (applyDescending (Text.byteLength (pending ++ rest)) pending finished edits) := by
  induction edits generalizing pending rest finished with
  | nil => rfl
  | cons edit lower induction =>
      cases checked : edit.check (Text.byteLength (pending ++ rest)) lower.head? with
      | error error =>
          rw [applyInPlace, applyDescending, checked]
          rfl
      | ok _ =>
          rcases check_eq_ok_iff.mp checked with ⟨-, -, inSource, below⟩
          have inPending : edit.endOffset ≤ Text.byteLength pending := by
            rw [stop_eq_endOffset (short edit List.mem_cons_self)] at inSource
            exact within edit rfl inSource
          rw [applyInPlace, checked, cut?_append inPending, cut?_append inPending]
          cases found : edit.cut? pending with
          | none =>
              rw [applyDescending, checked, found]
              rfl
          | some parts =>
              rcases parts with ⟨before, inside, after⟩
              by_cases same : inside = edit.old.toList
              · subst same
                rw [applyDescending_cons_eq checked found]
                rcases cut?_eq_some_iff.mp found with ⟨rfl, located, -⟩
                have lowerShort := (List.forall_mem_cons.mp short).2
                have lowerWithin : ∀ next ∈ lower.head?,
                    next.endOffset ≤
                        Text.byteLength (before ++ (edit.old.toList ++ after ++ rest)) →
                      next.endOffset ≤ Text.byteLength before := by
                  intro next isNext _
                  rw [located, ← stop_eq_endOffset (lowerShort next (List.mem_of_head? isNext))]
                  exact below next isNext
                simpa using induction lowerShort lowerWithin (edit.new.toList ++ after ++ finished)
              · rw [applyDescending, checked, found]
                simp [same, bind, Except.bind, throw, throwThe, MonadExceptOf.throw]

theorem applyAllInPlace_eq (source : String) {edits : List Edit}
    (short : ∀ edit ∈ edits, edit.endOffset < UInt64.size) :
    applyAllInPlace source edits = some (applyAll source edits) := by
  have shortDescending : ∀ edit ∈ descending edits, edit.endOffset < UInt64.size :=
    fun edit member => short edit ((descending_perm edits).mem_iff.mp member)
  have within : ∀ next ∈ (descending edits).head?,
      next.endOffset ≤ Text.byteLength (source.toList ++ []) →
        next.endOffset ≤ Text.byteLength source.toList := by
    rw [List.append_nil]
    exact fun _ _ inside => inside
  have same := applyInPlace_eq shortDescending within []
  rw [List.append_nil] at same
  rw [applyAllInPlace, same, applyAll_eq]
  rfl

end PlaceholderTyping.Edit
