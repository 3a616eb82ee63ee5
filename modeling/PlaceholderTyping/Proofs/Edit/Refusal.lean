import Mathlib
import PlaceholderTyping.Proofs.Edit.Acceptance

/-!
# Why edits are refused

Edits are taken from the top down, and the first one that cannot be applied ends the run with an
error. The edits above it have gone through by then, and the one below it has been looked at for
nothing but its end. The main statement is that the error tells the truth about the source and about
the edits as they were given.
-/

namespace PlaceholderTyping

namespace Text

def IsBoundary (text : List Char) (offset : Nat) : Prop :=
  ∃ before after, text = before ++ after ∧ byteLength before = offset

/-- What lies between two boundaries is a part of the text. -/
theorem IsBoundary.exists_hasAt {text : List Char} {start stop : Nat}
    (isStart : IsBoundary text start) (isStop : IsBoundary text stop) (ordered : start ≤ stop) :
    ∃ part, HasAt text start part ∧ start + byteLength part = stop := by
  rcases isStart with ⟨before, after, rfl, rfl⟩
  rcases isStop with ⟨start, rest, split, rfl⟩
  have startPrefix : start <+: before ++ after := split ▸ List.prefix_append start rest
  rcases prefix_of_byteLength_le (List.prefix_append before after) startPrefix ordered with
    ⟨part, rfl⟩
  exact ⟨part, ⟨before, rest, split, rfl⟩, (byteLength_append before part).symm⟩

/-- Two parts of a text at the same offset have the rest of it in common. -/
theorem HasAt.exists_append_eq {text part other : List Char} {offset : Nat}
    (has : HasAt text offset part) (hasOther : HasAt text offset other) :
    ∃ after rest, part ++ after = other ++ rest := by
  rcases has with ⟨before, after, rfl, rfl⟩
  rcases hasOther with ⟨start, rest, split, sameOffset⟩
  rw [List.append_assoc, List.append_assoc] at split
  exact ⟨after, rest, (append_inj split sameOffset.symm).2⟩

theorem HasAt.unique {text part other : List Char} {offset : Nat} (has : HasAt text offset part)
    (hasOther : HasAt text offset other) (sameLength : byteLength part = byteLength other) :
    part = other := by
  rcases has.exists_append_eq hasOther with ⟨after, rest, split⟩
  exact (append_inj split sameLength).1

theorem HasAt.prefix_of_length_le {text part other : List Char} {offset : Nat}
    (has : HasAt text offset part) (hasOther : HasAt text offset other)
    (short : part.length ≤ other.length) : part <+: other := by
  rcases has.exists_append_eq hasOther with ⟨after, rest, split⟩
  exact List.prefix_of_prefix_length_le ⟨after, split⟩ ⟨rest, rfl⟩ short

end Text

namespace Edit

/-! ## The edit that is refused -/

inductive Refuses (source : List Char) (edit : Edit) (lower : Option Edit) : EditError → Prop where
  | emptyOld (empty : edit.old = "") : Refuses source edit lower (.emptyOld edit)
  | emptyNew (empty : edit.new = "") : Refuses source edit lower (.emptyNew edit)
  | beyondEnd (beyond : Text.byteLength source < edit.stop) :
      Refuses source edit lower (.outOfBounds edit)
  | overlap {next : Edit} (isNext : next ∈ lower) (old : edit.old ≠ "")
      (reaches : edit.location < next.stop) : Refuses source edit lower (.overlap next edit)
  | startsOver (long : UInt64.size ≤ edit.endOffset) : Refuses source edit lower (.outOfBounds edit)
  | offBoundary
      (off : ¬ (Text.IsBoundary source edit.location ∧ Text.IsBoundary source edit.endOffset)) :
      Refuses source edit lower (.outOfBounds edit)
  | mismatch {found : List Char} (stands : Text.HasAt source edit.location found)
      (long : Text.byteLength found = Text.byteLength edit.old.toList)
      (different : found ≠ edit.old.toList) :
      Refuses source edit lower (.mismatch edit (String.ofList found))

theorem refuses_of_check_eq_error {source : List Char} {edit : Edit} {lower : Option Edit}
    {error : EditError} (failed : edit.check (Text.byteLength source) lower = .error error) :
    Refuses source edit lower error := by
  unfold check at failed
  simp only [ite_throw_bind_eq_error_iff, String.isEmpty_iff] at failed
  rcases failed with
    ⟨empty, rfl⟩ | ⟨old, ⟨empty, rfl⟩ | ⟨-, ⟨beyond, rfl⟩ | ⟨-, failed⟩⟩⟩
  · exact .emptyOld empty
  · exact .emptyNew empty
  · exact .beyondEnd beyond
  · cases lower with
    | none => cases failed
    | some next =>
        rcases ite_throw_eq_error_iff.mp failed with ⟨reaches, rfl⟩ | ⟨-, failed⟩
        · exact .overlap rfl old reaches
        · cases failed

theorem not_isBoundary_of_cut?_eq_none {edit : Edit} {text : List Char}
    (short : edit.endOffset < UInt64.size) (notCut : edit.cut? text = none) :
    ¬ (Text.IsBoundary text edit.location ∧ Text.IsBoundary text edit.endOffset) := by
  rintro ⟨isStart, isStop⟩
  rcases isStart.exists_hasAt isStop (Nat.le_add_right _ _) with
    ⟨inside, ⟨before, after, split, located⟩, long⟩
  have cut : edit.cut? text = some (before, inside, after) :=
    cut?_eq_some_iff.mpr ⟨split, located, Nat.add_left_cancel long, location_le_stop short⟩
  cases notCut.symm.trans cut

/-- A step of a run that fails: the edit itself is refused, or it goes through and the rest fails.
Up to the end of the edit the pending text is still that of the source. -/
theorem refuses_or_applyDescending_eq_error {pending rest finished : List Char} {edit : Edit}
    {lower : List Edit} {error : EditError}
    (within : edit.stop ≤ Text.byteLength (pending ++ rest) → edit.stop ≤ Text.byteLength pending)
    (failed : applyDescending (Text.byteLength (pending ++ rest)) pending finished (edit :: lower) =
      .error error) :
    Refuses (pending ++ rest) edit lower.head? error ∨
      edit.check (Text.byteLength (pending ++ rest)) lower.head? = .ok () ∧
        ∃ before after, pending = before ++ edit.old.toList ++ after ∧
          Text.byteLength before = edit.location ∧
          applyDescending (Text.byteLength (pending ++ rest)) before
            (edit.new.toList ++ after ++ finished) lower = .error error := by
  rw [applyDescending, bind_eq_error_iff] at failed
  rcases failed with failed | ⟨_, checked, failed⟩
  · exact .inl (refuses_of_check_eq_error failed)
  · cases found : edit.cut? pending with
    | none =>
        rw [found] at failed
        cases failed
        by_cases short : edit.endOffset < UInt64.size
        · have inPending := within (check_eq_ok_iff.mp checked).2.2.1
          rw [stop_eq_endOffset short] at inPending
          have notCut : edit.cut? (pending ++ rest) = none := by
            rw [cut?_append inPending, found, Option.map_none]
          exact .inl (.offBoundary (not_isBoundary_of_cut?_eq_none short notCut))
        · exact .inl (.startsOver (Nat.le_of_not_lt short))
    | some parts =>
        rcases parts with ⟨before, inside, after⟩
        simp only [found, ite_throw_bind_eq_error_iff, ne_eq, not_not] at failed
        rcases cut?_eq_some_iff.mp found with ⟨rfl, located, long, -⟩
        rcases failed with ⟨different, rfl⟩ | ⟨rfl, failed⟩
        · have split := List.append_assoc (before ++ inside) after rest
          exact .inl (.mismatch ⟨before, after ++ rest, split, located⟩ long different)
        · exact .inr ⟨checked, before, after, rfl, located, failed⟩

/-- In a run that fails one edit is refused, and what is above it has gone through. -/
theorem exists_refuses_of_applyDescending_eq_error {pending rest finished : List Char}
    {edits : List Edit} {error : EditError}
    (within : ∀ next ∈ edits.head?, next.stop ≤ Text.byteLength (pending ++ rest) →
      next.stop ≤ Text.byteLength pending)
    (failed : applyDescending (Text.byteLength (pending ++ rest)) pending finished edits =
      .error error) :
    ∃ above edit lower, edits = above ++ edit :: lower ∧ Fit pending above ∧
      Refuses (pending ++ rest) edit lower.head? error := by
  induction edits generalizing pending rest finished with
  | nil => cases failed
  | cons edit lower induction =>
      rcases refuses_or_applyDescending_eq_error (within edit rfl) failed with
        refuses | ⟨checked, before, after, rfl, located, failed⟩
      · exact ⟨[], edit, lower, rfl, ⟨nofun, nofun, nofun, .nil⟩, refuses⟩
      · rcases check_eq_ok_iff.mp checked with ⟨old, new, -, below⟩
        have sameSource : before ++ edit.old.toList ++ after ++ rest =
            before ++ (edit.old.toList ++ after ++ rest) := by simp only [List.append_assoc]
        rw [sameSource] at failed ⊢
        have lowerWithin : ∀ next ∈ lower.head?,
            next.stop ≤ Text.byteLength (before ++ (edit.old.toList ++ after ++ rest)) →
              next.stop ≤ Text.byteLength before := by
          intro next isNext _
          rw [located]
          exact below next isNext
        rcases induction lowerWithin failed with ⟨above, refused, later, rfl, fit, refuses⟩
        exact ⟨edit :: above, refused, later, rfl, fit.cons old new located, refuses⟩

/-- In a list of edits that fails, one edit is refused. What starts above it has gone through, and
nothing of what is left starts above it. -/
theorem exists_refuses_of_applyAll_eq_error {source : String} {edits : List Edit}
    {error : EditError} (failed : applyAll source edits = .error error) :
    ∃ above edit lower, edits.Perm (above ++ edit :: lower) ∧
      (∀ next ∈ lower, next.location ≤ edit.location) ∧ Fit source.toList above ∧
      Refuses source.toList edit lower.head? error := by
  rw [applyAll_eq, map_eq_error_iff] at failed
  have ofRun := @exists_refuses_of_applyDescending_eq_error source.toList [] [] (descending edits)
  rw [List.append_nil] at ofRun
  rcases ofRun (fun _ _ inside => inside) failed with ⟨above, edit, lower, split, fit, refuses⟩
  have sorted := pairwise_descending edits
  rw [split] at sorted
  have below : ∀ next ∈ lower, next.location ≤ edit.location :=
    fun _ => List.rel_of_pairwise_cons (List.pairwise_append.mp sorted).2.1
  exact ⟨above, edit, lower, split ▸ (descending_perm edits).symm, below, fit, refuses⟩

def Covers (edit : Edit) (offset : Nat) : Prop :=
  edit.location ≤ offset ∧ offset < edit.endOffset

end Edit

/-! ## What the error says -/

namespace EditError

def refused : EditError → Edit
  | .outOfBounds edit | .emptyOld edit | .emptyNew edit | .mismatch edit _ => edit
  | .overlap _ upper => upper

/-- What the error says about the source and the given edits is so. Of edits that overlap there are
two, be they equal. -/
def Holds (source : List Char) (edits : List Edit) : EditError → Prop
  | .emptyOld edit => edit ∈ edits ∧ edit.old = ""
  | .emptyNew edit => edit ∈ edits ∧ edit.new = ""
  | .outOfBounds edit =>
      edit ∈ edits ∧
        (Text.byteLength source < edit.endOffset ∨ ¬ Text.IsBoundary source edit.location ∨
          ¬ Text.IsBoundary source edit.endOffset)
  | .mismatch edit found =>
      edit ∈ edits ∧ Text.HasAt source edit.location found.toList ∧
        edit.location + Text.byteLength found.toList = edit.endOffset ∧ found ≠ edit.old
  | .overlap lower upper =>
      (∃ position other : Nat, position ≠ other ∧ edits[position]? = some lower ∧
          edits[other]? = some upper) ∧
        lower.location ≤ upper.location ∧ ∃ offset, lower.Covers offset ∧ upper.Covers offset

end EditError

theorem exists_positions_of_perm {α : Type} {first second : α} {rest values : List α}
    (perm : values.Perm (first :: second :: rest)) :
    ∃ position other : Nat, position ≠ other ∧ values[position]? = some first ∧
      values[other]? = some second := by
  have firstIn : first ∈ values := perm.mem_iff.mpr List.mem_cons_self
  rcases List.mem_iff_getElem.mp firstIn with ⟨position, inside, atFirst⟩
  have others : (values.eraseIdx position).Perm (second :: rest) := by
    have parts := List.getElem_cons_eraseIdx_perm inside
    rw [atFirst] at parts
    exact (parts.trans perm).cons_inv
  have secondIn : second ∈ values.eraseIdx position := others.mem_iff.mpr List.mem_cons_self
  rcases List.mem_eraseIdx_iff_getElem?.mp secondIn with ⟨other, different, atSecond⟩
  exact ⟨position, other, different.symm, List.getElem?_eq_some_iff.mpr ⟨inside, atFirst⟩, atSecond⟩

namespace Edit

theorem Refuses.holds {source : List Char} {edits above lower : List Edit} {edit : Edit}
    {error : EditError} (refuses : Refuses source edit lower.head? error)
    (perm : edits.Perm (above ++ edit :: lower))
    (below : ∀ next ∈ lower, next.location ≤ edit.location)
    (sourceShort : UInt64.size ≤ edit.endOffset → Text.byteLength source < UInt64.size) :
    error.Holds source edits := by
  have isIn : edit ∈ edits := perm.mem_iff.mpr (List.mem_append_right _ List.mem_cons_self)
  cases refuses with
  | emptyOld empty => exact ⟨isIn, empty⟩
  | emptyNew empty => exact ⟨isIn, empty⟩
  | beyondEnd beyond => exact ⟨isIn, .inl (Nat.lt_of_lt_of_le beyond edit.stop_le_endOffset)⟩
  | @overlap next isNext old reaches =>
      rcases List.head?_eq_some_iff.mp isNext with ⟨later, rfl⟩
      have nextBelow := below next List.mem_cons_self
      have pairFirst : (above ++ edit :: next :: later).Perm (next :: edit :: (above ++ later)) :=
        List.perm_middle.trans ((List.perm_middle.cons edit).trans (.swap next edit _))
      refine ⟨exists_positions_of_perm (perm.trans pairFirst), nextBelow, edit.location, ?_, ?_⟩
      · exact ⟨nextBelow, Nat.lt_of_lt_of_le reaches next.stop_le_endOffset⟩
      · exact ⟨Nat.le_refl _, location_lt_endOffset old⟩
  | startsOver long => exact ⟨isIn, .inl (Nat.lt_of_lt_of_le (sourceShort long) long)⟩
  | offBoundary off => exact ⟨isIn, .inr (not_and_or.mp off)⟩
  | @mismatch found stands long different =>
      refine ⟨isIn, ?_, ?_, ?_⟩
      · rwa [String.toList_ofList]
      · rw [String.toList_ofList, long, endOffset]
      · intro same
        exact different (by rw [← same, String.toList_ofList])

theorem Refuses.refused_eq {source : List Char} {edit : Edit} {lower : Option Edit}
    {error : EditError} (refuses : Refuses source edit lower error) : error.refused = edit := by
  cases refuses <;> rfl

/-- If no two edits start at the same place, the order in which they are given does not matter. -/
theorem descending_eq_of_perm {edits reordered : List Edit}
    (distinct : (edits.map location).Nodup) (perm : reordered.Perm edits) :
    descending reordered = descending edits := by
  have reorderedPerm := (descending_perm reordered).trans perm
  refine List.Perm.eq_of_pairwise ?_ (pairwise_descending reordered) (pairwise_descending edits)
    (reorderedPerm.trans (descending_perm edits).symm)
  intro left right leftIn rightIn above below
  exact List.inj_on_of_nodup_map distinct (reorderedPerm.mem_iff.mp leftIn)
    ((descending_perm edits).mem_iff.mp rightIn) (Nat.le_antisymm below above)

/-- If edits that end within 64 bits do not go through, what the error says is so, all edits that
start above the one that could not be applied are in order and are found in the source, and any
other order of the edits leads to the same error, provided that no two of them start at the same
place. -/
theorem holds_of_applyAll_eq_error {source : String} {edits : List Edit} {error : EditError}
    (short : ∀ edit ∈ edits, edit.endOffset < UInt64.size)
    (failed : applyAll source edits = .error error) :
    error.Holds source.toList edits ∧
      (∀ edit ∈ edits, error.refused.location < edit.location →
        edit.old ≠ "" ∧ edit.new ≠ "" ∧
          Text.HasAt source.toList edit.location edit.old.toList) ∧
      ((edits.map location).Nodup →
        ∀ reordered, reordered.Perm edits → applyAll source reordered = .error error) := by
  rcases exists_refuses_of_applyAll_eq_error failed with
    ⟨above, edit, lower, perm, below, fit, refuses⟩
  have shortHere : edit.endOffset < UInt64.size :=
    short edit (perm.mem_iff.mpr (List.mem_append_right _ List.mem_cons_self))
  refine ⟨refuses.holds perm below fun long => absurd shortHere (Nat.not_lt.mpr long), ?above,
    ?reordered⟩
  case above =>
    intro upper upperIn isAbove
    rw [refuses.refused_eq] at isAbove
    have inAbove : upper ∈ above := by
      rcases List.mem_append.mp (perm.mem_iff.mp upperIn) with inAbove | later
      · exact inAbove
      · rcases List.mem_cons.mp later with rfl | inLower
        · exact absurd isAbove (Nat.lt_irrefl _)
        · exact absurd (below upper inLower) (Nat.not_le.mpr isAbove)
    exact ⟨fit.old_ne_empty upper inAbove, fit.new_ne_empty upper inAbove,
      fit.found upper inAbove⟩
  case reordered =>
    intro distinct reordered isReordered
    rw [← failed, applyAll_eq, applyAll_eq, descending_eq_of_perm distinct isReordered]

def onSameBytes : List Edit :=
  [⟨8, "abc", "$2"⟩, ⟨19, "@d", "$3"⟩, ⟨7, "@ab", "$1"⟩]

theorem applyAll_onSameBytes :
    applyAll "SELECT @abc, 'é', @d" onSameBytes =
      .error (.overlap ⟨7, "@ab", "$1"⟩ ⟨8, "abc", "$2"⟩) := by
  cbv

theorem holds_onSameBytes :
    let source := "SELECT @abc, 'é', @d"
    let error : EditError := .overlap ⟨7, "@ab", "$1"⟩ ⟨8, "abc", "$2"⟩
    error.Holds source.toList onSameBytes ∧ Text.HasAt source.toList 19 "@d".toList ∧
      ∀ reordered, reordered.Perm onSameBytes → applyAll source reordered = .error error := by
  intro source error
  have short : ∀ edit ∈ onSameBytes, edit.endOffset < UInt64.size := by decide
  rcases holds_of_applyAll_eq_error short applyAll_onSameBytes with ⟨holds, above, reordered⟩
  refine ⟨holds, ?_, reordered (by decide)⟩
  exact (above ⟨19, "@d", "$3"⟩ (by decide) (by decide)).2.2

end Edit

end PlaceholderTyping
