import Mathlib.Data.List.Basic
import Mathlib.Data.Option.Basic
import PlaceholderTyping.Edit.Application
import PlaceholderTyping.Proofs.Success

/-!
# Rewriting

What becomes of a text to which edits are applied: from left to right, the text between the edits
stays, and the old text of each edit gives way to the new one. Edits go through if they are found in
the text and keep apart from each other; the order in which they are given does not matter.
-/

namespace PlaceholderTyping

/-! ## Parts of a text -/

namespace Text

def HasAt (text : List Char) (offset : Nat) (part : List Char) : Prop :=
  ∃ before after, text = before ++ part ++ after ∧ byteLength before = offset

theorem HasAt.end_le {text part : List Char} {offset : Nat} (has : HasAt text offset part) :
    offset + byteLength part ≤ byteLength text := by
  rcases has with ⟨before, after, rfl, rfl⟩
  rw [byteLength_append, byteLength_append]
  omega

theorem eq_nil_of_byteLength_eq_zero {text : List Char} (empty : byteLength text = 0) :
    text = [] := by
  cases text with
  | nil => rfl
  | cons character rest =>
      have positive := character.utf8Size_pos
      rw [byteLength_cons] at empty
      omega

theorem prefix_of_byteLength_le {short long text : List Char} (shortPrefix : short <+: text)
    (longPrefix : long <+: text) (shorter : byteLength short ≤ byteLength long) :
    short <+: long := by
  rcases List.prefix_or_prefix_of_prefix shortPrefix longPrefix with isPrefix | ⟨rest, rfl⟩
  · exact isPrefix
  · rw [byteLength_append] at shorter
    have restEmpty : rest = [] := eq_nil_of_byteLength_eq_zero (by omega)
    exact ⟨[], by simp [restEmpty]⟩

theorem HasAt.of_append {start rest part : List Char} {offset : Nat}
    (has : HasAt (start ++ rest) offset part)
    (inside : offset + byteLength part ≤ byteLength start) : HasAt start offset part := by
  rcases has with ⟨before, after, split, rfl⟩
  have endsInText : before ++ part <+: start ++ rest := by
    rw [split]
    exact List.prefix_append _ _
  rcases prefix_of_byteLength_le endsInText (List.prefix_append start rest)
    (by rwa [byteLength_append]) with ⟨between, rfl⟩
  exact ⟨before, between, rfl, rfl⟩

end Text

namespace Edit

/-- The byte offset behind the old text, be it beyond 64 bits. -/
def endOffset (edit : Edit) : Nat :=
  edit.location + Text.byteLength edit.old.toList

theorem stop_eq_endOffset {edit : Edit} (short : edit.endOffset < UInt64.size) :
    edit.stop = edit.endOffset :=
  Nat.mod_eq_of_lt short

theorem location_le_stop {edit : Edit} (short : edit.endOffset < UInt64.size) :
    edit.location ≤ edit.stop := by
  rw [stop_eq_endOffset short]
  exact Nat.le_add_right _ _

theorem stop_le_endOffset (edit : Edit) : edit.stop ≤ edit.endOffset :=
  Nat.mod_le _ _

/-- An end that starts over lies in front of the edit. -/
theorem stop_lt_location {edit : Edit} (long : UInt64.size ≤ edit.endOffset)
    (text : Text.byteLength edit.old.toList < UInt64.size) : edit.stop < edit.location := by
  have overshoot : edit.stop ≤ edit.endOffset - UInt64.size := by
    change edit.endOffset % UInt64.size ≤ _
    rw [Nat.mod_eq_sub_mod long]
    exact Nat.mod_le _ _
  rw [endOffset] at long overshoot
  omega

/-! ## Rewritten texts -/

/-- Edits from left to right, a text that starts at a byte offset, and what becomes of it. The text
in front of each edit is kept, and after the edit it goes on behind the old text. -/
inductive Rewrites : Nat → List Edit → List Char → List Char → Prop where
  | done (position : Nat) (text : List Char) : Rewrites position [] text text
  | step {position : Nat} {edit : Edit} {edits : List Edit} {source result : List Char}
      (kept : List Char) (located : edit.location = position + Text.byteLength kept)
      (rest : Rewrites edit.endOffset edits source result) :
      Rewrites position (edit :: edits) (kept ++ edit.old.toList ++ source)
        (kept ++ edit.new.toList ++ result)

/-- Behind a rewritten text, one more edit can follow. -/
theorem Rewrites.concat {position : Nat} {edits : List Edit} {source result : List Char}
    (rewrites : Rewrites position edits source result) {edit : Edit}
    (located : edit.location = position + Text.byteLength source) (after : List Char) :
    Rewrites position (edits ++ [edit]) (source ++ edit.old.toList ++ after)
      (result ++ edit.new.toList ++ after) := by
  induction rewrites with
  | done position text => exact .step text located (.done _ after)
  | step kept firstLocated _ induction =>
      simp only [List.append_assoc, List.cons_append]
      simp only [List.append_assoc] at induction
      rw [← List.append_assoc, ← List.append_assoc kept]
      refine .step kept firstLocated (induction ?_)
      rw [located, endOffset, firstLocated]
      simp only [Text.byteLength_append]
      omega

/-! ## Edits that go through -/

def Apart (left right : Edit) : Prop :=
  left.endOffset ≤ right.location ∨ right.endOffset ≤ left.location

structure Fit (source : List Char) (edits : List Edit) : Prop where
  old_ne_empty : ∀ edit ∈ edits, edit.old ≠ ""
  new_ne_empty : ∀ edit ∈ edits, edit.new ≠ ""
  found : ∀ edit ∈ edits, Text.HasAt source edit.location edit.old.toList
  apart : edits.Pairwise Apart

theorem check_eq_ok_iff {sourceLength : Nat} {edit : Edit} {lower : Option Edit} :
    edit.check sourceLength lower = .ok () ↔
      edit.old ≠ "" ∧ edit.new ≠ "" ∧ edit.stop ≤ sourceLength ∧
        ∀ next ∈ lower, next.stop ≤ edit.location := by
  unfold check
  simp only [ite_throw_bind_eq_ok_iff, String.isEmpty_iff, Nat.not_lt, ne_eq]
  cases lower with
  | none => simp
  | some next => simp [ite_throw_eq_ok_iff]

theorem cut?_eq_some_iff {edit : Edit} {text before inside after : List Char} :
    edit.cut? text = some (before, inside, after) ↔
      text = before ++ inside ++ after ∧ Text.byteLength before = edit.location ∧
        Text.byteLength inside = Text.byteLength edit.old.toList ∧ edit.location ≤ edit.stop := by
  simp only [cut?, bind, Option.bind_eq_some_iff, Prod.exists, Text.splitAtByte_eq_some_iff, pure,
    Option.some.injEq, Prod.mk.injEq, Option.guard_eq_some']
  constructor
  · rintro ⟨_, ordered, _, _, ⟨rfl, located⟩, _, _, ⟨rfl, long⟩, rfl, rfl, rfl⟩
    exact ⟨(List.append_assoc _ _ _).symm, located, long, ordered⟩
  · rintro ⟨rfl, located, long, ordered⟩
    exact ⟨(), ordered, before, inside ++ after, ⟨List.append_assoc _ _ _, located⟩, inside, after,
      ⟨rfl, long⟩, rfl, rfl, rfl⟩

theorem applyDescending_cons_eq {sourceLength : Nat} {edit : Edit} {lower : List Edit}
    {pending before after : List Char} (checked : edit.check sourceLength lower.head? = .ok ())
    (found : edit.cut? pending = some (before, edit.old.toList, after)) (finished : List Char) :
    applyDescending sourceLength pending finished (edit :: lower) =
      applyDescending sourceLength before (edit.new.toList ++ after ++ finished) lower := by
  rw [applyDescending, checked, found]
  simp [bind, Except.bind]

theorem exists_applyDescending_eq_ok {sourceLength : Nat} {pending : List Char}
    {descending : List Edit} (fit : Fit pending descending)
    (ordered : descending.Pairwise fun upper lower => lower.endOffset ≤ upper.location)
    (short : ∀ edit ∈ descending, edit.endOffset < UInt64.size)
    (inside : Text.byteLength pending ≤ sourceLength) (finished : List Char) :
    ∃ result, Rewrites 0 descending.reverse pending result ∧
      applyDescending sourceLength pending finished descending = .ok (result ++ finished) := by
  induction descending generalizing pending finished with
  | nil => exact ⟨pending, .done 0 pending, rfl⟩
  | cons edit lower induction =>
      have isIn : edit ∈ edit :: lower := List.mem_cons_self
      have foundHere := fit.found edit isIn
      have endsInside : edit.endOffset ≤ sourceLength := Nat.le_trans foundHere.end_le inside
      have sameEnd : edit.stop = edit.endOffset := stop_eq_endOffset (short edit isIn)
      have checked : edit.check sourceLength lower.head? = .ok () := by
        refine check_eq_ok_iff.mpr ⟨fit.old_ne_empty edit isIn, fit.new_ne_empty edit isIn,
          sameEnd ▸ endsInside, ?_⟩
        intro next isNext
        have below := List.rel_of_pairwise_cons ordered (List.mem_of_head? isNext)
        exact Nat.le_trans next.stop_le_endOffset below
      rcases foundHere with ⟨before, after, rfl, located⟩
      have cut : edit.cut? (before ++ edit.old.toList ++ after) =
          some (before, edit.old.toList, after) :=
        cut?_eq_some_iff.mpr ⟨rfl, located, rfl, location_le_stop (short edit isIn)⟩
      -- The lower edits end before this one starts, so they are found in what stands before it.
      have lowerFit : Fit before lower := by
        constructor
        case old_ne_empty => exact fun other member => fit.old_ne_empty other (.tail _ member)
        case new_ne_empty => exact fun other member => fit.new_ne_empty other (.tail _ member)
        case apart => exact fit.apart.of_cons
        case found =>
          intro other member
          have found := fit.found other (.tail _ member)
          rw [List.append_assoc] at found
          refine found.of_append ?_
          rw [located]
          exact List.rel_of_pairwise_cons ordered member
      have beforeInside : Text.byteLength before ≤ sourceLength := by
        rw [List.append_assoc, Text.byteLength_append] at inside
        omega
      rcases induction lowerFit ordered.of_cons (List.forall_mem_cons.mp short).2 beforeInside
        (edit.new.toList ++ after ++ finished) with ⟨result, rewrites, applied⟩
      refine ⟨result ++ edit.new.toList ++ after, ?_, ?_⟩
      · rw [List.reverse_cons]
        exact rewrites.concat (by rw [located, Nat.zero_add]) after
      · rw [applyDescending_cons_eq checked cut, applied]
        simp only [List.append_assoc]

theorem Apart.symm {left right : Edit} (apart : Apart left right) : Apart right left :=
  Or.symm apart

theorem location_lt_endOffset {edit : Edit} (old : edit.old ≠ "") :
    edit.location < edit.endOffset := by
  have long : Text.byteLength edit.old.toList ≠ 0 := by
    intro short
    exact old (String.toList_eq_nil_iff.mp (Text.eq_nil_of_byteLength_eq_zero short))
  rw [endOffset]
  omega

theorem Fit.perm {source : List Char} {left right : List Edit} (fit : Fit source left)
    (perm : left.Perm right) : Fit source right where
  old_ne_empty edit member := fit.old_ne_empty edit (perm.mem_iff.mpr member)
  new_ne_empty edit member := fit.new_ne_empty edit (perm.mem_iff.mpr member)
  found edit member := fit.found edit (perm.mem_iff.mpr member)
  apart := (perm.pairwise_iff Apart.symm).mp fit.apart

/-- Of edits that keep apart, the one with the lower location also ends below the other. -/
theorem Fit.pairwise_endOffset_le {source : List Char} {descending : List Edit}
    (fit : Fit source descending)
    (sorted : descending.Pairwise fun upper lower => lower.location ≤ upper.location) :
    descending.Pairwise fun upper lower => lower.endOffset ≤ upper.location := by
  refine List.Pairwise.imp_of_mem ?_ (fit.apart.and sorted)
  intro upper lower upperIn _ ⟨apart, below⟩
  rcases apart with upperFirst | lowerFirst
  · have upperLong := location_lt_endOffset (fit.old_ne_empty upper upperIn)
    omega
  · exact lowerFirst

def descending (edits : List Edit) : List Edit :=
  edits.mergeSort fun left right => right.location ≤ left.location

theorem descending_perm (edits : List Edit) : (descending edits).Perm edits :=
  List.mergeSort_perm _ _

theorem isAbove_trans (first second third : Edit)
    (firstAbove : decide (second.location ≤ first.location) = true)
    (secondAbove : decide (third.location ≤ second.location) = true) :
    decide (third.location ≤ first.location) = true :=
  decide_eq_true <| Nat.le_trans (of_decide_eq_true secondAbove) (of_decide_eq_true firstAbove)

theorem isAbove_total (left right : Edit) :
    (decide (right.location ≤ left.location) || decide (left.location ≤ right.location)) = true := by
  simpa using Nat.le_total right.location left.location

theorem pairwise_descending (edits : List Edit) :
    (descending edits).Pairwise fun upper lower => lower.location ≤ upper.location :=
  (List.pairwise_mergeSort isAbove_trans isAbove_total edits).imp of_decide_eq_true

/-- Edits that are given in descending order stay in the order in which they are given. -/
theorem sublist_descending {edits part : List Edit}
    (sorted : part.Pairwise fun upper lower => lower.location ≤ upper.location)
    (isPart : part.Sublist edits) : part.Sublist (descending edits) :=
  List.sublist_mergeSort isAbove_trans isAbove_total (sorted.imp decide_eq_true) isPart

theorem applyAll_eq (source : String) (edits : List Edit) :
    applyAll source edits =
      String.ofList <$> applyDescending (Text.byteLength source.toList) source.toList []
        (descending edits) :=
  rfl

theorem Fit.applyAll_eq_ok {source : String} {edits : List Edit} (fit : Fit source.toList edits)
    (short : ∀ edit ∈ edits, edit.endOffset < UInt64.size) :
    ∃ result, Rewrites 0 (descending edits).reverse source.toList result.toList ∧
      applyAll source edits = .ok result := by
  have perm := descending_perm edits
  have descendingFit := fit.perm perm.symm
  rcases exists_applyDescending_eq_ok descendingFit
    (descendingFit.pairwise_endOffset_le (pairwise_descending edits))
    (fun edit member => short edit (perm.mem_iff.mp member)) (Nat.le_refl _) []
    with ⟨result, rewrites, applied⟩
  refine ⟨String.ofList result, ?_, ?_⟩
  · rw [String.toList_ofList]
    exact rewrites
  · rw [List.append_nil] at applied
    rw [applyAll_eq, applied]
    rfl

/-- Edits that fit a source go through, in whatever order they are given, and rewrite it. -/
theorem Fit.exists_applyAll_eq_ok {source : String} {edits : List Edit}
    (fit : Fit source.toList edits) (short : Text.byteLength source.toList < UInt64.size) :
    ∃ ascending result, ascending.Perm edits ∧
      Rewrites 0 ascending source.toList result.toList ∧ applyAll source edits = .ok result := by
  have editsShort : ∀ edit ∈ edits, edit.endOffset < UInt64.size := by
    intro edit member
    exact Nat.lt_of_le_of_lt (fit.found edit member).end_le short
  rcases fit.applyAll_eq_ok editsShort with ⟨result, rewrites, applied⟩
  exact ⟨_, result, (List.reverse_perm _).trans (descending_perm edits), rewrites, applied⟩

end Edit

end PlaceholderTyping
