import Mathlib
import PlaceholderTyping.Proofs.Edit.Refusal

/-!
# Edits that end beyond 64 bits

The end of an edit is a sum in 64 bits, so an edit near the largest offset seems to end near the
start of the source. That can only be the edit that is looked at first: no other is looked at before
one above it is known to end within the source. Such an edit is still refused, since no stretch of
the source ends before it starts. But the next lower edit is compared with it before that comes out,
and then the two may be reported to overlap.
-/

namespace PlaceholderTyping.Edit

variable {source : String} {edits ordered : List Edit} {edit next : Edit}

/-! ## The edit that is looked at first -/

/-- Of the edits at the highest location, the one that was given first. -/
structure IsTopmost (edits : List Edit) (edit : Edit) : Prop where
  highest : ∀ other ∈ edits, other.location ≤ edit.location
  first : edits.find? (·.location = edit.location) = some edit

theorem IsTopmost.mem (topmost : IsTopmost edits edit) : edit ∈ edits :=
  List.mem_of_find?_eq_some topmost.first

theorem IsTopmost.unique {other : Edit} (topmost : IsTopmost edits edit)
    (otherTopmost : IsTopmost edits other) : edit = other := by
  have sameLocation : edit.location = other.location :=
    Nat.le_antisymm (otherTopmost.highest edit topmost.mem) (topmost.highest other otherTopmost.mem)
  have first := topmost.first
  rw [sameLocation, otherTopmost.first] at first
  exact (Option.some.inj first).symm

structure Arranges (ordered edits : List Edit) : Prop where
  perm : ordered.Perm edits
  sorted : ordered.Pairwise fun upper lower => lower.location ≤ upper.location
  level (offset : Nat) :
    ordered.filter (·.location = offset) = edits.filter (·.location = offset)

theorem arranges_descending (edits : List Edit) : Arranges (descending edits) edits where
  perm := descending_perm edits
  sorted := pairwise_descending edits
  level offset := by
    have level : (edits.filter (·.location = offset)).Pairwise
        fun upper lower => lower.location ≤ upper.location := by
      refine List.pairwise_of_forall_mem_list fun upper upperIn lower lowerIn => ?_
      simp only [List.mem_filter, decide_eq_true_eq] at upperIn lowerIn
      omega
    have kept := (sublist_descending level List.filter_sublist).filter (·.location = offset)
    simp only [List.filter_filter, Bool.and_self] at kept
    exact (kept.eq_of_length ((descending_perm edits).filter _).length_eq.symm).symm

theorem Arranges.tail {lower : List Edit} (arranges : Arranges (edit :: lower) edits) :
    Arranges lower (edits.erase edit) where
  perm := by
    have rest := arranges.perm.erase edit
    rwa [List.erase_cons_head] at rest
  sorted := arranges.sorted.of_cons
  level offset := by
    rw [← List.erase_filter, ← arranges.level, List.erase_filter, List.erase_cons_head]

theorem Arranges.isTopmost {lower : List Edit} (arranges : Arranges (edit :: lower) edits) :
    IsTopmost edits edit where
  highest other member := by
    rcases List.mem_cons.mp (arranges.perm.mem_iff.mpr member) with rfl | inLower
    · exact Nat.le_refl _
    · exact List.rel_of_pairwise_cons arranges.sorted inLower
  first := by
    rw [← List.head?_filter, ← arranges.level, List.filter_cons_of_pos (by simp), List.head?_cons]

theorem Arranges.head?_eq_some_iff (arranges : Arranges ordered edits) :
    ordered.head? = some edit ↔ IsTopmost edits edit := by
  cases ordered with
  | nil =>
      obtain rfl := arranges.perm.nil_eq
      refine ⟨nofun, ?_⟩
      intro topmost
      cases topmost.mem
  | cons top lower =>
      rw [List.head?_cons, Option.some.injEq]
      constructor
      · rintro rfl
        exact arranges.isTopmost
      · exact arranges.isTopmost.unique

/-! ## An end that starts over -/

/-- The topmost edit seems to end within the source, since its end starts over, and the next edit
ends behind its start. -/
structure OverlapsBeyondEnd (source : List Char) (edits : List Edit) (upper lower : Edit) :
    Prop where
  isNext : IsTopmost (edits.erase upper) lower
  startsOver : UInt64.size ≤ upper.endOffset
  inside : upper.stop ≤ Text.byteLength source
  short : lower.endOffset < UInt64.size
  reaches : upper.location < lower.endOffset

theorem location_lt_stop_iff (below : next.location ≤ edit.location)
    (text : Text.byteLength next.old.toList < UInt64.size) :
    edit.location < next.stop ↔
      next.endOffset < UInt64.size ∧ edit.location < next.endOffset := by
  by_cases short : next.endOffset < UInt64.size
  · rw [stop_eq_endOffset short]
    exact (and_iff_right short).symm
  · have inFront := stop_lt_location (Nat.le_of_not_lt short) text
    refine ⟨fun reaches => ?_, fun reaches => absurd reaches.1 short⟩
    omega

theorem startsOver_of_stop_le {sourceLength : Nat} (beyond : sourceLength < edit.endOffset)
    (inside : edit.stop ≤ sourceLength) : UInt64.size ≤ edit.endOffset := by
  by_contra short
  rw [stop_eq_endOffset (Nat.lt_of_not_le short)] at inside
  omega

theorem cut?_eq_none_of_stop_lt (inFront : edit.stop < edit.location) (text : List Char) :
    edit.cut? text = none := by
  rw [Option.eq_none_iff_forall_ne_some]
  rintro ⟨before, inside, after⟩ found
  have ordered := (cut?_eq_some_iff.mp found).2.2.2
  omega

theorem check_eq_overlap {sourceLength : Nat} (old : edit.old ≠ "") (new : edit.new ≠ "")
    (inside : edit.stop ≤ sourceLength) (reaches : edit.location < next.stop) :
    edit.check sourceLength (some next) = .error (.overlap next edit) := by
  unfold check
  simp only [ite_throw_bind_eq_error_iff, String.isEmpty_iff]
  exact .inr ⟨old, .inr ⟨new, .inr ⟨Nat.not_lt.mpr inside,
    ite_throw_eq_error_iff.mpr (.inl ⟨reaches, rfl⟩)⟩⟩⟩

theorem check_eq_outOfBounds {sourceLength : Nat} {lower : Option Edit} (old : edit.old ≠ "")
    (new : edit.new ≠ "") (beyond : sourceLength < edit.stop) :
    edit.check sourceLength lower = .error (.outOfBounds edit) := by
  unfold check
  simp only [ite_throw_bind_eq_error_iff, String.isEmpty_iff]
  exact .inr ⟨old, .inr ⟨new, .inl ⟨beyond, trivial⟩⟩⟩

theorem applyDescending_cons_eq_error_of_check {sourceLength : Nat} {lower : List Edit}
    {error : EditError} (failed : edit.check sourceLength lower.head? = .error error)
    (pending finished : List Char) :
    applyDescending sourceLength pending finished (edit :: lower) = .error error := by
  rw [applyDescending, failed]
  rfl

/-- An edit that ends beyond the source is out of bounds, unless it passes the check for its end
and the next edit ends behind its start. -/
theorem applyDescending_cons_eq_outOfBounds {sourceLength : Nat} {lower : List Edit}
    (old : edit.old ≠ "") (new : edit.new ≠ "") (beyond : sourceLength < edit.endOffset)
    (text : Text.byteLength edit.old.toList < UInt64.size)
    (apart : edit.stop ≤ sourceLength → ∀ next ∈ lower.head?, next.stop ≤ edit.location)
    (pending finished : List Char) :
    applyDescending sourceLength pending finished (edit :: lower) = .error (.outOfBounds edit) := by
  by_cases inside : edit.stop ≤ sourceLength
  · have inFront := stop_lt_location (startsOver_of_stop_le beyond inside) text
    have checked : edit.check sourceLength lower.head? = .ok () :=
      check_eq_ok_iff.mpr ⟨old, new, inside, apart inside⟩
    rw [applyDescending, checked, cut?_eq_none_of_stop_lt inFront]
    rfl
  · exact applyDescending_cons_eq_error_of_check
      (check_eq_outOfBounds old new (Nat.lt_of_not_le inside)) _ _

theorem IsTopmost.exists_applyAll_eq (topmost : IsTopmost edits edit) :
    ∃ lower, Arranges (edit :: lower) edits ∧
      applyAll source edits = String.ofList <$>
        applyDescending (Text.byteLength source.toList) source.toList [] (edit :: lower) := by
  have arranges := arranges_descending edits
  rcases List.head?_eq_some_iff.mp (arranges.head?_eq_some_iff.mpr topmost) with ⟨lower, split⟩
  rw [split] at arranges
  exact ⟨lower, arranges, by rw [applyAll_eq, split]⟩

theorem OverlapsBeyondEnd.applyAll_eq_overlap (topmost : IsTopmost edits edit)
    (passes : OverlapsBeyondEnd source.toList edits edit next) (old : edit.old ≠ "")
    (new : edit.new ≠ "") : applyAll source edits = .error (.overlap next edit) := by
  rcases topmost.exists_applyAll_eq with ⟨lower, arranges, applied⟩
  have isNext : lower.head? = some next := arranges.tail.head?_eq_some_iff.mpr passes.isNext
  have reaches : edit.location < next.stop := by
    rw [stop_eq_endOffset passes.short]
    exact passes.reaches
  have failed : edit.check (Text.byteLength source.toList) lower.head? =
      .error (.overlap next edit) := by
    rw [isNext]
    exact check_eq_overlap old new passes.inside reaches
  rw [applied, map_eq_error_iff]
  exact applyDescending_cons_eq_error_of_check failed _ _

theorem IsTopmost.applyAll_eq_outOfBounds (topmost : IsTopmost edits edit) (old : edit.old ≠ "")
    (new : edit.new ≠ "") (beyond : Text.byteLength source.toList < edit.endOffset)
    (texts : ∀ edit ∈ edits, Text.byteLength edit.old.toList < UInt64.size)
    (noneReaches : ∀ next, ¬ OverlapsBeyondEnd source.toList edits edit next) :
    applyAll source edits = .error (.outOfBounds edit) := by
  rcases topmost.exists_applyAll_eq with ⟨lower, arranges, applied⟩
  rw [applied, map_eq_error_iff]
  refine applyDescending_cons_eq_outOfBounds old new beyond (texts edit topmost.mem) ?_ _ _
  intro inside next isNext
  have inLower : next ∈ lower := List.mem_of_head? isNext
  have nextIn : next ∈ edits := arranges.perm.mem_iff.mp (List.mem_cons_of_mem edit inLower)
  by_contra reaches
  rcases (location_lt_stop_iff (topmost.highest next nextIn) (texts next nextIn)).mp
    (Nat.lt_of_not_le reaches) with ⟨short, reaches⟩
  exact noneReaches next
    ⟨arranges.tail.head?_eq_some_iff.mp isNext, startsOver_of_stop_le beyond inside, inside, short,
      reaches⟩

/-! ## All outcomes -/

theorem Fit.exists_applyAll_eq_ok_of_texts (fit : Fit source.toList edits)
    (texts : ∀ edit ∈ edits,
      Text.byteLength source.toList + Text.byteLength edit.old.toList < UInt64.size) :
    ∃ result, applyAll source edits = .ok result := by
  have short : ∀ edit ∈ edits, edit.endOffset < UInt64.size := by
    intro edit member
    have inSource : edit.endOffset ≤ Text.byteLength source.toList :=
      (fit.found edit member).end_le
    have fits := texts edit member
    omega
  rcases fit.applyAll_eq_ok short with ⟨result, -, applied⟩
  exact ⟨result, applied⟩

/-- Edits at any locations, over texts that together fit into 64 bits. What an error says is so, and
the edits go through exactly if they fit the source. If the topmost edit ends within the source, all
edits end within 64 bits. If it ends beyond the source, and has something to replace and to put in
its place, it is out of bounds; only where its end starts over within the source and the next edit
reaches over its start, the two are said to overlap instead. -/
theorem applyAll_anywhere (source : String) (edits : List Edit)
    (texts : ∀ edit ∈ edits,
      Text.byteLength source.toList + Text.byteLength edit.old.toList < UInt64.size) :
    (∀ error, applyAll source edits = .error error → error.Holds source.toList edits) ∧
      ((∃ result, applyAll source edits = .ok result) ↔ Fit source.toList edits) ∧
      ∀ edit, IsTopmost edits edit →
        (edit.endOffset ≤ Text.byteLength source.toList →
          ∀ other ∈ edits, other.endOffset < UInt64.size) ∧
        (edit.old ≠ "" → edit.new ≠ "" → Text.byteLength source.toList < edit.endOffset →
          (∀ next, applyAll source edits = .error (.overlap next edit) ↔
            OverlapsBeyondEnd source.toList edits edit next) ∧
          (applyAll source edits = .error (.outOfBounds edit) ↔
            ∀ next, ¬ OverlapsBeyondEnd source.toList edits edit next)) := by
  have oldTexts : ∀ edit ∈ edits, Text.byteLength edit.old.toList < UInt64.size :=
    fun edit member => Nat.lt_of_le_of_lt (Nat.le_add_left _ _) (texts edit member)
  refine ⟨?holds, ⟨?accepted, ?fits⟩, fun edit topmost => ⟨?within, fun old new beyond => ?_⟩⟩
  case holds =>
    intro error failed
    rcases exists_refuses_of_applyAll_eq_error failed with ⟨above, edit, lower, perm, below, -,
      refuses⟩
    have member : edit ∈ edits :=
      perm.mem_iff.mpr (List.mem_append_right above List.mem_cons_self)
    have fits := texts edit member
    exact refuses.holds perm below fun _ => Nat.lt_of_le_of_lt (Nat.le_add_right _ _) fits
  case accepted =>
    rintro ⟨result, applied⟩
    exact fit_of_applyAll_eq_ok applied
  case fits =>
    intro fit
    exact fit.exists_applyAll_eq_ok_of_texts texts
  case within =>
    intro inside other member
    have below := topmost.highest other member
    have fits := texts other member
    rw [endOffset] at inside ⊢
    omega
  · have ofOverlap {next : Edit} (passes : OverlapsBeyondEnd source.toList edits edit next) :=
      passes.applyAll_eq_overlap topmost old new
    have otherwise := topmost.applyAll_eq_outOfBounds old new beyond oldTexts
    refine ⟨fun next => ⟨?_, ofOverlap⟩, ?_, otherwise⟩
    · intro failed
      by_contra notNext
      by_cases noneReaches : ∀ other, ¬ OverlapsBeyondEnd source.toList edits edit other
      · cases failed.symm.trans (otherwise noneReaches)
      · rcases not_forall_not.mp noneReaches with ⟨other, passes⟩
        cases failed.symm.trans (ofOverlap passes)
        exact notNext passes
    · intro failed next passes
      cases failed.symm.trans (ofOverlap passes)

def atLargestOffset : List Edit :=
  [⟨7, "@a", "$1"⟩, ⟨18446744073709551615, "@b", "$2"⟩]

theorem applyAll_atLargestOffset :
    (∀ edit ∈ atLargestOffset,
        Text.byteLength "SELECT @a".toList + Text.byteLength edit.old.toList < UInt64.size) ∧
      applyAll "SELECT @a" atLargestOffset =
        .error (.outOfBounds ⟨18446744073709551615, "@b", "$2"⟩) ∧
      ¬ Fit "SELECT @a".toList atLargestOffset := by
  have texts : ∀ edit ∈ atLargestOffset,
      Text.byteLength "SELECT @a".toList + Text.byteLength edit.old.toList < UInt64.size := by
    decide
  rcases applyAll_anywhere "SELECT @a" atLargestOffset texts with ⟨-, accepted, ofTopmost⟩
  have topmost : IsTopmost atLargestOffset ⟨18446744073709551615, "@b", "$2"⟩ :=
    ⟨by decide, by decide⟩
  rcases (ofTopmost _ topmost).2 (by decide) (by decide) (by decide) with ⟨-, outOfBounds⟩
  have failed := outOfBounds.mpr (by
    intro next passes
    have isLower : IsTopmost (atLargestOffset.erase ⟨18446744073709551615, "@b", "$2"⟩)
        ⟨7, "@a", "$1"⟩ := ⟨by decide, by decide⟩
    obtain rfl := passes.isNext.unique isLower
    exact absurd passes.reaches (by decide))
  refine ⟨texts, failed, fun fit => ?_⟩
  rcases accepted.mpr fit with ⟨result, applied⟩
  cases failed.symm.trans applied

/-- Both edits start beyond the end of the source, at offsets that fit into 64 bits, and the error
is one for edits that have a byte of the source in common. -/
theorem overlap_beyondEnd :
    let lower : Edit := ⟨18446744073709551613, "ab", "$1"⟩
    let upper : Edit := ⟨18446744073709551614, "abc", "$2"⟩
    upper.location < UInt64.size ∧ UInt64.size ≤ upper.endOffset ∧
      Text.byteLength "SELECT @a".toList < lower.location ∧
      Text.byteLength "SELECT @a".toList < upper.location ∧
      applyAll "SELECT @a" [lower, upper] = .error (.overlap lower upper) ∧
      applyAll "SELECT @a" [lower, upper] ≠ .error (.outOfBounds upper) := by
  intro lower upper
  have failed : applyAll "SELECT @a" [lower, upper] = .error (.overlap lower upper) := by cbv
  refine ⟨by decide, by decide, by decide, by decide, failed, ?_⟩
  rw [failed]
  decide

end PlaceholderTyping.Edit
