import Mathlib
import PlaceholderTyping.Proofs.Edit.InPlace

/-!
# Which edits are accepted

Only neighbours are compared, but each edit is cut out of what stands before the edits above it. So
edits that go through are found in the source and keep apart from each other, all of them, and what
comes out is determined by the edits and not by the order in which they were given.
-/

namespace PlaceholderTyping

namespace Text

theorem HasAt.append {start part : List Char} {offset : Nat} (has : HasAt start offset part)
    (rest : List Char) : HasAt (start ++ rest) offset part := by
  rcases has with ⟨before, after, rfl, located⟩
  exact ⟨before, after ++ rest, List.append_assoc _ _ _, located⟩

/-- A text is cut at an offset in one way only. -/
theorem append_inj {before after otherBefore otherAfter : List Char}
    (same : before ++ after = otherBefore ++ otherAfter)
    (sameOffset : byteLength before = byteLength otherBefore) :
    before = otherBefore ∧ after = otherAfter := by
  have cut : splitAtByte (byteLength otherBefore) (before ++ after) = some (before, after) :=
    splitAtByte_eq_some_iff.mpr ⟨rfl, sameOffset⟩
  have otherCut := splitAtByte_eq_some_iff.mpr ⟨same, rfl⟩
  simpa using cut.symm.trans otherCut

end Text

namespace Edit

/-! ## What was accepted -/

theorem applyDescending_cons_eq_ok_iff {sourceLength : Nat} {edit : Edit} {lower : List Edit}
    {pending finished result : List Char} :
    applyDescending sourceLength pending finished (edit :: lower) = .ok result ↔
      edit.check sourceLength lower.head? = .ok () ∧
        ∃ before after, edit.cut? pending = some (before, edit.old.toList, after) ∧
          applyDescending sourceLength before (edit.new.toList ++ after ++ finished) lower =
            .ok result := by
  constructor
  · intro applied
    rw [applyDescending, bind_eq_ok_iff] at applied
    rcases applied with ⟨_, checked, applied⟩
    cases found : edit.cut? pending with
    | none =>
        rw [found] at applied
        cases applied
    | some parts =>
        rcases parts with ⟨before, inside, after⟩
        simp only [found, ite_throw_bind_eq_ok_iff, ne_eq, not_not] at applied
        rcases applied with ⟨rfl, applied⟩
        exact ⟨checked, before, after, rfl, applied⟩
  · rintro ⟨checked, before, after, found, applied⟩
    rw [applyDescending_cons_eq checked found]
    exact applied

/-- Edits that lie below an offset, and one there, fit together. -/
theorem Fit.cons {before after : List Char} {edit : Edit} {lower : List Edit}
    (fit : Fit before lower) (old : edit.old ≠ "") (new : edit.new ≠ "")
    (located : Text.byteLength before = edit.location) :
    Fit (before ++ edit.old.toList ++ after) (edit :: lower) where
  old_ne_empty := List.forall_mem_cons.mpr ⟨old, fit.old_ne_empty⟩
  new_ne_empty := List.forall_mem_cons.mpr ⟨new, fit.new_ne_empty⟩
  found := by
    rw [List.forall_mem_cons]
    refine ⟨⟨before, after, rfl, located⟩, ?_⟩
    intro other member
    rw [List.append_assoc]
    exact (fit.found other member).append _
  apart := by
    refine fit.apart.cons ?_
    intro other member
    apply Or.inr
    rw [← located]
    exact (fit.found other member).end_le

theorem fit_of_applyDescending_eq_ok {sourceLength : Nat} {pending finished result : List Char}
    {edits : List Edit}
    (applied : applyDescending sourceLength pending finished edits = .ok result) :
    Fit pending edits := by
  induction edits generalizing pending finished with
  | nil => exact ⟨nofun, nofun, nofun, .nil⟩
  | cons edit lower induction =>
      rcases applyDescending_cons_eq_ok_iff.mp applied with
        ⟨checked, before, after, found, lowerApplied⟩
      rcases cut?_eq_some_iff.mp found with ⟨rfl, located, -⟩
      rcases check_eq_ok_iff.mp checked with ⟨old, new, -⟩
      exact (induction lowerApplied).cons old new located

theorem fit_of_applyAll_eq_ok {source result : String} {edits : List Edit}
    (applied : applyAll source edits = .ok result) : Fit source.toList edits := by
  rw [applyAll_eq, map_eq_ok_iff] at applied
  rcases applied with ⟨_, applied, -⟩
  exact (fit_of_applyDescending_eq_ok applied).perm (descending_perm edits)

/-! ## What comes out -/

theorem Rewrites.unique {position : Nat} {edits : List Edit} {source first second : List Char}
    (rewrites : Rewrites position edits source first)
    (alsoRewrites : Rewrites position edits source second) : first = second := by
  induction rewrites generalizing second with
  | done position text =>
      cases alsoRewrites
      rfl
  | @step position edit edits source result kept located rest induction =>
      generalize split : kept ++ edit.old.toList ++ source = text at alsoRewrites
      cases alsoRewrites with
      | step otherKept otherLocated otherRest =>
          have sameOffset : Text.byteLength kept = Text.byteLength otherKept := by omega
          rw [List.append_assoc, List.append_assoc] at split
          rcases Text.append_inj split sameOffset with ⟨rfl, sameRest⟩
          rw [List.append_cancel_left sameRest] at induction
          rw [induction otherRest]

/-- No two of the edits that fit a source start at the same place. -/
theorem Fit.eq_of_location_eq {source : List Char} {edits : List Edit} (fit : Fit source edits)
    {left right : Edit} (leftIn : left ∈ edits) (rightIn : right ∈ edits)
    (same : left.location = right.location) : left = right := by
  by_contra different
  have : Std.Symm Apart := ⟨fun _ _ => Apart.symm⟩
  have leftLong := location_lt_endOffset (fit.old_ne_empty left leftIn)
  have rightLong := location_lt_endOffset (fit.old_ne_empty right rightIn)
  rcases fit.apart.forall leftIn rightIn different with leftFirst | rightFirst <;> omega

theorem Fit.eq_reverse_descending {source : List Char} {edits ascending : List Edit}
    (fit : Fit source edits) (perm : ascending.Perm edits)
    (sorted : ascending.Pairwise fun lower upper => lower.location ≤ upper.location) :
    ascending = (descending edits).reverse := by
  have sortedToo := List.pairwise_reverse.mpr (pairwise_descending edits)
  have samePerm : (descending edits).reverse.Perm edits :=
    (List.reverse_perm _).trans (descending_perm edits)
  refine List.Perm.eq_of_pairwise ?_ sorted sortedToo (perm.trans samePerm.symm)
  intro left right leftIn rightIn below above
  exact fit.eq_of_location_eq (perm.mem_iff.mp leftIn) (samePerm.mem_iff.mp rightIn)
    (Nat.le_antisymm below above)

/-- Edits that end within 64 bits, in any order, go through exactly if each has something to replace
and to put in its place, each finds its old text between two boundaries of the source, and no two
of them overlap. What comes out is then the source with nothing but the stretches of the edits
replaced, from left to right. A copy of the source in which one stretch after the other is replaced
comes to the same outcome, and is never cut inside a character on the way. -/
theorem exists_applyAll_eq_ok_iff_fit (source : String) (edits : List Edit)
    (short : ∀ edit ∈ edits, edit.endOffset < UInt64.size) :
    ((∃ result, applyAll source edits = .ok result) ↔ Fit source.toList edits) ∧
      (∀ result ascending, applyAll source edits = .ok result → ascending.Perm edits →
        ascending.Pairwise (fun lower upper => lower.location ≤ upper.location) →
        ∀ text, Rewrites 0 ascending source.toList text ↔ text = result.toList) ∧
      applyAllInPlace source edits = some (applyAll source edits) := by
  refine ⟨⟨?accepted, ?fits⟩, ?rewritten, applyAllInPlace_eq source short⟩
  case accepted =>
    rintro ⟨result, applied⟩
    exact fit_of_applyAll_eq_ok applied
  case fits =>
    intro fit
    rcases fit.applyAll_eq_ok short with ⟨result, -, applied⟩
    exact ⟨result, applied⟩
  case rewritten =>
    intro result ascending applied perm sorted text
    have fit := fit_of_applyAll_eq_ok applied
    rcases fit.applyAll_eq_ok short with ⟨same, rewrites, sameApplied⟩
    rw [applied, Except.ok.injEq] at sameApplied
    subst sameApplied
    rw [fit.eq_reverse_descending perm sorted]
    constructor
    · intro alsoRewrites
      exact alsoRewrites.unique rewrites
    · rintro rfl
      exact rewrites

def aroundTwoBytes : List Edit :=
  [⟨17, "@b", "$10"⟩, ⟨21, "@a", "$1"⟩, ⟨7, "@c", "$2"⟩]

theorem applyAll_aroundTwoBytes :
    applyAll "SELECT @c, 'é', @b, @a" aroundTwoBytes = .ok "SELECT $2, 'é', $10, $1" := by
  cbv

theorem fit_aroundTwoBytes :
    Fit "SELECT @c, 'é', @b, @a".toList aroundTwoBytes ∧
      (∀ text,
        Rewrites 0 [⟨7, "@c", "$2"⟩, ⟨17, "@b", "$10"⟩, ⟨21, "@a", "$1"⟩]
            "SELECT @c, 'é', @b, @a".toList text ↔
          text = "SELECT $2, 'é', $10, $1".toList) ∧
      applyAllInPlace "SELECT @c, 'é', @b, @a" aroundTwoBytes =
        some (.ok "SELECT $2, 'é', $10, $1") := by
  have short : ∀ edit ∈ aroundTwoBytes, edit.endOffset < UInt64.size := by decide
  rcases exists_applyAll_eq_ok_iff_fit "SELECT @c, 'é', @b, @a" aroundTwoBytes short with
    ⟨accepted_iff, rewritten, inPlace⟩
  refine ⟨accepted_iff.mp ⟨_, applyAll_aroundTwoBytes⟩, ?_, ?_⟩
  · exact rewritten _ _ applyAll_aroundTwoBytes (by decide) (by decide)
  · rw [inPlace, applyAll_aroundTwoBytes]

end Edit

end PlaceholderTyping
