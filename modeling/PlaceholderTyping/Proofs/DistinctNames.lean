import Mathlib.Data.List.Induction
import Mathlib.Data.List.Nodup

/-!
# Distinct names

The names in a list, each once, in the order in which they first appear, and what becomes of them
when one more name comes at the end.
-/

namespace PlaceholderTyping

theorem eraseDups_concat (names : List String) (last : String) :
    (names ++ [last]).eraseDups =
      if last ∈ names then names.eraseDups else names.eraseDups ++ [last] := by
  rw [List.eraseDups_append]
  by_cases known : last ∈ names <;> simp [List.removeAll, List.eraseDups_cons, known]

theorem nodup_eraseDups (names : List String) : names.eraseDups.Nodup := by
  induction names using List.reverseRecOn with
  | nil => exact .nil
  | append_singleton names last induction =>
      rw [eraseDups_concat]
      split
      · exact induction
      · next new =>
          rw [← List.concat_eq_append]
          exact induction.concat (mt List.mem_eraseDups.mp new)

theorem idxOf_eraseDups_concat {name : String} (names : List String) (last : String)
    (member : name ∈ names ++ [last]) :
    (names ++ [last]).eraseDups.idxOf name = names.eraseDups.idxOf name := by
  rw [eraseDups_concat]
  split
  · rfl
  · next new =>
      rcases List.mem_append.mp member with earlier | isLast
      · exact List.idxOf_append_of_mem (List.mem_eraseDups.mpr earlier)
      · have isLast := List.mem_singleton.mp isLast
        have absent : name ∉ names.eraseDups := by
          rw [isLast, List.mem_eraseDups]
          exact new
        rw [List.idxOf_append_of_notMem absent, List.idxOf_of_notMem absent, isLast,
          List.idxOf_cons_self]
        rfl

end PlaceholderTyping
