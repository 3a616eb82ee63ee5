/-!
# Byte offsets

Positions in a text count the bytes of its UTF-8 encoding. `splitAtByte` cuts a text at such a
position, which succeeds exactly at the boundaries between characters.
-/

namespace PlaceholderTyping.Text

def byteLength : List Char → Nat
  | [] => 0
  | character :: rest => character.utf8Size + byteLength rest

/-- The most bytes that a text can have, `2 ^ 63 - 1`. -/
def maxByteLength : Nat := 9223372036854775807

/-- The parts of a text before and after a byte offset. There are none when the offset lies past
the end or inside a character. -/
def splitAtByte : Nat → List Char → Option (List Char × List Char)
  | 0, text => some ([], text)
  | _ + 1, [] => none
  | offset + 1, character :: rest =>
      if character.utf8Size ≤ offset + 1 then
        (splitAtByte (offset + 1 - character.utf8Size) rest).map fun (before, after) =>
          (character :: before, after)
      else
        none

example : splitAtByte 3 ['a', 'é', 'b'] = some (['a', 'é'], ['b']) := by decide

example : splitAtByte 2 ['a', 'é', 'b'] = none := by decide

@[simp] theorem byteLength_nil : byteLength [] = 0 := rfl

@[simp] theorem byteLength_cons (character : Char) (rest : List Char) :
    byteLength (character :: rest) = character.utf8Size + byteLength rest := rfl

@[simp] theorem byteLength_append (left right : List Char) :
    byteLength (left ++ right) = byteLength left + byteLength right := by
  induction left with
  | nil => simp
  | cons character rest ih => simp [ih, Nat.add_assoc]

/-- The cuts of a text are the ways to write it as two parts, each at the byte length of the
first part. -/
theorem splitAtByte_eq_some_iff {offset : Nat} {text before after : List Char} :
    splitAtByte offset text = some (before, after) ↔
      text = before ++ after ∧ byteLength before = offset := by
  induction text generalizing offset before with
  | nil => cases offset <;> cases before <;> simp [splitAtByte, eq_comm]
  | cons character rest ih =>
      have positive := character.utf8Size_pos
      cases offset with
      | zero =>
          cases before with
          | nil => simp [splitAtByte, eq_comm]
          | cons first more =>
              have firstPositive := first.utf8Size_pos
              simp [splitAtByte]
              omega
      | succ offset =>
          cases before with
          | nil => simp [splitAtByte]
          | cons first more =>
              simp only [splitAtByte, Option.ite_none_right_eq_some, Option.map_eq_some_iff,
                Prod.exists, Prod.mk.injEq, List.cons.injEq, List.cons_append, byteLength_cons]
              constructor
              · rintro ⟨fits, _, _, cut, ⟨rfl, rfl⟩, rfl⟩
                rcases ih.1 cut with ⟨rfl, short⟩
                exact ⟨⟨rfl, rfl⟩, by omega⟩
              · rintro ⟨⟨rfl, rfl⟩, long⟩
                exact ⟨by omega, more, after, ih.2 ⟨rfl, by omega⟩, ⟨rfl, rfl⟩, rfl⟩

end PlaceholderTyping.Text
