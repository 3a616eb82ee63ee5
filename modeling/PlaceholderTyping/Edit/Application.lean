import PlaceholderTyping.Edit.Basic
import PlaceholderTyping.Text.ByteOffset

/-!
# Applying edits

Edits are applied from the highest location down, so that what is still to be edited keeps its
offsets. The text above the last edit is finished. Since an edit must not reach into the one above
it, each edit meets the source as it was.
-/

namespace PlaceholderTyping

namespace Edit

/-- The byte offset behind the old text. It is a sum in 64 bits, which starts over from zero when
it passes the largest offset. -/
def stop (edit : Edit) : Nat :=
  (edit.location + Text.byteLength edit.old.toList) % UInt64.size

def check (sourceLength : Nat) (edit : Edit) (lower : Option Edit) : Except EditError Unit := do
  if edit.old.isEmpty then
    throw (.emptyOld edit)
  if edit.new.isEmpty then
    throw (.emptyNew edit)
  if sourceLength < edit.stop then
    throw (.outOfBounds edit)
  if let some lower := lower then
    if edit.location < lower.stop then
      throw (.overlap lower edit)

/-- Cuts the stretch of the old text's length out of a text, which gives what stands before, inside
and after it. There is no such stretch if the end starts over in front of the edit. -/
def cut? (edit : Edit) (text : List Char) : Option (List Char × List Char × List Char) := do
  guard (edit.location ≤ edit.stop)
  let (before, rest) ← Text.splitAtByte edit.location text
  let (inside, after) ← Text.splitAtByte (Text.byteLength edit.old.toList) rest
  return (before, inside, after)

def applyDescending (sourceLength : Nat) (pending finished : List Char) :
    List Edit → Except EditError (List Char)
  | [] => .ok (pending ++ finished)
  | edit :: lower => do
      edit.check sourceLength lower.head?
      match edit.cut? pending with
      | none => throw (.outOfBounds edit)
      | some (before, inside, after) =>
          if inside ≠ edit.old.toList then
            throw (.mismatch edit (String.ofList inside))
          applyDescending sourceLength before (edit.new.toList ++ after ++ finished) lower

/-- Applies edits to a source. They may be given in any order; of edits at the same location the
one given first counts as the higher. -/
def applyAll (source : String) (edits : List Edit) : Except EditError String :=
  let descending := edits.mergeSort fun left right => right.location ≤ left.location
  String.ofList <$> applyDescending (Text.byteLength source.toList) source.toList [] descending

end Edit

end PlaceholderTyping
