/-!
# Blanks

The characters that count as white space around a name, and texts without the blanks at their ends.
-/

namespace PlaceholderTyping.Text

/-- The characters with the Unicode property `White_Space`. -/
def isBlank (character : Char) : Bool :=
  let code := character.toNat
  (0x9 ≤ code && code ≤ 0xD) || code == 0x20 || code == 0x85 || code == 0xA0 || code == 0x1680 ||
    (0x2000 ≤ code && code ≤ 0x200A) || code == 0x2028 || code == 0x2029 || code == 0x202F ||
    code == 0x205F || code == 0x3000

def trim (text : List Char) : List Char :=
  ((text.dropWhile isBlank).reverse.dropWhile isBlank).reverse

example : trim [' ', 'a', ' ', 'b', '\t'] = ['a', ' ', 'b'] := by decide

end PlaceholderTyping.Text
