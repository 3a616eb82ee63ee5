import PlaceholderTyping.Json.Token

/-!
# Reading JSON texts

A text is read word by word. The containers that are still open lie on a stack, so the nesting of a
text may be as deep as it likes.
-/

namespace PlaceholderTyping.Json

inductive Frame where
  | element (earlier : List Value)
  | member (earlier : List (Content × Value)) (key : Content)

inductive ReadState where
  /-- A value has to come. -/
  | beforeValue (stack : List Frame)
  /-- An array was opened: an element or its end. -/
  | openedArray (stack : List Frame)
  /-- An element was read: a comma or the end of the array. -/
  | afterElement (elements : List Value) (stack : List Frame)
  /-- An object was opened: a key or its end. -/
  | openedObject (stack : List Frame)
  /-- A comma was read inside an object: a key. -/
  | beforeKey (members : List (Content × Value)) (stack : List Frame)
  /-- A key was read: the colon behind it. -/
  | afterKey (members : List (Content × Value)) (key : Content) (stack : List Frame)
  /-- A member was read: a comma or the end of the object. -/
  | afterMember (members : List (Content × Value)) (stack : List Frame)
  /-- The outermost value is complete: nothing. -/
  | finished (value : Value)

namespace ReadState

def complete (value : Value) : List Frame → ReadState
  | [] => .finished value
  | .element earlier :: stack => .afterElement (value :: earlier) stack
  | .member earlier key :: stack => .afterMember ((key, value) :: earlier) stack

def start? (stack : List Frame) : Token → Option ReadState
  | .scalar value => some (complete value stack)
  | .leftBracket => some (.openedArray stack)
  | .leftBrace => some (.openedObject stack)
  | _ => none

def step? : ReadState → Token → Option ReadState
  | .beforeValue stack, token => start? stack token
  | .openedArray stack, .rightBracket => some (complete (.array []) stack)
  | .openedArray stack, token => start? (.element [] :: stack) token
  | .afterElement elements stack, .comma => some (.beforeValue (.element elements :: stack))
  | .afterElement elements stack, .rightBracket =>
      some (complete (.array elements.reverse) stack)
  | .openedObject stack, .rightBrace => some (complete (.object []) stack)
  | .openedObject stack, .scalar (.string key) => some (.afterKey [] key stack)
  | .beforeKey members stack, .scalar (.string key) => some (.afterKey members key stack)
  | .afterKey members key stack, .colon => some (.beforeValue (.member members key :: stack))
  | .afterMember members stack, .comma => some (.beforeKey members stack)
  | .afterMember members stack, .rightBrace => some (complete (.object members.reverse) stack)
  | _, _ => none

end ReadState

def Value.ofText? (text : String) : Option Value := do
  let tokens ← Token.ofText? text.toList
  match ← tokens.foldlM ReadState.step? (.beforeValue []) with
  | .finished value => some value
  | _ => none

end PlaceholderTyping.Json
