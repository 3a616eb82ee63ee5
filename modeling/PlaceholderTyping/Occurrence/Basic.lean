import PlaceholderTyping.Tree.Basic

/-!
# Occurrences

An appearance of a placeholder with what surrounds it, which is all that its type is read off.
-/

namespace PlaceholderTyping

/-- The immediate context of a placeholder: a limit of the rows, or a node that it stands under. A
placeholder that stands under nothing is its own context. -/
inductive Context where
  | limit
  | offset
  | node (parent : Node)

namespace Context

def tag : Context → String
  | .limit => "LimitCount"
  | .offset => "LimitOffset"
  | .node parent => parent.kind.tag

end Context

/-- An appearance of a placeholder. `table` is the table that it is assigned into, or else the one
mentioned last before it; `rename` is a name that was given to this appearance. -/
structure Occurrence where
  placeholder : Placeholder
  context : Context
  table : Option TableRef := none
  rename : Option String := none

end PlaceholderTyping
