import PlaceholderTyping.Text.Inkless

/-!
# Quoted texts

The spelling of a text inside double quotes, in a form that shows every character.
-/

namespace PlaceholderTyping.Text

def hexadecimal (number : Nat) : String :=
  String.ofList (Nat.toDigits 16 number)

/-- A backslash stands before quotes and backslashes, tab, line feed, carriage return and NUL have
short names, and characters without ink are spelled by code point. -/
def escapeCharacter (character : Char) : String :=
  match character with
  | '\x00' => "\\0"
  | '\t' => "\\t"
  | '\n' => "\\n"
  | '\r' => "\\r"
  | '"' => "\\\""
  | '\\' => "\\\\"
  | _ =>
      if isInkless character then
        "\\u\x7b" ++ hexadecimal character.toNat ++ "\x7d"
      else
        character.toString

def quote (text : String) : String :=
  "\"" ++ String.join (text.toList.map escapeCharacter) ++ "\""

end PlaceholderTyping.Text
