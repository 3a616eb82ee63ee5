import PlaceholderTyping.Json.Value

/-!
# JSON tokens

The words of a JSON text: its punctuation marks, and the values that are no containers.
-/

namespace PlaceholderTyping.Json

inductive Token where
  | leftBracket
  | rightBracket
  | leftBrace
  | rightBrace
  | comma
  | colon
  | scalar (value : Value)

/-! ## Strings -/

inductive StringUnit where
  | plain (character : Char)
  | coded (unit : Nat)

namespace StringUnit

def shortEscape? : Char → Option Char
  | '"' => some '"'
  | '\\' => some '\\'
  | '/' => some '/'
  | 'b' => some '\x08'
  | 'f' => some '\x0C'
  | 'n' => some '\n'
  | 'r' => some '\r'
  | 't' => some '\t'
  | _ => none

def hexDigit? (digit : Char) : Option Nat :=
  if digit.isDigit then some (digit.toNat - '0'.toNat)
  else if 'a' ≤ digit ∧ digit ≤ 'f' then some (digit.toNat - 'a'.toNat + 10)
  else if 'A' ≤ digit ∧ digit ≤ 'F' then some (digit.toNat - 'A'.toNat + 10)
  else none

def codeUnit? (digits : List Char) : Option Nat := do
  let values ← digits.mapM hexDigit?
  return values.foldl (fun number digit => number * 16 + digit) 0

/-- The units up to the closing quote, and the text behind it. Control characters have to be
escaped. -/
def untilQuote? : List Char → Option (List StringUnit × List Char)
  | [] => none
  | '"' :: rest => some ([], rest)
  | '\\' :: 'u' :: first :: second :: third :: fourth :: rest => do
      let unit ← codeUnit? [first, second, third, fourth]
      let (units, after) ← untilQuote? rest
      return (.coded unit :: units, after)
  | '\\' :: mark :: rest => do
      let character ← shortEscape? mark
      let (units, after) ← untilQuote? rest
      return (.plain character :: units, after)
  | character :: rest =>
      if character.toNat < 0x20 then
        none
      else do
        let (units, after) ← untilQuote? rest
        return (.plain character :: units, after)

/-- What follows the closing quote is shorter than what held it. -/
theorem length_untilQuote? {text after : List Char} {units : List StringUnit}
    (found : untilQuote? text = some (units, after)) : after.length < text.length := by
  fun_induction untilQuote? text generalizing units after with
  | case1 => simp at found
  | case2 => simp_all
  | case3 first second third fourth rest ih =>
      simp only [bind, Option.bind_eq_some_iff, Prod.exists] at found
      rcases found with ⟨_, _, _, _, inner, same⟩
      have := ih inner
      simp_all
      omega
  | case4 mark rest _ ih =>
      simp only [bind, Option.bind_eq_some_iff, Prod.exists] at found
      rcases found with ⟨_, _, _, _, inner, same⟩
      have := ih inner
      simp_all
      omega
  | case5 => cases found
  | case6 character rest _ _ _ _ ih =>
      simp only [bind, Option.bind_eq_some_iff, Prod.exists] at found
      rcases found with ⟨_, _, inner, same⟩
      have := ih inner
      simp_all
      omega

/-- The first halves of surrogate pairs. -/
def isLeading (unit : Nat) : Bool :=
  0xD800 ≤ unit && unit ≤ 0xDBFF

/-- The second halves of surrogate pairs. -/
def isTrailing (unit : Nat) : Bool :=
  0xDC00 ≤ unit && unit ≤ 0xDFFF

/-- The characters that the units spell. Two code units make one character when they form a
surrogate pair. -/
def characters : List StringUnit → Except SurrogateDefect (List Char)
  | [] => .ok []
  | .plain character :: rest => (character :: ·) <$> characters rest
  | .coded unit :: rest =>
      if isTrailing unit then
        .error .unpaired
      else if isLeading unit then
        match rest with
        | .coded partner :: rest =>
            if isTrailing partner then
              let code := 0x10000 + (unit - 0xD800) * 0x400 + (partner - 0xDC00)
              (Char.ofNat code :: ·) <$> characters rest
            else
              .error .unpaired
        | _ => .error .unfinished
      else
        (Char.ofNat unit :: ·) <$> characters rest

def content (units : List StringUnit) : Content :=
  String.ofList <$> characters units

end StringUnit

namespace Token

/-! ## Words -/

def punctuation? : Char → Option Token
  | '[' => some .leftBracket
  | ']' => some .rightBracket
  | '\x7b' => some .leftBrace
  | '\x7d' => some .rightBrace
  | ',' => some .comma
  | ':' => some .colon
  | _ => none

def isSpace (character : Char) : Bool :=
  character == ' ' || character == '\n' || character == '\r' || character == '\t'

def isWordCharacter (character : Char) : Bool :=
  character.isAlphanum || character == '+' || character == '-' || character == '.'

def wordValue? (word : List Char) : Option Value :=
  match String.ofList word with
  | "null" => some .null
  | "true" => some (.boolean true)
  | "false" => some (.boolean false)
  | _ => (Numeral.ofText? word).map fun numeral => .number numeral.value

/-- The words of a text, if it consists of words. A word of letters and digits reaches as far as it
can: no value may follow another without a mark between them. -/
def ofText? : List Char → Option (List Token)
  | [] => some []
  | character :: rest =>
      if isSpace character then
        ofText? rest
      else if character = '"' then
        match _found : StringUnit.untilQuote? rest with
        | none => none
        | some (units, after) =>
            (ofText? after).map (.scalar (.string (StringUnit.content units)) :: ·)
      else if isWordCharacter character then do
        let value ← wordValue? (character :: rest.takeWhile isWordCharacter)
        let tokens ← ofText? (rest.dropWhile isWordCharacter)
        return .scalar value :: tokens
      else do
        let token ← punctuation? character
        let tokens ← ofText? rest
        return token :: tokens
termination_by text => text.length
decreasing_by
  · simp
  · have := StringUnit.length_untilQuote? _found
    simp
    omega
  · have := (List.dropWhile_sublist isWordCharacter (l := rest)).length_le
    simp
    omega
  · simp

end Token

end PlaceholderTyping.Json
