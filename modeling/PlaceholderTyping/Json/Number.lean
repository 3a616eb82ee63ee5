import PlaceholderTyping.Decimal.Shortest

/-!
# Numbers in JSON texts

A number is kept as a 64-bit integer where its spelling has neither fraction nor exponent and it
fits, and as a floating-point number otherwise. Spellings beyond the range of floating-point
numbers are numbers too, of no value.
-/

namespace PlaceholderTyping.Json

inductive Number where
  | integer (value : Int)
  | real (value : Float)
  | outOfRange

structure Numeral where
  negative : Bool
  whole : List Nat
  fraction : List Nat
  exponent : Option Int

namespace Numeral

def digits (text : List Char) : List Nat × List Char :=
  let (digits, rest) := text.span Char.isDigit
  (digits.map fun digit => digit.toNat - '0'.toNat, rest)

def ofDigits (digits : List Nat) : Nat :=
  digits.foldl (fun number digit => number * 10 + digit) 0

def fraction? : List Char → Option (List Nat × List Char)
  | '.' :: text =>
      match digits text with
      | ([], _) => none
      | found => some found
  | text => some ([], text)

def exponent? : List Char → Option (Option Int × List Char)
  | [] => some (none, [])
  | mark :: text =>
      if mark = 'e' ∨ mark = 'E' then
        let (negative, text) :=
          match text with
          | '-' :: rest => (true, rest)
          | '+' :: rest => (false, rest)
          | _ => (false, text)
        match digits text with
        | ([], _) => none
        | (found, rest) =>
            let magnitude : Int := ofDigits found
            some (some (if negative then -magnitude else magnitude), rest)
      else
        some (none, mark :: text)

/-- Reads a spelling: a whole part without superfluous zeros, then perhaps a fraction and an
exponent, and nothing else. -/
def ofText? (text : List Char) : Option Numeral := do
  let (negative, text) :=
    match text with
    | '-' :: rest => (true, rest)
    | _ => (false, text)
  let (whole, text) := digits text
  guard (whole = [0] ∨ (whole.head?.any (· != 0)))
  let (fraction, text) ← fraction? text
  let (exponent, text) ← exponent? text
  guard text.isEmpty
  return { negative, whole, fraction, exponent }

/-- Appends digits to a number for as long as it stays below `2 ^ 64`, and returns the digits that
were left out. -/
def absorb (number : Nat) : List Nat → Nat × List Nat
  | [] => (number, [])
  | digit :: rest =>
      if number * 10 + digit < UInt64.size then
        absorb (number * 10 + digit) rest
      else
        (number, digit :: rest)

/-- The number `value · 10 ^ exponent`, reached in steps of powers of ten that have a floating-point
value, or nothing when it is too large to have one. -/
def scaled? (value : Float) (exponent : Int) : Option Float :=
  if exponent.natAbs ≤ 308 then
    let power := Float.ofScientific 1 false exponent.natAbs
    if 0 ≤ exponent then
      if (value * power).isInf then none else some (value * power)
    else
      some (value / power)
  else if value == 0 then
    some value
  else if 0 ≤ exponent then
    none
  else
    scaled? (value / Float.ofScientific 1 false 308) (exponent + 308)
termination_by exponent.natAbs

/-- Integers keep their exact value between `-2 ^ 63` and `2 ^ 64`. Zero with a sign is a
floating-point number, and so are the integers out of that range. -/
def value (numeral : Numeral) : Number :=
  let (whole, skipped) := absorb 0 numeral.whole
  if numeral.fraction.isEmpty && numeral.exponent.isNone && skipped.isEmpty then
    if !numeral.negative then
      .integer whole
    else if whole = 0 ∨ UInt64.size / 2 < whole then
      .real (-(UInt64.ofNat whole).toFloat)
    else
      .integer (-whole)
  else
    let (significand, dropped) := absorb whole numeral.fraction
    let places : Int := numeral.fraction.length - dropped.length
    let exponent := skipped.length - places + numeral.exponent.getD 0
    match scaled? (UInt64.ofNat significand).toFloat exponent with
    | none => .outOfRange
    | some magnitude => .real (if numeral.negative then -magnitude else magnitude)

end Numeral

/-- A decimal is written positionally, with at least one digit on each side of the point, while the
point falls at most sixteen digits behind its first digit and at most four zeros before it. All
others are written with one digit before the point and an exponent with its sign, be it plus or
minus. -/
def decimalText (decimal : Decimal) : String :=
  let digits := Nat.toDigits 10 decimal.digits
  let pointPosition := digits.length + decimal.exponent
  let zeros (count : Int) := List.replicate count.toNat '0'
  if 0 ≤ decimal.exponent && pointPosition ≤ 16 then
    String.ofList (digits ++ zeros decimal.exponent) ++ ".0"
  else if 0 < pointPosition && pointPosition ≤ 16 then
    let (before, after) := digits.splitAt pointPosition.toNat
    String.ofList before ++ "." ++ String.ofList after
  else if -5 < pointPosition && pointPosition ≤ 0 then
    "0." ++ String.ofList (zeros (-pointPosition) ++ digits)
  else
    let sign := if 0 < pointPosition then "+" else ""
    let exponent := "e" ++ sign ++ toString (pointPosition - 1)
    match digits with
    | [digit] => digit.toString ++ exponent
    | _ => String.ofList (digits.take 1) ++ "." ++ String.ofList (digits.drop 1) ++ exponent

def realText (value : Float) : String :=
  let bits := value.toBits
  let magnitude :=
    if Binary64.isZero bits then "0.0" else (Decimal.shortest? bits).elim "" decimalText
  if Binary64.isNegative bits then "-" ++ magnitude else magnitude

end PlaceholderTyping.Json
