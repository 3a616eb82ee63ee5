import PlaceholderTyping.Decimal.Binary64

/-!
# Shortest decimals

The decimal with the fewest digits among those that read back as a given floating-point number.
All arithmetic is exact: the reals that round to a number form an interval, and a decimal grid
reaches into the interval exactly when one of the two grid points around the number does.
-/

namespace PlaceholderTyping

structure Decimal where
  digits : Nat
  exponent : Int
deriving DecidableEq, Repr

/-- A positive floating-point number with the interval of reals that round to it. The bounds and
the number are multiples of `2 ^ unit`; `closed` tells whether the bounds round to it themselves. -/
structure RoundingInterval where
  lower : Nat
  value : Nat
  upper : Nat
  closed : Bool
  unit : Int

namespace RoundingInterval

/-- The unit is a quarter of the number's last place. Below a power of two the numbers lie twice as
close, so there the lower bound is nearer. -/
def ofBits (bits : UInt64) : RoundingInterval :=
  let exponentField := Binary64.exponentField bits
  let fraction := Binary64.fractionField bits
  let significand := if exponentField = 0 then fraction else Binary64.fractionRange + fraction
  { lower := 4 * significand - (if fraction = 0 ∧ 1 < exponentField then 1 else 2)
    value := 4 * significand
    upper := 4 * significand + 2
    closed := significand % 2 = 0
    unit := max exponentField 1 - 1077 }

/-- The digits of the multiple of `10 ^ exponent` that lies in the interval. Of two such multiples
the nearer one is taken, and the even one when both are equally near. -/
def digitsOnGrid? (interval : RoundingInterval) (exponent : Int) : Option Nat :=
  let power (base : Nat) (exponent : Int) : Nat := base.pow exponent.toNat
  let numerator := power 2 interval.unit * power 10 (-exponent)
  let denominator := power 2 (-interval.unit) * power 10 exponent
  let lower := interval.lower * numerator
  let value := interval.value * numerator
  let upper := interval.upper * numerator
  let inside (digits : Nat) : Bool :=
    if interval.closed then
      lower ≤ digits * denominator && digits * denominator ≤ upper
    else
      lower < digits * denominator && digits * denominator < upper
  let below := value / denominator
  let above := below + 1
  if inside below then
    if inside above then
      let toBelow := value - below * denominator
      let toAbove := above * denominator - value
      if toBelow < toAbove || (toBelow == toAbove && below % 2 == 0) then
        some below
      else
        some above
    else
      some below
  else if inside above then
    some above
  else
    none

end RoundingInterval

/-- The decimal with the fewest digits that reads back as the number with the given bits, which is
finite and not zero; its sign is left out. It lies on the first grid with a hit, from the coarsest
grid of the format's range to the finest. -/
def Decimal.shortest? (bits : UInt64) : Option Decimal :=
  let interval := RoundingInterval.ofBits bits
  (List.range 634).findSome? fun (step : Nat) =>
    let exponent := 309 - (step : Int)
    (interval.digitsOnGrid? exponent).map fun digits => { digits, exponent }

end PlaceholderTyping
