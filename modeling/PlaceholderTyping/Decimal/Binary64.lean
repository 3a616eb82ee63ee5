/-!
# Binary floating-point encodings

The fields of a 64-bit floating-point number: a sign bit, eleven exponent bits and fifty-two
fraction bits.
-/

namespace PlaceholderTyping.Binary64

/-- The number of values of the stored fraction, `2 ^ 52`. -/
def fractionRange : Nat :=
  0x10000000000000

/-- The number of values of the stored exponent, `2 ^ 11`. -/
def exponentRange : Nat :=
  0x800

def isNegative (bits : UInt64) : Bool :=
  bits.toNat.testBit 63

/-- The stored exponent, of which 0 marks the subnormal and 2047 the non-finite numbers. -/
def exponentField (bits : UInt64) : Nat :=
  bits.toNat / fractionRange % exponentRange

def fractionField (bits : UInt64) : Nat :=
  bits.toNat % fractionRange

def isNan (bits : UInt64) : Bool :=
  exponentField bits + 1 == exponentRange && fractionField bits != 0

def isZero (bits : UInt64) : Bool :=
  exponentField bits == 0 && fractionField bits == 0

end PlaceholderTyping.Binary64
