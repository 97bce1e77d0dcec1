/-! IEEE 754 binary64 numbers as their bits, and the binary64 number nearest to an exact value. All
arithmetic is exact, on natural numbers. -/

namespace ForeignCall.Binary64

def signBit : UInt64 := 0x8000000000000000

def infinity : UInt64 := 0x7FF0000000000000

def nan : UInt64 := 0x7FF8000000000000

def withSign (negative : Bool) (magnitude : UInt64) : UInt64 :=
  if negative then signBit ||| magnitude else magnitude

def isNan (bits : UInt64) : Bool :=
  infinity < bits &&& 0x7FFFFFFFFFFFFFFF

/-- The exponent `e` with `2 ^ e ≤ numerator / denominator < 2 ^ (e + 1)`. -/
def magnitudeExponent (numerator denominator : Nat) : Int :=
  let estimate : Int := Int.ofNat numerator.log2 - Int.ofNat denominator.log2
  let reached :=
    if 0 ≤ estimate then denominator <<< estimate.toNat ≤ numerator
    else denominator ≤ numerator <<< (-estimate).toNat
  if reached then estimate else estimate - 1

/-- The integer nearest to `numerator / denominator`, the even one of two. -/
def roundHalfEven (numerator denominator : Nat) : Nat :=
  let quotient := numerator / denominator
  let twice := 2 * (numerator % denominator)
  if twice < denominator then quotient
  else if denominator < twice then quotient + 1
  else quotient + quotient % 2

/-- Significands count units of `2 ^ quantum`; the units of subnormal numbers are the smallest. -/
def quantum (numerator denominator : Nat) : Int :=
  max (magnitudeExponent numerator denominator - 52) (-1074)

/-- The number nearest to `numerator / denominator`, infinity where it is past the largest one. -/
def ofRatio (numerator denominator : Nat) : UInt64 :=
  if numerator = 0 then 0
  else
    let unit := quantum numerator denominator
    let significand :=
      if 0 ≤ unit then roundHalfEven numerator (denominator <<< unit.toNat)
      else roundHalfEven (numerator <<< (-unit).toNat) denominator
    let bits := (unit + 1074).toNat <<< 52 + significand
    if infinity.toNat ≤ bits then infinity else UInt64.ofNat bits

/-- The number nearest to `digits * 10 ^ exponent`. Exponents far outside the range of binary64
need no arithmetic. -/
def ofDecimal (digits : Nat) (exponent : Int) : UInt64 :=
  if digits = 0 then 0
  else if 400 < exponent then infinity
  else if exponent < -(400 + Int.ofNat digits.log2) then 0
  else if 0 ≤ exponent then ofRatio (digits * Nat.pow 10 exponent.toNat) 1
  else ofRatio digits (Nat.pow 10 (-exponent).toNat)

/-- The binary64 number equal to a binary32 number, or a NaN for a NaN. -/
def ofBinary32 (bits : UInt32) : UInt64 :=
  let exponent := (bits.toNat >>> 23) % 0x100
  let fraction := bits.toNat % 0x800000
  let magnitude :=
    if exponent = 0xFF then if fraction = 0 then infinity else nan
    else if exponent = 0 then ofRatio fraction (1 <<< 149)
    else ofRatio ((0x800000 + fraction) <<< exponent) (1 <<< 150)
  withSign (0x80000000 ≤ bits) magnitude

def toInt? (bits : UInt64) : Option Int :=
  let exponent := (bits.toNat >>> 52) % 0x800
  let fraction := bits.toNat % 0x10000000000000
  if exponent = 0x7FF then none
  else
    let significand := if exponent = 0 then fraction else 0x10000000000000 + fraction
    let shift : Int := Int.ofNat (max exponent 1) - 1075
    let magnitude? :=
      if 0 ≤ shift then some (significand <<< shift.toNat)
      else
        let unit := 1 <<< (-shift).toNat
        if significand % unit = 0 then some (significand / unit) else none
    magnitude?.map fun magnitude =>
      if signBit ≤ bits then -Int.ofNat magnitude else Int.ofNat magnitude

def isNegative (bits : UInt64) : Bool :=
  signBit ≤ bits

def magnitude (bits : UInt64) : UInt64 :=
  bits &&& 0x7FFFFFFFFFFFFFFF

/-- A finite number in units of the smallest positive one. -/
def units (bits : UInt64) : Int :=
  let exponent := (bits.toNat >>> 52) % 0x800
  let fraction := bits.toNat % 0x10000000000000
  let size := if exponent = 0 then fraction else (0x10000000000000 + fraction) <<< (exponent - 1)
  if isNegative bits then -Int.ofNat size else Int.ofNat size

def ofUnits (count : Int) : UInt64 :=
  withSign (count < 0) (ofRatio count.natAbs (1 <<< 1074))

/-- The sum of two finite numbers, rounded. A sum of zero is negative only if both numbers are. -/
def addFinite (first second : UInt64) : UInt64 :=
  if units first + units second = 0 then withSign (isNegative first && isNegative second) 0
  else ofUnits (units first + units second)

def add (first second : UInt64) : UInt64 :=
  if isNan first || isNan second then nan
  else if magnitude first = infinity then
    if magnitude second = infinity && first ≠ second then nan else first
  else if magnitude second = infinity then second
  else addFinite first second

def ofInt (value : Int) : UInt64 :=
  withSign (value < 0) (ofRatio value.natAbs 1)

end ForeignCall.Binary64
