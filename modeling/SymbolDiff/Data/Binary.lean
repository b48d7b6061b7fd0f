import SymbolDiff.Data

/-!
# Decimal fractions as stored reals

A real number that is written in decimals is stored as the nearest value with a
mantissa of at most 53 bits.  A tie goes to the even mantissa, and what exceeds
the range is stored as infinite.
-/

namespace SymbolDiff.Real

/-- The bits of a mantissa. -/
def mantissaBits : Nat := 53

/-- The least exponent. -/
def leastExponent : Int := -1074

/-- The exponent from which on numbers are out of range. -/
def exponentBound : Int := 1024

/-- The quotient of two naturals, rounded to the nearest one and from a tie to
the even one. -/
def roundQuotient (numerator denominator : Nat) : Nat :=
  let quotient := numerator / denominator
  let twice := 2 * (numerator % denominator)
  if twice < denominator then quotient
  else if denominator < twice then quotient + 1
  else if quotient % 2 = 0 then quotient
  else quotient + 1

/-- The quotient at a binary exponent. -/
def scaled (numerator denominator : Nat) (exponent : Int) : Nat :=
  if 0 ≤ exponent then
    roundQuotient numerator (denominator * Nat.pow 2 exponent.toNat)
  else roundQuotient (numerator * Nat.pow 2 (-exponent).toNat) denominator

/-- The nearest stored real of a positive fraction. -/
def ofFraction (negative : Bool) (numerator denominator : Nat) : Real :=
  let estimate : Int :=
    (numerator.log2 : Int) - (denominator.log2 : Int) - (mantissaBits : Int) + 1
  let fits (exponent : Int) : Bool :=
    scaled numerator denominator exponent ≤ Nat.pow 2 mantissaBits
  let exponent := if fits (estimate - 1) then estimate - 1 else estimate
  let exponent := max exponent leastExponent
  let mantissa := scaled numerator denominator exponent
  if exponentBound ≤ (mantissa.log2 : Int) + exponent then .infinite
  else .finite (if negative then -(mantissa : Int) else mantissa) exponent

/-- Powers of ten beyond which a number is out of range or vanishes. -/
def decimalBound : Int := 400

/-- The stored real of `digits * 10 ^ exponent`. -/
def ofDecimal (negative : Bool) (digits : Nat) (exponent : Int) : Real :=
  if digits = 0 then .finite 0 0
  else
    let magnitude := exponent + ((Nat.toDigits 10 digits).length : Int)
    if decimalBound < magnitude then .infinite
    else if magnitude < -decimalBound then .finite 0 0
    else if 0 ≤ exponent then
      ofFraction negative (digits * Nat.pow 10 exponent.toNat) 1
    else ofFraction negative digits (Nat.pow 10 (-exponent).toNat)

end SymbolDiff.Real
