/-! # Binary fractions of 53 bits

A non-negative number `mantissa * 2 ^ exponent` with a mantissa below `2 ^ 53`,
and the one nearest to a given fraction.  Everything is exact arithmetic on
natural numbers.
-/
namespace MessageDump
namespace Decimal

/-- The number `mantissa * 2 ^ exponent`. -/
structure Binary where
  mantissa : Nat
  exponent : Int
  deriving DecidableEq, Repr

/-- The lowest exponent, which the numbers closest to zero have. -/
def lowestExponent : Int := -1074

/-- The highest exponent. -/
def highestExponent : Int := 971

/-- A quotient rounded to the nearest integer, from the middle to the even one. -/
def roundQuotient (num den : Nat) : Nat :=
  let quotient := num / den
  let rest := num % den
  if 2 * rest < den then quotient
  else if den < 2 * rest then quotient + 1
  else quotient + quotient % 2

/-- Numerator and denominator of a fraction divided by `2 ^ exponent`. -/
def scaleDown (num den : Nat) (exponent : Int) : Nat × Nat :=
  (num * Nat.pow 2 (-exponent).toNat, den * Nat.pow 2 exponent.toNat)

/-- The number nearest to a fraction, unless it lies beyond the highest one. -/
def nearest? (num den : Nat) : Option Binary :=
  if num = 0 then some ⟨0, lowestExponent⟩
  else
    let guess := max ((num.log2 : Int) - den.log2 - 52) lowestExponent
    let (n, d) := scaleDown num den guess
    let exponent := if n / d < Nat.pow 2 52 ∧ lowestExponent < guess then guess - 1 else guess
    let (n, d) := scaleDown num den exponent
    let mantissa := roundQuotient n d
    let result : Binary :=
      if mantissa = Nat.pow 2 53 then ⟨Nat.pow 2 52, exponent + 1⟩ else ⟨mantissa, exponent⟩
    if highestExponent < result.exponent then none else some result

namespace Binary

/-- Numerator and denominator of a number. -/
def fraction (number : Binary) : Nat × Nat :=
  scaleDown number.mantissa 1 (-number.exponent)

/-- The number nearest to a product, unless it is too large. -/
def mul? (a b : Binary) : Option Binary :=
  nearest? (a.fraction.1 * b.fraction.1) (a.fraction.2 * b.fraction.2)

/-- The number nearest to a quotient, unless it is too large. -/
def div? (a b : Binary) : Option Binary :=
  nearest? (a.fraction.1 * b.fraction.2) (a.fraction.2 * b.fraction.1)

end Binary

end Decimal
end MessageDump
