import MessageDump.Decimal.Binary
/-! # The shortest decimal of a binary fraction

Of the decimals that are read back as a given number, the ones with the fewest
digits are taken, and of these the one closest to the number.  The number's two
neighbours on the grid of each length are tested, from one digit up to
seventeen, which always suffice.  A number may lie in the middle of the two, so
the choice between equally close decimals is a parameter.
-/
namespace MessageDump
namespace Decimal

/-- The decimal `digits * 10 ^ exponent`. -/
structure Digits where
  digits : Nat
  exponent : Int
  deriving DecidableEq, Repr

/-- The choice between two neighbours that are equally close to a number. -/
inductive Tie where
  /-- The one whose last digit is even. -/
  | even
  /-- The larger one. -/
  | up
  deriving DecidableEq, Repr

/-- The chosen one of `count` and `count + 1`. -/
def Tie.choose (tie : Tie) (count : Nat) : Nat :=
  match tie with
  | even => count + count % 2
  | up => count + 1

/-- Whether one fraction is at most another. -/
def fractionLe (a b : Nat × Nat) : Bool := a.1 * b.2 ≤ b.1 * a.2

/-- The fraction `count * 10 ^ exponent`. -/
def decimalFraction (count : Nat) (exponent : Int) : Nat × Nat :=
  (count * Nat.pow 10 exponent.toNat, Nat.pow 10 (-exponent).toNat)

/-- The fraction of `quarters` fourths of the last place of a number. -/
def quarterFraction (number : Binary) (quarters : Nat) : Nat × Nat :=
  scaleDown quarters 1 (2 - number.exponent)

/-- Whether a fraction is read back as the given number: it lies between the
middles to the number's neighbours, which belong to even mantissas. -/
def readsBack (number : Binary) (a : Nat × Nat) : Bool :=
  let m := number.mantissa
  let narrow := m = Nat.pow 2 52 ∧ lowestExponent < number.exponent
  let low := quarterFraction number (if narrow then 4 * m - 1 else 4 * m - 2)
  let high := quarterFraction number (4 * m + 2)
  fractionLe low a && fractionLe a high &&
    (m % 2 = 0 || (!fractionLe a low && !fractionLe high a))

/-- The position of the leading decimal digit of a number: the largest `p` with
`10 ^ p` at most the number. -/
def leadingPlace (number : Binary) : Int :=
  let guess := ((number.mantissa.log2 : Int) + number.exponent) * 30103 / 100000
  if fractionLe (decimalFraction 1 (guess + 1)) number.fraction then guess + 1 else guess

/-- The count of the closer one of a number's two neighbours on the grid with the
given last place, of which the lower has the given count. -/
def closer (tie : Tie) (number : Binary) (place : Int) (below : Nat) : Nat :=
  let (n, d) := number.fraction
  let middle := decimalFraction (2 * below + 1) place
  if !fractionLe middle (2 * n, d) then below
  else if !fractionLe (2 * n, d) middle then below + 1
  else tie.choose below

/-- The decimal on the grid with the given last place that is read back as the
number, if there is one, and the closer one of two. -/
def onGrid? (tie : Tie) (number : Binary) (place : Int) : Option Digits :=
  let (n, d) := number.fraction
  let unit := decimalFraction 1 place
  let below := n * unit.2 / (d * unit.1)
  let lower := readsBack number (decimalFraction below place)
  let upper := readsBack number (decimalFraction (below + 1) place)
  if lower && upper then some ⟨closer tie number place below, place⟩
  else if lower then some ⟨below, place⟩
  else if upper then some ⟨below + 1, place⟩
  else none

/-- A decimal without zeros at its end. -/
def dropZeros : Nat → Digits → Digits
  | 0, d => d
  | fuel + 1, d =>
    if d.digits % 10 = 0 ∧ d.digits ≠ 0 then dropZeros fuel ⟨d.digits / 10, d.exponent + 1⟩ else d

/-- The shortest decimal that is read back as the number. -/
def shortest (tie : Tie) (number : Binary) : Digits :=
  if number.mantissa = 0 then ⟨0, 0⟩
  else
    let lead := leadingPlace number
    let found := (List.range 17).findSome? fun (k : Nat) => onGrid? tie number (lead - k)
    dropZeros 18 (found.getD ⟨0, 0⟩)

end Decimal
end MessageDump
