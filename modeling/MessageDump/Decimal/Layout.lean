import MessageDump.Decimal.Shortest
/-! # Layouts of decimals

How a decimal is written: with all its places, or with an exponent where the
point would stand too far from the digits.  A fraction or an exponent, which
always has a sign, tells the text from that of an integer.
-/
namespace MessageDump
namespace Decimal

/-- How the shortest decimal of a number is chosen and written. -/
structure Layout where
  /-- The choice between equally close decimals. -/
  tie : Tie
  /-- The bounds between which the point may stand, counted from the start of the
  digits, for all places to be written. -/
  lowest : Option Int
  highest : Option Int

/-- All places are written, and the larger of two equally close decimals. -/
def Layout.positional : Layout := ⟨.up, none, none⟩

/-- Up to sixteen places before the point and five after it are written, and the
even one of two equally close decimals. -/
def Layout.scientific : Layout := ⟨.even, some (-4), some 16⟩

/-- Whether all places are written if the point stands at the given position. -/
def Layout.allows (layout : Layout) (point : Int) : Bool :=
  layout.lowest.all (· ≤ point) && layout.highest.all (point ≤ ·)

/-- A row of zeros. -/
def zeros (count : Nat) : List Char := List.replicate count '0'

/-- The characters of a decimal. -/
def Layout.chars (layout : Layout) (d : Digits) : List Char :=
  let digits := Nat.toDigits 10 d.digits
  let point : Int := digits.length + d.exponent
  if d.digits = 0 then ['0', '.', '0']
  else if layout.allows point then
    if 0 ≤ d.exponent then digits ++ zeros d.exponent.toNat ++ ['.', '0']
    else if 0 < point then digits.take point.toNat ++ '.' :: digits.drop point.toNat
    else ['0', '.'] ++ zeros (-point).toNat ++ digits
  else
    let fraction := if digits.length = 1 then [] else '.' :: digits.drop 1
    let power := point - 1
    let sign := if power < 0 then '-' else '+'
    digits.take 1 ++ fraction ++ 'e' :: sign :: Nat.toDigits 10 power.natAbs

/-- The text of a signed binary fraction. -/
def Layout.text (layout : Layout) (negative : Bool) (number : Binary) : String :=
  String.ofList ((if negative then ['-'] else []) ++ layout.chars (shortest layout.tie number))

end Decimal
end MessageDump
