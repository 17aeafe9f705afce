import MessageDump.Document.Toml.Text
import MessageDump.Text.Split
/-! # TOML: numbers, truth values, dates and times

The values that are written without quotes.  Digits may be grouped by single
underscores; a date or a time is a table of its own kind, and a message never
shows more of it than that.  A number is accepted by its form alone: one whose
value cannot be told is `broken`, which is a fault only where the value is needed.
-/
namespace MessageDump
namespace Document
namespace Toml

/-- The digits of a number without the underscores between them. -/
def ungrouped? (isDigit : Char → Bool) (cs : List Char) : Option (List Char) :=
  let groups := Text.splitAt '_' cs
  if groups.all fun group => !group.isEmpty && group.all isDigit then some groups.flatten
  else none

/-- Whether a text starts with a minus sign, and the text without its sign. -/
def splitSign : List Char → Bool × List Char
  | '-' :: rest => (true, rest)
  | '+' :: rest => (false, rest)
  | cs => (false, cs)

/-- The digits of a whole number, which start with a zero only if there are no
others. -/
def wholeDigits? (cs : List Char) : Option (List Char) := do
  let digits ← ungrouped? Char.isDigit cs
  if digits.head? = some '0' ∧ digits.length ≠ 1 then none else some digits

/-- The node of an integer, unless it takes more than 128 bits. -/
def integerNode (n : Int) : Node :=
  if -Int.pow 2 127 ≤ n ∧ n < Int.pow 2 128 then .integer n else .broken

/-- Whether a character is a digit of any base. -/
def isAnyDigit (c : Char) : Bool := (Json.hexDigit? c).isSome

/-- Whether a text that starts with a digit has the form of grouped digits at every
underscore: what stands right before and right after it is a digit of some base. -/
def isGrouped (cs : List Char) : Bool :=
  let groups := (Text.splitAt '_' cs).drop 1
  (groups.all fun group => group.head?.any isAnyDigit) &&
    (groups.dropLast.all fun group => group.getLast?.any isAnyDigit)

/-- Reads digits of the given base.  Without any there is no value. -/
def based? (base : Nat) (cs : List Char) : Option Node :=
  if cs = [] then some .broken
  else do
    let isDigit := fun c => (Json.hexDigit? c).any (· < base)
    let digits ← ungrouped? isDigit cs
    let value := digits.foldl (fun value c => base * value + (Json.hexDigit? c).getD 0) 0
    return integerNode value

/-- Reads a decimal integer without its sign.  From the first underscore on, its form
does not depend on the characters inside a group, as long as none is a space, but with
any others than digits it has no value. -/
def decimal? (negative : Bool) (cs : List Char) : Option Node :=
  match wholeDigits? cs with
  | some digits =>
    let n : Int := Json.digitsValue digits
    some (integerNode (if negative then -n else n))
  | none =>
    let startsWhole := cs.head?.any Char.isDigit && cs.head? ≠ some '0'
    let afterDigits := cs.dropWhile Char.isDigit
    if startsWhole && afterDigits.head? = some '_' && isGrouped cs && !cs.contains ' ' then
      some .broken
    else none

/-- The number nearest to `count * 10 ^ exponent`, unless it is too large. -/
def nearestDecimal? (count : Nat) (exponent : Int) : Option Decimal.Binary :=
  let size := (Nat.toDigits 10 count).length + exponent
  if count = 0 ∨ size < -400 then Decimal.nearest? 0 1
  else if 400 < size then none
  else Decimal.nearest? (count * Nat.pow 10 exponent.toNat) (Nat.pow 10 (-exponent).toNat)

/-- The node of a fractional number, unless it is too large. -/
def floatNode (negative : Bool) (digits : List Char) (exponent : Int) : Node :=
  match nearestDecimal? (Json.digitsValue digits) exponent with
  | some number => .float (Decimal.Layout.positional.text negative number)
  | none => .broken

/-- The value of an exponent. -/
def exponent? (cs : List Char) : Option Int := do
  let (negative, cs) := splitSign cs
  let digits ← ungrouped? Char.isDigit cs
  let value : Int := Json.digitsValue digits
  return if negative then -value else value

/-- Reads a number with a fraction or an exponent without its sign. -/
def float? (negative : Bool) (cs : List Char) : Option Node := do
  let mantissa := cs.takeWhile fun c => c ≠ 'e' && c ≠ 'E'
  let power := cs.drop mantissa.length
  let whole := mantissa.takeWhile (· ≠ '.')
  let part := mantissa.drop whole.length
  let whole ← wholeDigits? whole
  let fraction ← if part = [] then some [] else ungrouped? Char.isDigit (part.drop 1)
  let exponent ← if power = [] then some 0 else exponent? (power.drop 1)
  return floatNode negative (whole ++ fraction) (exponent - fraction.length)

/-- A character that only numbers with a fraction or an exponent have. -/
def isFloatMark (c : Char) : Bool := c = '.' || c = 'e' || c = 'E'

/-- Reads a number. -/
def number? : List Char → Option Node
  | '0' :: 'x' :: rest => based? 16 rest
  | '0' :: 'o' :: rest => based? 8 rest
  | '0' :: 'b' :: rest => based? 2 rest
  | cs =>
    let (negative, cs) := splitSign cs
    if cs = ['i', 'n', 'f'] then some (.float (if negative then "-inf" else "inf"))
    else if cs = ['n', 'a', 'n'] then some (.float "NaN")
    else if cs.any isFloatMark then float? negative cs
    else decimal? negative cs

/-- The value of decimal digits, if there are as many as given. -/
def field? (count : Nat) (cs : List Char) : Option (Nat × List Char) :=
  let digits := cs.take count
  if digits.length = count ∧ digits.all Char.isDigit then
    some (Json.digitsValue digits, cs.drop count)
  else none

/-- The number of days of a month. -/
def daysIn (year month : Nat) : Nat :=
  if month = 2 then
    if year % 4 = 0 ∧ (year % 100 ≠ 0 ∨ year % 400 = 0) then 29 else 28
  else if month = 4 ∨ month = 6 ∨ month = 9 ∨ month = 11 then 30
  else 31

/-- The text after the given character. -/
def after? (c : Char) : List Char → Option (List Char)
  | d :: rest => if d = c then some rest else none
  | [] => none

/-- The text after a date. -/
def date? (cs : List Char) : Option (List Char) := do
  let (year, cs) ← field? 4 cs
  let cs ← after? '-' cs
  let (month, cs) ← field? 2 cs
  let cs ← after? '-' cs
  let (day, cs) ← field? 2 cs
  if 1 ≤ month ∧ month ≤ 12 ∧ 1 ≤ day ∧ day ≤ daysIn year month then some cs else none

/-- The text after the fraction of a second, if one is ahead. -/
def secondFraction? : List Char → Option (List Char)
  | '.' :: rest =>
    if (rest.head?.any Char.isDigit) then some (rest.dropWhile Char.isDigit) else none
  | cs => some cs

/-- The text after a time, whose seconds may be left out. -/
def time? (cs : List Char) : Option (List Char) := do
  let (hour, cs) ← field? 2 cs
  let cs ← after? ':' cs
  let (minute, cs) ← field? 2 cs
  if 24 ≤ hour ∨ 60 ≤ minute then none
  match cs with
  | ':' :: cs =>
    let (second, cs) ← field? 2 cs
    if 60 < second then none
    secondFraction? cs
  | cs => some cs

/-- The text after an offset from universal time, if one is ahead. -/
def offset? : List Char → Option (List Char)
  | 'Z' :: rest | 'z' :: rest => some rest
  | c :: rest =>
    if c = '+' ∨ c = '-' then do
      let (hour, rest) ← field? 2 rest
      let rest ← after? ':' rest
      let (minute, rest) ← field? 2 rest
      if 24 ≤ hour ∨ 60 ≤ minute then none else some rest
    else some (c :: rest)
  | [] => some []

/-- Whether a text is a time with an optional offset, as it follows a date. -/
def isZonedTime (cs : List Char) : Bool :=
  ((time? cs).bind offset?) = some []

/-- Whether a text is a date, a time, or a date and a time with a letter or a space
between them. -/
def isDateTime (cs : List Char) : Bool :=
  time? cs = some [] ||
    match date? cs with
    | some [] => true
    | some (c :: rest) => (c = 'T' || c = 't' || c = ' ') && isZonedTime rest
    | none => false

/-- The node of a date or time: a table with one key that no document has. -/
def dateNode : Node :=
  .object [("$__toml_private_datetime", .text "")] true

/-- The characters besides white space that cannot stand in a value without quotes. -/
def plainEnds : List Char := ['=', ',', '[', ']', '\x7b', '\x7d', '#', '\r', '\n']

/-- A character of a value without quotes. -/
def isPlain (c : Char) : Bool := !isBlank c && !plainEnds.contains c

/-- Whether the text behind white space belongs to the value ahead of it.  A quote
starts a string instead. -/
def continues (cs : List Char) : Bool :=
  (skipBlanks cs).head?.any fun c => isPlain c && c ≠ '"' && c ≠ '\''

/-- The characters of a value without quotes, which may hold white space, and what
follows them. -/
def splitPlain : List Char → List Char × List Char
  | [] => ([], [])
  | c :: rest =>
    if isPlain c || (isBlank c && continues rest) then
      let (token, rest) := splitPlain rest
      (c :: token, rest)
    else ([], c :: rest)

/-- The node of a value without quotes. -/
def plainNode? (cs : List Char) : Option Node :=
  if cs = ['t', 'r', 'u', 'e'] then some (.boolean true)
  else if cs = ['f', 'a', 'l', 's', 'e'] then some (.boolean false)
  else if isDateTime cs then some dateNode
  else number? cs

/-- Reads a value without quotes. -/
def plain (cs : List Char) : Option (Node × List Char) :=
  let (token, rest) := splitPlain cs
  (plainNode? token).map (·, rest)

end Toml
end Document
end MessageDump
