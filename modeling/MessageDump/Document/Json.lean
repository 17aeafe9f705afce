import MessageDump.Decimal.Layout
import MessageDump.Document.Node
/-! # Reading JSON

The text of a JSON document is read from left to right.  Whatever cannot be read
becomes a `broken` leaf or an open end, and nothing after it is read.
-/
namespace MessageDump
namespace Document
namespace Json

/-- White space between tokens. -/
def isSpace (c : Char) : Bool := c = ' ' || c = '\n' || c = '\t' || c = '\r'

/-- The text from the next token on. -/
def skipSpace (cs : List Char) : List Char := cs.dropWhile isSpace

/-- The value of a hexadecimal digit. -/
def hexDigit? (c : Char) : Option Nat :=
  if c.isDigit then some (c.toNat - '0'.toNat)
  else if 'a' ≤ c ∧ c ≤ 'f' then some (c.toNat - 'a'.toNat + 10)
  else if 'A' ≤ c ∧ c ≤ 'F' then some (c.toNat - 'A'.toNat + 10)
  else none

/-- The value of hexadecimal digits. -/
def hex? (digits : List Char) : Option Nat :=
  digits.foldlM (fun value c => (hexDigit? c).map (16 * value + ·)) 0

/-- The character that a letter after a backslash stands for. -/
def escaped? : Char → Option Char
  | '"' => some '"'
  | '\\' => some '\\'
  | '/' => some '/'
  | 'b' => some '\x08'
  | 'f' => some '\x0c'
  | 'n' => some '\n'
  | 'r' => some '\r'
  | 't' => some '\t'
  | _ => none

/-- Whether a number is the first half of a pair that stands for one character. -/
def isLeading (n : Nat) : Bool := 0xD800 ≤ n && n < 0xDC00

/-- Whether a number is the second half of such a pair. -/
def isTrailing (n : Nat) : Bool := 0xDC00 ≤ n && n < 0xE000

/-- A character in front of what was read after it. -/
def prepend (c : Char) (read : Option (List Char × List Char)) :
    Option (List Char × List Char) :=
  read.map fun (cs, rest) => (c :: cs, rest)

/-- Reads a string after its opening quote: its characters and what follows its
closing quote.  A character may be given by its number, or by two numbers that
make a pair; a half alone is a fault, and so is a control character. -/
def string : List Char → Option (List Char × List Char)
  | [] => none
  | '"' :: rest => some ([], rest)
  | '\\' :: 'u' :: a :: b :: c :: d :: rest =>
    match hex? [a, b, c, d] with
    | none => none
    | some n =>
      if isTrailing n then none
      else if isLeading n then
        match rest with
        | '\\' :: 'u' :: e :: f :: g :: h :: rest =>
          match hex? [e, f, g, h] with
          | none => none
          | some m =>
            if isTrailing m then
              prepend (Char.ofNat (0x10000 + (n - 0xD800) * 0x400 + (m - 0xDC00))) (string rest)
            else none
        | _ => none
      else prepend (Char.ofNat n) (string rest)
  | '\\' :: c :: rest =>
    match escaped? c with
    | none => none
    | some c => prepend c (string rest)
  | c :: rest => if c.toNat < 0x20 then none else prepend c (string rest)

/-- The value of decimal digits. -/
def digitsValue (digits : List Char) : Nat :=
  digits.foldl (fun value c => 10 * value + (c.toNat - '0'.toNat)) 0

/-- A number as far as it fits 64 bits, extended by further digits as long as it
does, and the count of the digits that were taken. -/
def extend (significand : Nat) : List Char → Nat × Nat
  | [] => (significand, 0)
  | c :: rest =>
    let next := 10 * significand + (c.toNat - '0'.toNat)
    if Nat.pow 2 64 ≤ next then (significand, 0)
    else
      let (value, count) := extend next rest
      (value, count + 1)

/-- The number nearest to a power of ten in range. -/
def powerOfTen (exponent : Nat) : Option Decimal.Binary :=
  Decimal.nearest? (Nat.pow 10 exponent) 1

/-- A number multiplied or divided by a power of ten, unless it becomes too
large.  Powers beyond the range are taken in steps, until nothing is left. -/
def scale? : Nat → Decimal.Binary → Int → Option Decimal.Binary
  | 0, number, _ => some number
  | fuel + 1, number, exponent =>
    if exponent.natAbs ≤ 308 then do
      let power ← powerOfTen exponent.natAbs
      if 0 ≤ exponent then number.mul? power else number.div? power
    else if number.mantissa = 0 then some number
    else if 0 ≤ exponent then none
    else do
      let power ← powerOfTen 308
      let number ← number.div? power
      scale? fuel number (exponent + 308)

/-- The node of a number with a fraction or an exponent, or of an integer beyond
64 bits, unless it is out of range. -/
def float? (negative : Bool) (whole fraction : List Char) (exponent : Int) : Option Node := do
  let (significand, taken) := extend 0 whole
  let dropped := whole.length - taken
  let (significand, takenFraction) := extend significand fraction
  let start ← Decimal.nearest? significand 1
  let number ← scale? 4 start (dropped - takenFraction + exponent)
  return .float (Decimal.Layout.scientific.text negative number)

/-- The node of an integer.  A negative zero and integers beyond 64 bits are
fractional numbers. -/
def integer? (negative : Bool) (whole : List Char) : Option Node :=
  let n := digitsValue whole
  if negative then
    if 1 ≤ n ∧ n ≤ Nat.pow 2 63 then some (.integer (-n)) else float? negative whole [] 0
  else if n < Nat.pow 2 64 then some (.integer n)
  else float? negative whole [] 0

/-- Reads the exponent of a number, if one follows: its value, unless it has no
digits, and what follows it. -/
def exponent? (cs : List Char) : Option (Option Int × List Char) :=
  match cs with
  | c :: rest =>
    if c = 'e' ∨ c = 'E' then
      let (negative, rest) := match rest with
        | '-' :: rest => (true, rest)
        | '+' :: rest => (false, rest)
        | rest => (false, rest)
      let digits := rest.takeWhile Char.isDigit
      if digits = [] then none
      else
        let value : Int := digitsValue digits
        some (some (if negative then -value else value), rest.dropWhile Char.isDigit)
    else some (none, cs)
  | [] => some (none, cs)

/-- Reads the fraction of a number, if one follows. -/
def fraction? (cs : List Char) : Option (Option (List Char) × List Char) :=
  match cs with
  | '.' :: rest =>
    let digits := rest.takeWhile Char.isDigit
    if digits = [] then none else some (some digits, rest.dropWhile Char.isDigit)
  | _ => some (none, cs)

/-- Reads a number: its node and what follows it. -/
def number? (cs : List Char) : Option (Node × List Char) := do
  let (negative, cs) := match cs with
    | '-' :: rest => (true, rest)
    | cs => (false, cs)
  let whole := cs.takeWhile Char.isDigit
  if whole = [] ∨ (whole.head? = some '0' ∧ whole.length ≠ 1) then none
  let (fraction, rest) ← fraction? (cs.dropWhile Char.isDigit)
  let (exponent, rest) ← exponent? rest
  let node ← match fraction, exponent with
    | none, none => integer? negative whole
    | fraction, exponent => float? negative whole (fraction.getD []) (exponent.getD 0)
  return (node, rest)

/-- A node that was read, and what follows it unless nothing more can be read. -/
abbrev Result := Node × Option (List Char)

/-- What is left where nothing can be read. -/
def nothing : Result := (.broken, none)

/-- The result of reading a scalar. -/
def ofOption (read : Option (Node × List Char)) : Result :=
  match read with
  | some (node, rest) => (node, some rest)
  | none => nothing

/-- Reads a scalar value. -/
def scalar : List Char → Result
  | '"' :: rest => ofOption ((string rest).map fun (cs, rest) => (.text (String.ofList cs), rest))
  | 't' :: 'r' :: 'u' :: 'e' :: rest => (.boolean true, some rest)
  | 'f' :: 'a' :: 'l' :: 's' :: 'e' :: rest => (.boolean false, some rest)
  | 'n' :: 'u' :: 'l' :: 'l' :: rest => (.null, some rest)
  | cs => ofOption (number? cs)

mutual

/-- Reads a value.  The first argument bounds the number of values. -/
def value : Nat → List Char → Result
  | 0, _ => nothing
  | fuel + 1, cs =>
    match skipSpace cs with
    | '[' :: rest =>
      match skipSpace rest with
      | ']' :: rest => (.array [] true, some rest)
      | rest =>
        let (nodes, rest) := items fuel rest
        (.array nodes rest.isSome, rest)
    | '\x7b' :: rest =>
      match skipSpace rest with
      | '\x7d' :: rest => (.object [] true, some rest)
      | rest =>
        let (entries, rest) := entries fuel rest
        (.object entries rest.isSome, rest)
    | cs => scalar cs

/-- Reads the items of an array, of which there is at least one. -/
def items : Nat → List Char → List Node × Option (List Char)
  | 0, _ => ([], none)
  | fuel + 1, cs =>
    match value fuel cs with
    | (node, none) => ([node], none)
    | (node, some rest) =>
      match skipSpace rest with
      | ',' :: rest =>
        let (nodes, rest) := items fuel rest
        (node :: nodes, rest)
      | ']' :: rest => ([node], some rest)
      | _ => ([node], none)

/-- Reads the entries of an object, of which there is at least one.  An entry
counts as soon as its key was read. -/
def entries : Nat → List Char → List (String × Node) × Option (List Char)
  | 0, _ => ([], none)
  | fuel + 1, cs =>
    match skipSpace cs with
    | '"' :: rest =>
      match string rest with
      | none => ([], none)
      | some (key, rest) =>
        match skipSpace rest with
        | ':' :: rest =>
          match value fuel rest with
          | (node, none) => ([(String.ofList key, node)], none)
          | (node, some rest) =>
            match skipSpace rest with
            | ',' :: rest =>
              let (nodes, rest) := entries fuel rest
              ((String.ofList key, node) :: nodes, rest)
            | '\x7d' :: rest => ([(String.ofList key, node)], some rest)
            | _ => ([(String.ofList key, node)], none)
        | _ => ([(String.ofList key, .broken)], none)
    | _ => ([], none)

end

/-- Reads the text of a document.  There cannot be more values than characters. -/
def read (text : String) : Parsed :=
  let cs := text.toList
  match value (2 * cs.length + 1) cs with
  | (root, none) => { root, trailing := false }
  | (root, some rest) => { root, trailing := !(skipSpace rest).isEmpty }

end Json
end Document
end MessageDump
