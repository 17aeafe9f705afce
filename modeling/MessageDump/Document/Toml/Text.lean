import MessageDump.Document.Json
/-! # TOML: white space, strings and keys

The parts of TOML text that stand for characters: what may stand between tokens,
the four forms of strings, and keys.  Each reader takes the characters ahead and
gives what it read and what follows, or nothing if the text is at fault.
-/
namespace MessageDump
namespace Document
namespace Toml

/-- White space inside a line. -/
def isBlank (c : Char) : Bool := c = ' ' || c = '\t'

/-- The text without white space ahead, on the same line. -/
def skipBlanks (cs : List Char) : List Char := cs.dropWhile isBlank

/-- A control character that cannot stand in strings and comments. -/
def isControl (c : Char) : Bool := (c.toNat < 0x20 && c ≠ '\t') || c.toNat = 0x7F

/-- The text after white space, line ends and comments; the first argument says
whether the text starts inside a comment. -/
def skipTrivia : Bool → List Char → Option (List Char)
  | _, [] => some []
  | _, '\n' :: rest => skipTrivia false rest
  | _, '\r' :: '\n' :: rest => skipTrivia false rest
  | true, c :: rest => if isControl c then none else skipTrivia true rest
  | false, c :: rest =>
    if isBlank c then skipTrivia false rest
    else if c = '#' then skipTrivia true rest
    else some (c :: rest)

/-- The text after a comment, from its line end on. -/
def skipComment : List Char → Option (List Char)
  | [] => some []
  | '\n' :: rest => some ('\n' :: rest)
  | '\r' :: '\n' :: rest => some ('\n' :: rest)
  | c :: rest => if isControl c then none else skipComment rest

/-- The text after the end of a line, before which a comment may stand. -/
def lineEnd (cs : List Char) : Option (List Char) := do
  let cs := skipBlanks cs
  let cs ← if cs.head? = some '#' then skipComment (cs.drop 1) else some cs
  match cs with
  | [] => some []
  | '\n' :: rest => some rest
  | '\r' :: '\n' :: rest => some rest
  | _ => none

/-- The character that a letter after a backslash stands for. -/
def escaped? : Char → Option Char
  | '"' => some '"'
  | '\\' => some '\\'
  | 'b' => some '\x08'
  | 't' => some '\t'
  | 'n' => some '\n'
  | 'f' => some '\x0c'
  | 'r' => some '\r'
  | 'e' => some '\x1b'
  | _ => none

/-- The character with the number in the given hexadecimal digits. -/
def numbered? (digits : List Char) : Option Char := do
  let n ← Json.hex? digits
  if n.isValidChar then some (Char.ofNat n) else none

/-- Reads a string of one line after its opening double quote. -/
def basicString : List Char → Option (List Char × List Char)
  | [] => none
  | '"' :: rest => some ([], rest)
  | '\\' :: 'x' :: a :: b :: rest =>
    match numbered? [a, b] with
    | some c => Json.prepend c (basicString rest)
    | none => none
  | '\\' :: 'u' :: a :: b :: c :: d :: rest =>
    match numbered? [a, b, c, d] with
    | some c => Json.prepend c (basicString rest)
    | none => none
  | '\\' :: 'U' :: a :: b :: c :: d :: e :: f :: g :: h :: rest =>
    match numbered? [a, b, c, d, e, f, g, h] with
    | some c => Json.prepend c (basicString rest)
    | none => none
  | '\\' :: c :: rest =>
    match escaped? c with
    | some c => Json.prepend c (basicString rest)
    | none => none
  | c :: rest => if isControl c then none else Json.prepend c (basicString rest)

/-- Reads a string of one line after its opening single quote. -/
def literalString : List Char → Option (List Char × List Char)
  | [] => none
  | '\'' :: rest => some ([], rest)
  | c :: rest => if isControl c then none else Json.prepend c (literalString rest)

/-- The characters after three closing quotes of a string over several lines: up
to two more quotes belong to the string. -/
def closingQuotes (quote : Char) (cs : List Char) : List Char × List Char :=
  match cs with
  | a :: b :: rest =>
    if a = quote then
      if b = quote then ([quote, quote], rest) else ([quote], b :: rest)
    else ([], cs)
  | [a] => if a = quote then ([quote], []) else ([], cs)
  | [] => ([], [])

/-- The text of a string over several lines without the line end right after its
opening quotes. -/
def dropFirstLineEnd : List Char → List Char
  | '\n' :: rest => rest
  | '\r' :: '\n' :: rest => rest
  | cs => cs

/-- Where a reader stands with respect to a line end after a backslash. -/
inductive Gap where
  /-- Not at one. -/
  | closed
  /-- After the backslash, before the line end. -/
  | opened
  /-- After the line end; white space and further line ends are left out. -/
  | passed

/-- Reads a string over several lines after three opening double quotes. -/
def longBasicString : Gap → List Char → Option (List Char × List Char)
  | _, [] => none
  | .opened, '\n' :: rest => longBasicString .passed rest
  | .opened, '\r' :: '\n' :: rest => longBasicString .passed rest
  | .opened, c :: rest => if isBlank c then longBasicString .opened rest else none
  | .passed, '\n' :: rest => longBasicString .passed rest
  | .passed, '\r' :: '\n' :: rest => longBasicString .passed rest
  | .passed, ' ' :: rest => longBasicString .passed rest
  | .passed, '\t' :: rest => longBasicString .passed rest
  | _, '"' :: '"' :: '"' :: rest => some (closingQuotes '"' rest)
  | _, '\\' :: 'x' :: a :: b :: rest =>
    match numbered? [a, b] with
    | some c => Json.prepend c (longBasicString .closed rest)
    | none => none
  | _, '\\' :: 'u' :: a :: b :: c :: d :: rest =>
    match numbered? [a, b, c, d] with
    | some c => Json.prepend c (longBasicString .closed rest)
    | none => none
  | _, '\\' :: 'U' :: a :: b :: c :: d :: e :: f :: g :: h :: rest =>
    match numbered? [a, b, c, d, e, f, g, h] with
    | some c => Json.prepend c (longBasicString .closed rest)
    | none => none
  | _, '\\' :: '\n' :: rest => longBasicString .passed rest
  | _, '\\' :: '\r' :: '\n' :: rest => longBasicString .passed rest
  | _, '\\' :: c :: rest =>
    if isBlank c then longBasicString .opened rest
    else
      match escaped? c with
      | some c => Json.prepend c (longBasicString .closed rest)
      | none => none
  | _, '\n' :: rest => Json.prepend '\n' (longBasicString .closed rest)
  | _, '\r' :: '\n' :: rest =>
    Json.prepend '\r' (Json.prepend '\n' (longBasicString .closed rest))
  | _, c :: rest => if isControl c then none else Json.prepend c (longBasicString .closed rest)

/-- Reads a string over several lines after three opening single quotes. -/
def longLiteralString : List Char → Option (List Char × List Char)
  | [] => none
  | '\'' :: '\'' :: '\'' :: rest => some (closingQuotes '\'' rest)
  | '\n' :: rest => Json.prepend '\n' (longLiteralString rest)
  | '\r' :: '\n' :: rest => Json.prepend '\r' (Json.prepend '\n' (longLiteralString rest))
  | c :: rest => if isControl c then none else Json.prepend c (longLiteralString rest)

/-- Reads a string of any form, if one is ahead. -/
def string? : List Char → Option (List Char × List Char)
  | '"' :: '"' :: '"' :: rest => longBasicString .closed (dropFirstLineEnd rest)
  | '"' :: rest => basicString rest
  | '\'' :: '\'' :: '\'' :: rest => longLiteralString (dropFirstLineEnd rest)
  | '\'' :: rest => literalString rest
  | _ => none

/-- A character of a key without quotes. -/
def isBare (c : Char) : Bool := c.isAlphanum || c = '-' || c = '_'

/-- Reads a key that is not dotted. -/
def simpleKey (cs : List Char) : Option (String × List Char) :=
  match cs with
  | '"' :: rest => (basicString rest).map fun (key, rest) => (String.ofList key, rest)
  | '\'' :: rest => (literalString rest).map fun (key, rest) => (String.ofList key, rest)
  | _ =>
    let key := cs.takeWhile isBare
    if key = [] then none else some (String.ofList key, cs.dropWhile isBare)

/-- Reads a key of up to the given number of parts.  The last part is kept apart
from the path to it. -/
def key : Nat → List Char → Option ((List String × String) × List Char)
  | 0, _ => none
  | fuel + 1, cs => do
    let (first, rest) ← simpleKey cs
    match skipBlanks rest with
    | '.' :: rest =>
      let ((path, last), rest) ← key fuel (skipBlanks rest)
      return ((first :: path, last), rest)
    | rest => return (([], first), rest)

end Toml
end Document
end MessageDump
