import MessageDump.Document.Toml.Scalar
import MessageDump.Document.Toml.Table
import MessageDump.Document.Toml.Text
/-! # Reading TOML

The text of a TOML document is read as a whole before anything in it is looked
at, so that a fault of form anywhere leaves nothing but a `broken` document.
-/
namespace MessageDump
namespace Document
namespace Toml

/-- How many arrays and inline tables may stand inside each other, and how many
parts a key may have. -/
def maxDepth : Nat := 80

/-- Where an assignment stands. -/
inductive Place where
  /-- On a line, which ends with it. -/
  | line
  /-- In an inline table. -/
  | inlineTable
  deriving DecidableEq, Repr

/-- The text after what may stand on both sides of an equals sign: white space, and
in inline tables line ends and comments too. -/
def Place.skip (place : Place) (cs : List Char) : Option (List Char) :=
  match place with
  | line => some (skipBlanks cs)
  | inlineTable => skipTrivia false cs

mutual

/-- Reads a value.  The first argument bounds the number of values, the second the
arrays and inline tables that may still be opened inside each other. -/
def value : Nat → Nat → List Char → Option (Node × List Char)
  | 0, _, _ => none
  | fuel + 1, depth, cs =>
    match cs, depth with
    | '[' :: _, 0 => none
    | '[' :: rest, depth + 1 => do
      let (nodes, rest) ← items fuel depth rest
      return (.array nodes true, rest)
    | '\x7b' :: _, 0 => none
    | '\x7b' :: rest, depth + 1 => do
      let (table, rest) ← inlineEntries fuel depth Table.empty rest
      return (table.node, rest)
    | '"' :: _, _ | '\'' :: _, _ => do
      let (chars, rest) ← string? cs
      return (.text (String.ofList chars), rest)
    | _, _ => plain cs

/-- Reads the items of an array up to its closing bracket, which a comma may
precede. -/
def items : Nat → Nat → List Char → Option (List Node × List Char)
  | 0, _, _ => none
  | fuel + 1, depth, cs => do
    match ← skipTrivia false cs with
    | ']' :: rest => return ([], rest)
    | cs =>
      let (node, rest) ← value fuel depth cs
      match ← skipTrivia false rest with
      | ',' :: rest =>
        let (nodes, rest) ← items fuel depth rest
        return (node :: nodes, rest)
      | ']' :: rest => return ([node], rest)
      | _ => none

/-- Reads the entries of an inline table into the given table up to its closing
brace, which a comma may precede. -/
def inlineEntries : Nat → Nat → Table → List Char → Option (Table × List Char)
  | 0, _, _, _ => none
  | fuel + 1, depth, table, cs => do
    match ← skipTrivia false cs with
    | '\x7d' :: rest => return (table, rest)
    | cs =>
      let (a, rest) ← assignment fuel depth .inlineTable cs
      let table ← table.assign a.path a.key a.node
      match ← skipTrivia false rest with
      | ',' :: rest => inlineEntries fuel depth table rest
      | '\x7d' :: rest => return (table, rest)
      | _ => none

/-- Reads a key with its value. -/
def assignment : Nat → Nat → Place → List Char → Option (Assignment × List Char)
  | 0, _, _, _ => none
  | fuel + 1, depth, place, cs => do
    let ((path, key), rest) ← key maxDepth cs
    match ← place.skip rest with
    | '=' :: rest =>
      let (node, rest) ← value fuel depth (← place.skip rest)
      return ({ path, key, node }, rest)
    | _ => none

end

/-- Reads a header up to the end of its line. -/
def header (cs : List Char) : Option (Header × List Char) := do
  match cs with
  | '[' :: '[' :: rest =>
    let ((path, key), rest) ← key maxDepth (skipBlanks rest)
    match skipBlanks rest with
    | ']' :: ']' :: rest => return ({ several := true, path, key }, ← lineEnd rest)
    | _ => none
  | '[' :: rest =>
    let ((path, key), rest) ← key maxDepth (skipBlanks rest)
    match skipBlanks rest with
    | ']' :: rest => return ({ several := false, path, key }, ← lineEnd rest)
    | _ => none
  | _ => none

/-- Reads assignments, one on a line, up to a header or the end of the text. -/
def assignments : Nat → List Char → Option (List Assignment × List Char)
  | 0, _ => none
  | fuel + 1, cs => do
    match ← skipTrivia false cs with
    | [] => return ([], [])
    | '[' :: rest => return ([], '[' :: rest)
    | cs =>
      let (first, rest) ← assignment fuel maxDepth .line cs
      let (others, rest) ← assignments fuel (← lineEnd rest)
      return (first :: others, rest)

/-- Reads headers with the assignments below them into the given table, up to the
end of the text. -/
def sections : Nat → Table → List Char → Option Table
  | 0, _, _ => none
  | _ + 1, root, [] => some root
  | fuel + 1, root, cs => do
    let (header, rest) ← header cs
    let (assignments, rest) ← assignments fuel rest
    let root ← root.define header assignments
    sections fuel root rest

/-- The table of a whole text.  There cannot be more values or lines than
characters. -/
def table? (cs : List Char) : Option Table := do
  let fuel := 4 * cs.length + 4
  let (first, rest) ← assignments fuel cs
  let root ← Table.empty.assignAll first
  sections fuel root rest

/-- The characters of a text without a byte order mark. -/
def withoutMark : List Char → List Char
  | [] => []
  | c :: rest => if c.toNat = 0xFEFF then rest else c :: rest

/-- Reads the text of a document. -/
def read (text : String) : Parsed :=
  match table? (withoutMark text.toList) with
  | some table => { root := table.node, trailing := false }
  | none => { root := .broken, trailing := false }

end Toml
end Document
end MessageDump
