import MessageDump.Document.Fault
/-! # Documents as trees

What a reader makes of the text of a document.  A text is read as far as it has
the form of its format: from the first fault of form on the tree is cut off, and
a `broken` leaf or an open end shows where.  Whoever visits the tree in the order
of the text therefore meets faults of form and of data in the order of the text.
-/
namespace MessageDump
namespace Document

/-- A document or a part of one. -/
inductive Node where
  | null
  | boolean (value : Bool)
  | integer (value : Int)
  /-- A fractional number, as it is written in messages. -/
  | float (shown : String)
  | text (value : String)
  /-- Items in order, and whether the end of the sequence was read. -/
  | array (items : List Node) (closed : Bool)
  /-- Entries in order, and whether the end of the map was read. -/
  | object (entries : List (String × Node)) (closed : Bool)
  /-- Nothing that could be read. -/
  | broken

namespace Node

/-- What a message says is at a node, unless nothing could be read there. -/
def found? : Node → Option Found
  | null => some .null
  | boolean value => some (.boolean value)
  | integer value => some (.integer value)
  | float shown => some (.float shown)
  | text value => some (.text value)
  | array _ _ => some .sequence
  | object _ _ => some .map
  | broken => none

/-- The fault of a node where something else is expected. -/
def mismatch (node : Node) (expected : String) : DocumentFault :=
  match node.found? with
  | some found => .data (.invalidType found expected)
  | none => .malformed

/-- The text of a node that is one. -/
def text? : Node → Option String
  | text value => some value
  | _ => none

/-- Whether a node is the truth value `true`. -/
def isTrue : Node → Bool
  | boolean value => value
  | _ => false

/-- The items of a node that is a sequence. -/
def items : Node → List Node
  | array items _ => items
  | _ => []

/-- The part of a record under a key.  A record is written as a map or as a
sequence of its parts in the order of the given names. -/
def part? (names : List String) (key : String) : Node → Option Node
  | object entries _ => entries.lookup key
  | array items _ => items[names.idxOf key]?
  | _ => none

end Node

/-- A text that was read: its tree, and whether something follows the tree. -/
structure Parsed where
  root : Node
  trailing : Bool

end Document
end MessageDump
