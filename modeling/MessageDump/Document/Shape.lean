import MessageDump.Document.Node
/-! # Shapes of documents

A shape says what a document must hold at a place.  It is a check that visits a
tree in the order of its text and reports the first fault that it meets; once a
document has passed, its parts are found by name.
-/
namespace MessageDump
namespace Document

/-- A check of what stands at a place. -/
abbrev Shape := Node → Except DocumentFault Unit

namespace Shape

/-- A text. -/
def text : Shape
  | .text _ => .ok ()
  | node => .error (node.mismatch "a string")

/-- A text, or nothing in its place. -/
def optionalText : Shape
  | .null => .ok ()
  | node => text node

/-- A truth value. -/
def flag : Shape
  | .boolean _ => .ok ()
  | node => .error (node.mismatch "a boolean")

/-- A fault of form, unless the end of a sequence or a map was read. -/
def requireEnd (closed : Bool) : Except DocumentFault Unit :=
  if closed then .ok () else .error .malformed

/-- Any number of items of one shape. -/
def sequence (item : Shape) : Shape
  | .array items closed => do
    items.forM item
    requireEnd closed
  | node => .error (node.mismatch "a sequence")

end Shape

/-- A part of a record. -/
structure Slot where
  name : String
  required : Bool := false
  shape : Shape

/-- A record: its name in messages and its parts in order. -/
structure Record where
  name : String
  slots : List Slot

namespace Record

/-- The names of the parts. -/
def names (record : Record) : List String := record.slots.map (·.name)

/-- The first of the given parts that cannot be left out. -/
def firstRequired? (slots : List Slot) : Option Slot := slots.find? (·.required)

/-- Checks the entries of a record written as a map, given the keys met so far. -/
def checkEntries (record : Record) (met : List String) :
    List (String × Node) → Except DocumentFault (List String)
  | [] => .ok met
  | (key, node) :: rest =>
    match record.slots.find? fun slot => slot.name = key with
    | none => .error (.data (.unknownField key record.names))
    | some slot =>
      if met.contains key then .error (.data (.duplicateField key))
      else do
        slot.shape node
        checkEntries record (met ++ [key]) rest

/-- Checks that no required part is missing from a map with the given keys. -/
def checkMissing (record : Record) (met : List String) : Except DocumentFault Unit :=
  match firstRequired? (record.slots.filter fun slot => !met.contains slot.name) with
  | some slot => .error (.data (.missingField slot.name))
  | none => .ok ()

/-- Checks the items of a record written as a sequence against its parts.
`length` is the number of all items; surplus items are a fault of form, unless
they are ignored. -/
def checkItems (record : Record) (ignoreSurplus closed : Bool) (length : Nat) :
    List Slot → List Node → Except DocumentFault Unit
  | slot :: slots, node :: nodes => do
    slot.shape node
    checkItems record ignoreSurplus closed length slots nodes
  | slots, [] => do
    Shape.requireEnd closed
    if (firstRequired? slots).isSome then
      .error (.data (.invalidLength length record.name record.slots.length))
  | [], _ :: _ => if ignoreSurplus then .ok () else .error .malformed

/-- The shape of a record. -/
def shape (record : Record) (ignoreSurplus : Bool) : Shape
  | .object entries closed => do
    let met ← record.checkEntries [] entries
    Shape.requireEnd closed
    record.checkMissing met
  | .array items closed =>
    record.checkItems ignoreSurplus closed items.length record.slots items
  | node => .error (node.mismatch ("struct " ++ record.name))

end Record

/-- Checks a text that was read against the shape of its root.  What follows the
root is a fault of form. -/
def Parsed.check (parsed : Parsed) (shape : Shape) : Except DocumentFault Node := do
  shape parsed.root
  if parsed.trailing then .error .malformed else .ok parsed.root

end Document
end MessageDump
