import MessageDump.Text.Quoted
/-! # Kinds of fields

What a field of a message holds: a scalar, an enum, another message, or a list
or map of these.  Each kind has the name under which schema documents spell it.
-/
namespace MessageDump

/-- Scalar kinds. -/
inductive Scalar where
  | bool
  | int32 | sint32 | sfixed32
  | uint32 | fixed32
  | int64 | sint64 | sfixed64
  | uint64 | fixed64
  | float | double
  | string
  | bytes
  deriving DecidableEq, Repr

namespace Scalar

/-- The spelling of a scalar kind. -/
def name : Scalar → String
  | bool => "bool"
  | int32 => "int32"
  | sint32 => "sint32"
  | sfixed32 => "sfixed32"
  | uint32 => "uint32"
  | fixed32 => "fixed32"
  | int64 => "int64"
  | sint64 => "sint64"
  | sfixed64 => "sfixed64"
  | uint64 => "uint64"
  | fixed64 => "fixed64"
  | float => "float"
  | double => "double"
  | string => "string"
  | bytes => "bytes"

/-- Every scalar kind. -/
def all : List Scalar :=
  [bool, int32, sint32, sfixed32, uint32, fixed32, int64, sint64, sfixed64, uint64, fixed64,
   float, double, string, bytes]

/-- The scalar kind with the given spelling. -/
def ofName? (spelling : String) : Option Scalar :=
  all.find? fun s => s.name = spelling

@[simp] theorem ofName?_name (s : Scalar) : ofName? s.name = some s := by
  cases s <;> rfl

/-- Only the spelling of a scalar kind is read as one. -/
theorem name_of_ofName? {spelling : String} {s : Scalar} (h : ofName? spelling = some s) :
    s.name = spelling := by
  simpa using List.find?_some h

end Scalar

/-- What a field holds. -/
inductive Kind where
  /-- A scalar value. -/
  | scalar (type : Scalar)
  /-- A value of the named enum. -/
  | enum (type : String)
  /-- A value of the named message type. -/
  | message (type : String)
  /-- Any number of values in order. -/
  | list (element : Kind)
  /-- Values found by key. -/
  | map (key value : Kind)
  deriving DecidableEq, Repr

/-- Why a kind cannot be made from its spelling. -/
inductive KindFault where
  /-- An enum or message kind without the name of its type. -/
  | missingType (kind : String)
  /-- No kind is spelled like this. -/
  | unknown (kind : String)
  /-- A list kind without the kind of its elements. -/
  | missingElement
  /-- A map kind without the kinds of its keys and values. -/
  | missingKeyOrValue
  /-- A kind that map keys cannot have. -/
  | invalidKey (kind : String)
  deriving DecidableEq, Repr

namespace KindFault

/-- The text of a fault. -/
def message : KindFault → String
  | missingType kind => kind ++ " kind requires a type name"
  | unknown kind => "unknown field kind " ++ Text.quote kind
  | missingElement => "list kind requires an element kind"
  | missingKeyOrValue => "map kind requires key and value kinds"
  | invalidKey kind => kind ++ " is not a valid map key kind"

end KindFault

namespace Kind

/-- The spelling of a kind, without its parts. -/
def name : Kind → String
  | scalar type => type.name
  | enum _ => "enum"
  | message _ => "message"
  | list _ => "list"
  | map _ _ => "map"

/-- The name of a type, which must be given and not be empty. -/
def requireType (kind : String) : Option String → Except KindFault String
  | some type => if type = "" then .error (.missingType kind) else .ok type
  | none => .error (.missingType kind)

/-- The kind with the given spelling; enum and message kinds take the name of
their type from `type?`.  Lists and maps have no spelling of their own. -/
def parse (spelling : String) (type? : Option String) : Except KindFault Kind :=
  match Scalar.ofName? spelling with
  | some type => .ok (scalar type)
  | none =>
    if spelling = "enum" then (requireType "enum" type?).map enum
    else if spelling = "message" then (requireType "message" type?).map message
    else .error (.unknown spelling)

/-- The message type that a kind refers to, itself or through the elements of a
list or the values of a map. -/
def reference? : Kind → Option String
  | message type => some type
  | list element => element.reference?
  | map _ value => value.reference?
  | _ => none

/-- Whether a kind holds several values. -/
def isRepeated : Kind → Bool
  | list _ | map _ _ => true
  | _ => false

end Kind
end MessageDump
