import MessageDump.Name.Casing
import MessageDump.Schema.Kind
/-! # Messages and schemas

A schema is a list of message types.  A message type has fields and oneofs, both
in declaration order; a field is either on its own or an alternative of a oneof,
of which a message value holds at most one.
-/
namespace MessageDump

/-- A field of a message type. -/
structure Field where
  /-- The declared name. -/
  name : String
  /-- The key of the field in JSON output. -/
  jsonName : String
  /-- What the field holds. -/
  kind : Kind
  /-- Whether an unset field differs from one that holds the zero value. -/
  optional : Bool := false
  /-- Whether the field is a weak one, which takes no part in generation. -/
  weak : Bool := false
  /-- The oneof of which the field is an alternative. -/
  oneof : Option String := none
  deriving DecidableEq, Repr

/-- A field with the JSON name that its declared name has by convention. -/
def Field.ofName (name : String) (kind : Kind) : Field :=
  { name, jsonName := Name.camel name, kind }

/-- A named group of fields of which at most one is set. -/
structure Oneof where
  name : String
  deriving DecidableEq, Repr

namespace Oneof

/-- The key of a oneof in JSON output. -/
def jsonName (oneof : Oneof) : String := Name.camel oneof.name

end Oneof

/-- A message type. -/
structure Message where
  name : String
  fields : List Field := []
  oneofs : List Oneof := []
  deriving DecidableEq, Repr

namespace Message

/-- The message with one more field at the end. -/
def addField (message : Message) (field : Field) : Message :=
  { message with fields := message.fields ++ [field] }

/-- The message with one more oneof at the end. -/
def addOneof (message : Message) (name : String) : Message :=
  { message with oneofs := message.oneofs ++ [⟨name⟩] }

/-- The fields that belong to no oneof, in declaration order. -/
def standalone (message : Message) : List Field :=
  message.fields.filter fun field => field.oneof.isNone

/-- The alternatives of a oneof, in declaration order. -/
def alternatives (message : Message) (oneof : Oneof) : List Field :=
  message.fields.filter fun field => field.oneof = some oneof.name

end Message

/-- A collection of message types in declaration order. -/
structure Schema where
  messages : List Message := []
  deriving DecidableEq, Repr

namespace Schema

/-- The message type of the given name. -/
def get? (schema : Schema) (name : String) : Option Message :=
  schema.messages.find? fun message => message.name = name

/-- The number of message types. -/
def size (schema : Schema) : Nat := schema.messages.length

end Schema
end MessageDump
