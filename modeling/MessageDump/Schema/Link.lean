import MessageDump.Fault.Listing
import MessageDump.Name.Identifier
import MessageDump.Schema.Basic
/-! # Linking

Messages are linked into a schema if their names, and the names and keys inside
each of them, are usable and do not clash, and if every reference has a target.
`Message.faults` lists what is wrong with one message in the order in which it
is reported; linking reports the first fault of the first faulty message.
-/
namespace MessageDump

/-- What is wrong inside one message. -/
inductive MessageFault where
  /-- The name of the message cannot name a type. -/
  | badName
  | badOneofName (oneof : String)
  | duplicateOneof (oneof : String)
  | badFieldName (field : String)
  | duplicateField (field : String)
  /-- A field and a oneof have one name. -/
  | nameOfOneof (field : String)
  | repeatedJsonName (field jsonName : String)
  | unknownReference (field type : String)
  | undeclaredOneof (field oneof : String)
  | optionalAlternative (field : String)
  /-- An alternative that holds several values. -/
  | repeatedAlternative (field kind : String)
  | emptyOneof (oneof : String)
  | oneofJsonName (oneof jsonName : String)
  deriving DecidableEq, Repr

namespace MessageFault

/-- The text of a fault. -/
def message : MessageFault → String
  | badName => "message name is not a Rust type name"
  | badOneofName oneof => "oneof name " ++ Text.quote oneof ++ " is not a Rust identifier"
  | duplicateOneof oneof => "duplicate oneof " ++ oneof
  | badFieldName field => "field name " ++ Text.quote field ++ " is not a Rust identifier"
  | duplicateField field => "duplicate field " ++ field
  | nameOfOneof field => "field " ++ field ++ " shares its name with a oneof"
  | repeatedJsonName field jsonName => "field " ++ field ++ " reuses the JSON name " ++ jsonName
  | unknownReference field type =>
    "field " ++ field ++ " references unknown message type " ++ type
  | undeclaredOneof field oneof => "field " ++ field ++ " belongs to undeclared oneof " ++ oneof
  | optionalAlternative field => "oneof field " ++ field ++ " cannot be optional"
  | repeatedAlternative field kind =>
    "oneof field " ++ field ++ " cannot be a " ++ kind ++ " field"
  | emptyOneof oneof => "oneof " ++ oneof ++ " has no fields"
  | oneofJsonName oneof jsonName => "oneof " ++ oneof ++ " reuses the JSON name " ++ jsonName

end MessageFault

/-- Why messages do not make a schema. -/
inductive SchemaFault where
  /-- A message without a name. -/
  | emptyName
  | duplicateMessage (name : String)
  /-- A fault inside the named message. -/
  | inMessage (name : String) (fault : MessageFault)
  /-- A kind that cannot be made, in a document's field. -/
  | inField (message field : String) (fault : KindFault)
  /-- A kind that cannot be made, outside any message. -/
  | inKind (fault : KindFault)
  deriving DecidableEq, Repr

namespace SchemaFault

/-- The text of a fault. -/
def message : SchemaFault → String
  | emptyName => "message name cannot be empty"
  | duplicateMessage name => "duplicate message type " ++ name
  | inMessage name fault => name ++ ": " ++ fault.message
  | inField message field fault => message ++ "." ++ field ++ ": " ++ fault.message
  | inKind fault => fault.message

end SchemaFault

namespace Oneof

/-- The faults of a oneof's name, given the oneofs declared before it. -/
def nameFaults (earlier : List Oneof) (oneof : Oneof) : List MessageFault :=
  faultIf (!Name.isIdentifier oneof.name) (.badOneofName oneof.name) ++
  faultIf (earlier.any fun other => other.name = oneof.name) (.duplicateOneof oneof.name)

/-- The faults of a oneof's use, given the oneofs declared before it.  Its key
stands in one object with the keys of the fields and of those oneofs. -/
def useFaults (message : Message) (earlier : List Oneof) (oneof : Oneof) : List MessageFault :=
  faultIf (message.alternatives oneof).isEmpty (.emptyOneof oneof.name) ++
  faultIf (message.fields.any (fun field => field.jsonName = oneof.jsonName) ||
      earlier.any fun other => other.jsonName = oneof.jsonName)
    (.oneofJsonName oneof.name oneof.jsonName)

end Oneof

namespace Field

/-- The faults of a field's names, given the fields declared before it. -/
def nameFaults (message : Message) (earlier : List Field) (field : Field) : List MessageFault :=
  faultIf (!Name.isIdentifier field.name) (.badFieldName field.name) ++
  faultIf (earlier.any fun other => other.name = field.name) (.duplicateField field.name) ++
  faultIf (message.oneofs.any fun oneof => oneof.name = field.name) (.nameOfOneof field.name) ++
  faultIf (earlier.any fun other => other.jsonName = field.jsonName)
    (.repeatedJsonName field.name field.jsonName)

/-- The fault of a field that refers to a message type outside the given names. -/
def referenceFaults (names : List String) (field : Field) : List MessageFault :=
  match field.kind.reference? with
  | some type => faultIf (!names.contains type) (.unknownReference field.name type)
  | none => []

/-- The faults of a field as an alternative of a oneof. -/
def membershipFaults (message : Message) (field : Field) : List MessageFault :=
  match field.oneof with
  | some oneof =>
    faultIf (!message.oneofs.any fun declared => declared.name = oneof)
      (.undeclaredOneof field.name oneof) ++
    faultIf field.optional (.optionalAlternative field.name) ++
    faultIf field.kind.isRepeated (.repeatedAlternative field.name field.kind.name)
  | none => []

/-- Everything that is wrong with a field. -/
def faults (names : List String) (message : Message) (earlier : List Field) (field : Field) :
    List MessageFault :=
  field.nameFaults message earlier ++ field.referenceFaults names ++
    field.membershipFaults message

end Field

namespace Message

/-- Everything that is wrong with a message in a schema with the given message
names, in the order in which it is reported. -/
def faults (names : List String) (message : Message) : List MessageFault :=
  faultIf (!Name.isIdentifier message.name || Name.isKeyword message.name) .badName ++
  (withEarlier [] message.oneofs).flatMap (fun (earlier, oneof) => oneof.nameFaults earlier) ++
  (withEarlier [] message.fields).flatMap
    (fun (earlier, field) => field.faults names message earlier) ++
  (withEarlier [] message.oneofs).flatMap
    (fun (earlier, oneof) => oneof.useFaults message earlier)

/-- The fault of a message's name, given the messages before it. -/
def nameFaults (earlier : List Message) (message : Message) : List SchemaFault :=
  faultIf (message.name = "") .emptyName ++
  faultIf (earlier.any fun other => other.name = message.name) (.duplicateMessage message.name)

end Message

namespace Schema

/-- Everything that is wrong with a list of messages.  All names are looked at
before the inside of any message. -/
def faults (messages : List Message) : List SchemaFault :=
  (withEarlier [] messages).flatMap (fun (earlier, message) => message.nameFaults earlier) ++
  messages.flatMap fun message =>
    (message.faults (messages.map (·.name))).map (.inMessage message.name)

/-- Links messages into a schema. -/
def link (messages : List Message) : Except SchemaFault Schema :=
  unlessFaulty (faults messages) ⟨messages⟩

end Schema
end MessageDump
