import MessageDump.Document.Shape
import MessageDump.Schema.Link
/-! # Schema documents

How a schema is written in a document: a record for each message, with records
for its fields and oneofs.  The kind of a field is spelled by up to five texts,
of which a list uses `element` and a map `key` and `value`, while `type` names
the enum or message that any of them ends in.
-/
namespace MessageDump

open Document (Node Record Shape)

/-- A field as a document spells it. -/
structure FieldDocument where
  name : String
  kind : String
  jsonName : Option String := none
  optional : Bool := false
  weak : Bool := false
  oneof : Option String := none
  /-- The enum or message type, of the field or of its elements or values. -/
  type : Option String := none
  element : Option String := none
  key : Option String := none
  value : Option String := none
  deriving DecidableEq, Repr

/-- A message as a document spells it. -/
structure MessageDocument where
  name : String
  fields : List FieldDocument := []
  oneofs : List String := []
  deriving DecidableEq, Repr

/-- Whether values of a kind can be the keys of a map. -/
def Kind.isKey : Kind → Bool
  | .scalar .float | .scalar .double | .scalar .bytes => false
  | .scalar _ => true
  | _ => false

namespace FieldDocument

/-- The record of a field. -/
def record : Record where
  name := "FieldDocument"
  slots :=
    [{ name := "name", required := true, shape := Shape.text },
     { name := "kind", required := true, shape := Shape.text },
     { name := "json_name", shape := Shape.optionalText },
     { name := "optional", shape := Shape.flag },
     { name := "weak", shape := Shape.flag },
     { name := "oneof", shape := Shape.optionalText },
     { name := "type", shape := Shape.optionalText },
     { name := "element", shape := Shape.optionalText },
     { name := "key", shape := Shape.optionalText },
     { name := "value", shape := Shape.optionalText }]

/-- The field that a node with the shape of one spells. -/
def ofNode (node : Node) : FieldDocument :=
  let part? := fun key => node.part? record.names key
  let text? := fun key => (part? key).bind Node.text?
  let flag := fun key => (part? key).any Node.isTrue
  { name := (text? "name").getD ""
    kind := (text? "kind").getD ""
    jsonName := text? "json_name"
    optional := flag "optional"
    weak := flag "weak"
    oneof := text? "oneof"
    type := text? "type"
    element := text? "element"
    key := text? "key"
    value := text? "value" }

/-- The kind that the texts of a field spell. -/
def toKind (doc : FieldDocument) : Except KindFault Kind :=
  if doc.kind = "list" then
    match doc.element with
    | none => .error .missingElement
    | some element => (Kind.parse element doc.type).map .list
  else if doc.kind = "map" then
    match doc.key, doc.value with
    | some key, some value => do
      let key ← Kind.parse key none
      if key.isKey then (Kind.parse value doc.type).map (.map key)
      else .error (.invalidKey key.name)
    | _, _ => .error .missingKeyOrValue
  else Kind.parse doc.kind doc.type

/-- The field that a document spells. -/
def toField (doc : FieldDocument) : Except KindFault Field := do
  let kind ← doc.toKind
  return {
    name := doc.name
    jsonName := doc.jsonName.getD (Name.camel doc.name)
    kind
    optional := doc.optional
    weak := doc.weak
    oneof := doc.oneof }

end FieldDocument

namespace MessageDocument

/-- The record of a oneof. -/
def oneofRecord : Record where
  name := "OneofDocument"
  slots := [{ name := "name", required := true, shape := Shape.text }]

/-- The record of a message. -/
def record (ignoreSurplus : Bool) : Record where
  name := "MessageDocument"
  slots :=
    [{ name := "name", required := true, shape := Shape.text },
     { name := "fields",
       shape := Shape.sequence (FieldDocument.record.shape ignoreSurplus) },
     { name := "oneofs", shape := Shape.sequence (oneofRecord.shape ignoreSurplus) }]

/-- The names of the parts of a message. -/
def names : List String := (record false).names

/-- The name of the oneof that a node with the shape of one spells. -/
def oneofOfNode (node : Node) : String :=
  ((node.part? oneofRecord.names "name").bind Node.text?).getD ""

/-- The message that a node with the shape of one spells. -/
def ofNode (node : Node) : MessageDocument :=
  let items := fun key => ((node.part? names key).map Node.items).getD []
  { name := ((node.part? names "name").bind Node.text?).getD ""
    fields := (items "fields").map FieldDocument.ofNode
    oneofs := (items "oneofs").map oneofOfNode }

/-- The message that a document spells. -/
def toMessage (doc : MessageDocument) : Except SchemaFault Message := do
  let fields ← doc.fields.mapM fun field =>
    field.toField.mapError (.inField doc.name field.name)
  return { name := doc.name, fields, oneofs := doc.oneofs.map Oneof.mk }

end MessageDocument

namespace Schema

/-- The record of a schema. -/
def record (ignoreSurplus : Bool) : Record where
  name := "SchemaDocument"
  slots :=
    [{ name := "messages",
       shape := Shape.sequence ((MessageDocument.record ignoreSurplus).shape ignoreSurplus) }]

/-- The messages that a node with the shape of a schema spells. -/
def documentsOfNode (node : Node) : List MessageDocument :=
  (((node.part? (record false).names "messages").map Node.items).getD []).map
    MessageDocument.ofNode

/-- The schema that messages of a document make.  All of them are read before any
of them is linked. -/
def ofDocuments (documents : List MessageDocument) : Except SchemaFault Schema := do
  let messages ← documents.mapM MessageDocument.toMessage
  link messages

end Schema
end MessageDump
