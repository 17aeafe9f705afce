import MessageDump.Document.Json
import MessageDump.Document.Toml.Reader
import MessageDump.Fault
import MessageDump.Schema.Document
import MessageDump.Storage.Path
/-! # Loading schemas and settings

From the text of a document to what it stands for.  The text is read into a tree,
the tree is checked against the shape of its root, and what has the right shape
is turned into a schema or into settings.
-/
namespace MessageDump

open Document (Node Record Shape)

/-- The text that a file holds, or why there is none. -/
abbrev FileReader := String → Except StorageFault String

namespace Schema

/-- The schema in a document of the given shape. -/
def ofParsed (ignoreSurplus : Bool) (parsed : Document.Parsed) : Except Fault Schema := do
  let root ← (parsed.check ((record ignoreSurplus).shape ignoreSurplus)).mapError .document
  (ofDocuments (documentsOfNode root)).mapError .schema

/-- The schema in a JSON text. -/
def ofJson (text : String) : Except Fault Schema :=
  ofParsed false (Document.Json.read text)

/-- The schema in a TOML text.  Records written as sequences may be longer than
needed. -/
def ofToml (text : String) : Except Fault Schema :=
  ofParsed true (Document.Toml.read text)

/-- The schema in a file, whose name tells the format.  The file is read first. -/
def load (read : FileReader) (path : String) : Except Fault Schema := do
  let text ← (read path).mapError .storage
  match Storage.extension? path with
  | some "json" => ofJson text
  | some "toml" => ofToml text
  | _ => .error (.document (.unknownFormat path))

end Schema

namespace Settings

/-- The record of settings. -/
def record : Record where
  name := "GeneratorConfig"
  slots :=
    [{ name := "json_method", shape := Shape.text },
     { name := "literal_method", shape := Shape.text },
     { name := "indent_unit", shape := Shape.text },
     { name := "json_crate", shape := Shape.text }]

/-- The settings that a node with the shape of settings spells; what it leaves out
has its default. -/
def ofNode (node : Node) : Settings :=
  let text := fun key (default : String) =>
    ((node.part? record.names key).bind Node.text?).getD default
  let defaults : Settings := {}
  { jsonMethod := text "json_method" defaults.jsonMethod
    literalMethod := text "literal_method" defaults.literalMethod
    indentUnit := text "indent_unit" defaults.indentUnit
    jsonCrate := text "json_crate" defaults.jsonCrate }

/-- The settings in a TOML text.  A blank text stands for the defaults. -/
def ofToml (text : String) : Except Fault Settings :=
  if Text.allBlank text then .ok {}
  else do
    let root ← ((Document.Toml.read text).check (record.shape true)).mapError .document
    let settings := ofNode root
    settings.validate.mapError .settings
    return settings

/-- The settings in a file. -/
def load (read : FileReader) (path : String) : Except Fault Settings := do
  let text ← (read path).mapError .storage
  ofToml text

/-- The settings in a file, or the defaults if there is none. -/
def loadOptional (read : FileReader) : Option String → Except Fault Settings
  | some path => load read path
  | none => .ok {}

end Settings
end MessageDump
