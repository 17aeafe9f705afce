import MessageDump.Fault
import MessageDump.Routine.Json
import MessageDump.Routine.Literal
/-! # Generated files

The source of a message is one `impl` block with its two routines.  Generation
turns a schema into one file for each message, in declaration order, or stops at
the first message that cannot be generated.  A dry run generates every message
and reports on each of them.
-/
namespace MessageDump

open Source (Context Step)

namespace Message

/-- The steps for the `impl` block around the two routines of a message. -/
def implSteps (message : Message) (json literal : List Step) : List Step :=
  Source.block ("impl " ++ message.name ++ " \x7b") [.nest json, .blank, .nest literal] "\x7d"

/-- The generated source of a message. -/
def generate (settings : Settings) (message : Message) : Except Unsupported String := do
  let ctx : Context := { settings }
  let json ← Json.steps ctx message
  let literal ← Literal.steps ctx message
  return Source.textOf (message.implSteps json literal)

/-- The comment at the head of the file of a message. -/
def header (message : Message) : String :=
  "// @generated by protodump. Do not edit.\n// Message: " ++ message.name ++ "\n\n"

/-- The name of the file of a message. -/
def fileName (message : Message) : String := Name.snake message.name ++ ".rs"

end Message

/-- A generated file. -/
structure OutputFile where
  /-- The name of the message. -/
  message : String
  /-- The name of the file. -/
  name : String
  content : String
  deriving DecidableEq, Repr

namespace OutputFile

/-- The file of a message with the given source. -/
def ofSource (message : Message) (source : String) : OutputFile :=
  { message := message.name, name := message.fileName, content := message.header ++ source }

/-- The contents of files in one text, with an empty line between them. -/
def concat (files : List OutputFile) : String :=
  "\n".intercalate (files.map (·.content))

end OutputFile

/-- What the dry run says of one message: the size of its source in bytes, or why
there is none. -/
structure Report where
  message : String
  outcome : Except Unsupported Nat

namespace Schema

/-- The files of all messages. -/
def outputFiles (settings : Settings) (schema : Schema) :
    Except Unsupported (List OutputFile) :=
  schema.messages.mapM fun message => do
    let source ← message.generate settings
    return OutputFile.ofSource message source

/-- Generates a schema with settings that are checked first. -/
def generate (settings : Settings) (schema : Schema) :
    Except Fault (List OutputFile) :=
  match settings.validate with
  | .error fault => .error (.settings fault)
  | .ok () => (schema.outputFiles settings).mapError .unsupported

/-- Generates every message without keeping its source. -/
def dryRun (settings : Settings) (schema : Schema) : List Report :=
  schema.messages.map fun message =>
    { message := message.name
      outcome := (message.generate settings).map String.utf8ByteSize }

end Schema
end MessageDump
