import MessageDump.Command.Help
import MessageDump.Generation
import MessageDump.Loading
import MessageDump.Storage.Disk
/-! # Running commands

What a command prints and writes, given the files that it may read.  Nothing is
written before everything was generated, so that a command which fails earlier
leaves no trace.
-/
namespace MessageDump
namespace Command

open Storage (Disk Tree)

/-- Why a command fails. -/
inductive Cause where
  /-- There is nothing more to say. -/
  | none
  | fault (fault : Fault)
  | storage (fault : StorageFault)
  deriving DecidableEq, Repr

/-- A failure: what was attempted, and why it did not succeed. -/
structure Failure where
  context : String
  cause : Cause
  deriving DecidableEq, Repr

namespace Cause

/-- The causes behind a failure, each behind the one before it. -/
def texts : Cause → List String
  | .none => []
  | .fault (.storage reason) => [(Fault.storage reason).message, reason.message]
  | .fault reason => [reason.message]
  | .storage reason => [reason.message]

end Cause

/-- A text with its further lines indented. -/
def indented (indent : String) (text : String) : String :=
  ("\n" ++ indent).intercalate ((Text.splitAt '\n' text.toList).map String.ofList)

/-- A numbered cause on lines of its own. -/
def numberedCause (number : Nat) (text : String) : String :=
  let digits := toString number
  String.ofList (List.replicate (5 - digits.length) ' ') ++ digits ++ ": " ++
    indented "       " text ++ "\n"

namespace Failure

/-- The report on a failure, as it is printed. -/
def report (failure : Failure) : String :=
  let head := "Error: " ++ failure.context ++ "\n"
  match failure.cause.texts with
  | [] => head
  | [only] => head ++ "\nCaused by:\n    " ++ indented "    " only ++ "\n"
  | several =>
    head ++ "\nCaused by:\n" ++
      String.join (several.zipIdx.map fun (text, number) => numberedCause number text)

/-- The failure of an attempt with a fault. -/
def ofFault (context : String) (fault : Fault) : Failure := ⟨context, .fault fault⟩

end Failure

/-- Files that are to be written into a directory. -/
structure Delivery where
  directory : String
  files : List OutputFile
  deriving DecidableEq, Repr

/-- What a command amounts to before anything is written. -/
structure Plan where
  stdout : String := ""
  delivery : Option Delivery := none
  failure : Option Failure := none
  deriving DecidableEq, Repr

/-- Settings from a file or the defaults. -/
def loadSettings (read : FileReader) (config : Option String) : Except Failure Settings :=
  (Settings.loadOptional read config).mapError
    (Failure.ofFault ("Failed to load config: " ++ config.getD ""))

/-- A schema from a file. -/
def loadSchema (read : FileReader) (path : String) : Except Failure Schema :=
  (Schema.load read path).mapError (Failure.ofFault ("Failed to load schema: " ++ path))

/-- The files of a schema. -/
def generateFiles (read : FileReader) (schema : String) (config : Option String) :
    Except Failure (List OutputFile) := do
  let settings ← loadSettings read config
  let schema ← loadSchema read schema
  (schema.generate settings).mapError (Failure.ofFault "Code generation failed")

/-- The plan of the command that generates a schema. -/
def generate (read : FileReader) (schema : String) (config output : Option String) : Plan :=
  match generateFiles read schema config with
  | .error failure => { failure := some failure }
  | .ok files =>
    match output with
    | some directory => { delivery := some { directory, files } }
    | none => { stdout := OutputFile.concat files }

/-- The line of a report of the dry run. -/
def reportLine (report : Report) : String :=
  match report.outcome with
  | .ok size => "✓ " ++ report.message ++ " (" ++ toString size ++ " bytes)\n"
  | .error fault => "✗ " ++ report.message ++ ": " ++ fault.message ++ "\n"

/-- Whether a report of the dry run is a failure. -/
def isFailed (report : Report) : Bool :=
  match report.outcome with
  | .ok _ => false
  | .error _ => true

/-- Settings and a schema that can be checked. -/
def loadChecked (read : FileReader) (schema : String) (config : Option String) :
    Except Failure (Settings × Schema) := do
  let settings ← loadSettings read config
  settings.validate.mapError fun fault =>
    Failure.ofFault "Invalid generator configuration" (.settings fault)
  let schema ← loadSchema read schema
  return (settings, schema)

/-- The plan of the command that checks a schema. -/
def check (read : FileReader) (schema : String) (config : Option String) : Plan :=
  let start := "Checking schema: " ++ schema ++ "\n"
  match loadChecked read schema config with
  | .error failure => { stdout := start, failure := some failure }
  | .ok (settings, schema) =>
    let reports := schema.dryRun settings
    let printed := start ++ "✓ Message types: " ++ toString schema.size ++ "\n" ++
      String.join (reports.map reportLine)
    let failed := reports.countP isFailed
    if failed = 0 then { stdout := printed ++ "\nSchema is valid!\n" }
    else
      { stdout := printed
        failure := some
          ⟨toString failed ++ " of " ++ toString reports.length ++
            " message types cannot be generated", .none⟩ }

/-- The plan of a request. -/
def plan (read : FileReader) : Request → Plan
  | .generate schema config output => generate read schema config output
  | .check schema config => check read schema config
  | .version => { stdout := "protodump 0.3.0\n" }
  | .help topic => { stdout := topic.text }

/-- The failure to make a directory. -/
def directoryFailure (directory : String) (fault : StorageFault) : Failure :=
  ⟨"Failed to create directory: " ++ Text.quote directory, .storage fault⟩

/-- The failure to write a file. -/
def fileFailure (path : String) (fault : StorageFault) : Failure :=
  ⟨"Failed to write " ++ Text.quote path, .storage fault⟩

section Delivery

variable {m : Type → Type} [Monad m] (disk : Disk m)

/-- Writes files into a directory until one cannot be written. -/
def writeFiles (directory : String) : List OutputFile → m (Option Failure)
  | [] => pure none
  | file :: rest => do
    let path := Storage.join directory file.name
    match ← disk.write path file.content with
    | some fault => return some (fileFailure path fault)
    | none => writeFiles directory rest

/-- Makes the directory of a delivery and writes its files. -/
def deliver (delivery : Delivery) : m (Option Failure) := do
  match ← disk.makeDirectories delivery.directory with
  | some fault => return some (directoryFailure delivery.directory fault)
  | none => writeFiles disk delivery.directory delivery.files

end Delivery

/-- What a command leaves behind. -/
structure Outcome where
  stdout : String
  failure : Option Failure
  tree : Tree

/-- Runs a request on a tree of files. -/
def run (tree : Tree) (request : Request) : Outcome :=
  let plan := plan tree.read request
  match plan.failure, plan.delivery with
  | none, some delivery =>
    let (failure, tree) := (deliver Tree.disk delivery).run tree
    { stdout := plan.stdout, failure, tree }
  | failure, _ => { stdout := plan.stdout, failure, tree }

end Command
end MessageDump
