import MessageDump.Command.Outcome
/-! # The program

Reads the files of a request, prints what the request amounts to and writes the
files it asks for.
-/

open MessageDump

/-- The reason that the system gives for a failed operation. -/
def systemFault : IO.Error → StorageFault
  | .noFileOrDirectory .. => .notFound
  | .alreadyExists .. => .alreadyExists
  | .inappropriateType _ 21 _ => .isDirectory
  | .inappropriateType .. => .notDirectory
  | .invalidArgument file code text =>
    if code = 36 ∨ code + 36 = 0 then .nameTooLong
    else .other (toString (IO.Error.invalidArgument file code text))
  | fault => .other (toString fault)

/-- The text of a file, or why there is none. -/
def readText (path : String) : IO (Except StorageFault String) := do
  match ← (IO.FS.readBinFile path).toBaseIO with
  | .error fault => return .error (systemFault fault)
  | .ok content =>
    match String.fromUTF8? content with
    | some text => return .ok text
    | none => return .error .notText

/-- The fault that ends an operation. -/
def faultOf (operation : IO Unit) : IO (Option StorageFault) := do
  match ← operation.toBaseIO with
  | .error fault => return some (systemFault fault)
  | .ok _ => return none

/-- The disk of the system.  A directory cannot be made as a part of itself exactly
where it exists. -/
def systemDisk : Storage.Disk IO where
  makeDirectory path := faultOf (IO.FS.createDir path)
  hasDirectory path := return (← faultOf (IO.FS.createDir (path ++ "/."))) = some .alreadyExists
  write path content := faultOf (IO.FS.writeFile path content)

/-- The paths of the files that a request reads. -/
def inputPaths : Command.Request → List String
  | .generate schema config _ => config.toList ++ [schema]
  | .check schema config => config.toList ++ [schema]
  | .version | .help _ => []

def main (args : List String) : IO UInt32 := do
  match Command.parse args with
  | none =>
    IO.eprint Command.Topic.program.text
    return 2
  | some request =>
    let contents ← (inputPaths request).mapM fun path => return (path, ← readText path)
    let plan := Command.plan (fun path => (contents.lookup path).getD (.error .notFound)) request
    IO.print plan.stdout
    let failure ← match plan.failure, plan.delivery with
      | none, some delivery => Command.deliver systemDisk delivery
      | failure, _ => pure failure
    match failure with
    | none => return 0
    | some failure =>
      IO.eprint failure.report
      return 1
