import MessageDump.Text.Split
/-! # Paths

A path is a row of steps between slashes, from the root if it starts with a
slash.  Not every path leads somewhere, and an operation on what it leads to may
fail as well; all reasons for that are listed here.
-/
namespace MessageDump

/-- A reason for which storage turns an operation down. -/
inductive StorageFault where
  | notFound
  | notDirectory
  | isDirectory
  | alreadyExists
  | nameTooLong
  /-- A path holds the character with the number zero. -/
  | nulInPath
  /-- The bytes of a file are not the UTF-8 form of a text. -/
  | notText
  /-- Any other reason, in the words of the system. -/
  | other (text : String)
  deriving DecidableEq, Repr

/-- The text of a fault. -/
def StorageFault.message : StorageFault → String
  | notFound => "No such file or directory (os error 2)"
  | notDirectory => "Not a directory (os error 20)"
  | isDirectory => "Is a directory (os error 21)"
  | alreadyExists => "File exists (os error 17)"
  | nameTooLong => "File name too long (os error 36)"
  | nulInPath => "file name contained an unexpected NUL byte"
  | notText => "stream did not contain valid UTF-8"
  | other text => text

namespace Storage

/-- The most bytes of UTF-8 that a path may have. -/
def longestPath : Nat := 4095

/-- The most bytes of UTF-8 that a name may have. -/
def longestName : Nat := 255

/-- The steps of a path. -/
def steps (path : String) : List String :=
  (Text.splitAt '/' path.toList).map String.ofList

/-- Whether a path starts at the root. -/
def isAbsolute (path : String) : Bool := path.toList.head? = some '/'

/-- The steps of a path that can lead anywhere. -/
def validSteps (path : String) : Except StorageFault (List String) :=
  if path.toList.contains '\x00' then .error .nulInPath
  else if path = "" then .error .notFound
  else if longestPath < path.utf8ByteSize then .error .nameTooLong
  else .ok (steps path)

/-- The name in a step, unless the step leads to the directory it starts from or to
the one above. -/
def nameOf? (step : String) : Option String :=
  if step = "" ∨ step = "." ∨ step = ".." then none else some step

/-- The steps without the empty ones at their end, which slashes at the end of a
path make. -/
def dropEmptyEnd : List String → List String
  | [] => []
  | step :: rest =>
    match dropEmptyEnd rest with
    | [] => if step = "" then [] else [step]
    | others => step :: others

/-- The paths of the directories above a path, the nearest first, up to the place
where the path starts.  Steps that stay where they are do not count, but for the
first one. -/
def above (path : String) : List String :=
  let start := if isAbsolute path then "/" else ""
  let steps := (steps path).zipIdx.filterMap fun (step, number) =>
    if step = "" ∨ (step = "." ∧ number ≠ 0) then none else some step
  (List.range (steps.length - 1)).reverse.map fun count =>
    start ++ "/".intercalate (steps.take (count + 1))

/-- What follows the last point of a name, unless nothing precedes that point. -/
def extensionOf? (name : List Char) : Option (List Char) :=
  match (Text.splitAt '.' name).reverse with
  | extension :: piece :: pieces =>
    if piece = [] ∧ pieces = [] then none else some extension
  | _ => none

/-- The extension of the file at the end of a path. -/
def extension? (path : String) : Option String := do
  let last ← (Text.splitAt '/' path.toList).getLast?
  let extension ← extensionOf? last
  return String.ofList extension

/-- The path of a file in a directory. -/
def join (directory name : String) : String :=
  match directory.toList.getLast? with
  | none => name
  | some '/' => directory ++ name
  | some _ => directory ++ "/" ++ name

end Storage
end MessageDump
