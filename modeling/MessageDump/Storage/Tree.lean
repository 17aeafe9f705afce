import MessageDump.Storage.Path
/-! # Trees of files

All files and directories of a system.  An entry is found by the names on the way
to it from the root.  Paths lead along such ways, and an operation that is given a
path fails at the first step that cannot be taken.
-/
namespace MessageDump
namespace Storage

/-- What stands at a place of a tree. -/
inductive Entry where
  | directory
  | file (content : ByteArray)

instance : DecidableEq Entry
  | .directory, .directory => isTrue rfl
  | .directory, .file _ | .file _, .directory => isFalse nofun
  | .file a, .file b =>
    match ByteArray.instDecidableEq a b with
    | isTrue same => isTrue (congrArg Entry.file same)
    | isFalse different => isFalse fun same => different (Entry.file.inj same)

/-- A tree.  The root has no entry. -/
structure Tree where
  /-- The place of the directory at which paths start that are not absolute. -/
  home : List String := []
  entries : List (List String × Entry) := []

namespace Tree

/-- What stands at the given place. -/
def find? (tree : Tree) (place : List String) : Option Entry :=
  if place = [] then some .directory else tree.entries.lookup place

/-- The tree with an entry at a place, in place of any other. -/
def put (tree : Tree) (place : List String) (entry : Entry) : Tree :=
  { tree with
    entries := (tree.entries.filter fun other => other.1 ≠ place) ++ [(place, entry)] }

/-- Whether there is a directory at a place. -/
def isDirectory (tree : Tree) (place : List String) : Bool :=
  tree.find? place = some .directory

/-- The place that a name has in the directory at a place, and what stands there. -/
def child (tree : Tree) (place : List String) (name : String) :
    Except StorageFault (List String × Option Entry) :=
  if longestName < name.utf8ByteSize then .error .nameTooLong
  else .ok (place ++ [name], tree.find? (place ++ [name]))

/-- The place that one step leads to from a place, where a directory has to be.
Nothing is above the root but the root. -/
def next (tree : Tree) (place : List String) (step : String) :
    Except StorageFault (List String) :=
  if !tree.isDirectory place then .error .notDirectory
  else
    match nameOf? step with
    | none => .ok (if step = ".." then place.dropLast else place)
    | some name => do
      match ← tree.child place name with
      | (place, some _) => .ok place
      | (_, none) => .error .notFound

/-- The place at which a path starts. -/
def start (tree : Tree) (path : String) : List String :=
  if isAbsolute path then [] else tree.home

/-- The place of a path. -/
def locate (tree : Tree) (path : String) : Except StorageFault (List String) := do
  (← validSteps path).foldlM tree.next (tree.start path)

/-- Whether there is a directory at a path. -/
def hasDirectory (tree : Tree) (path : String) : Bool :=
  match tree.locate path with
  | .ok place => tree.isDirectory place
  | .error _ => false

/-- The text of the file at a path. -/
def read (tree : Tree) (path : String) : Except StorageFault String := do
  let place ← tree.locate path
  match tree.find? place with
  | some (.file content) =>
    match String.fromUTF8? content with
    | some text => .ok text
    | none => .error .notText
  | some .directory => .error .isDirectory
  | none => .error .notFound

/-- The place of the last of the given steps and what stands there.  All steps
before it lead to directories; one that is no name leads to a directory too. -/
def target (tree : Tree) (place : List String) (steps : List String) :
    Except StorageFault (List String × Option Entry) := do
  let parent ← steps.dropLast.foldlM tree.next place
  if !tree.isDirectory parent then .error .notDirectory
  match steps.getLast?.bind nameOf? with
  | some name => tree.child parent name
  | none => .ok (parent, some .directory)

/-- The place at which a directory can be made. -/
def vacant (tree : Tree) (path : String) : Except StorageFault (List String) := do
  match ← tree.target (tree.start path) (dropEmptyEnd (← validSteps path)) with
  | (place, none) => .ok place
  | (_, some _) => .error .alreadyExists

/-- The place at which a file can be written. -/
def writable (tree : Tree) (path : String) : Except StorageFault (List String) := do
  match ← tree.target (tree.start path) (← validSteps path) with
  | (_, some .directory) => .error .isDirectory
  | (place, _) => .ok place

/-- The fault that ended an operation, and the tree after it. -/
abbrev Change := Option StorageFault × Tree

/-- Makes a directory in an existing one. -/
def makeDirectory (tree : Tree) (path : String) : Change :=
  match tree.vacant path with
  | .ok place => (none, tree.put place .directory)
  | .error fault => (some fault, tree)

/-- Writes a file in an existing directory. -/
def write (tree : Tree) (path content : String) : Change :=
  match tree.writable path with
  | .ok place => (none, tree.put place (.file content.toUTF8))
  | .error fault => (some fault, tree)

end Tree

end Storage
end MessageDump
