import MessageDump.Storage.Tree
/-! # Disks

What can be done to the files of a system, in whatever way the system is given: as
a tree that is carried along or as the surroundings of a running program.  What
takes several operations is defined here once for all of them.
-/
namespace MessageDump
namespace Storage

/-- The operations that change files, each with the fault that may end it. -/
structure Disk (m : Type → Type) where
  /-- Makes a directory in an existing one. -/
  makeDirectory : String → m (Option StorageFault)
  /-- Whether there is a directory at a path. -/
  hasDirectory : String → m Bool
  /-- Writes a text to the file at a path, in an existing directory. -/
  write : String → String → m (Option StorageFault)

namespace Disk

variable {m : Type → Type} [Monad m] (disk : Disk m)

/-- A fault in making a directory, unless the directory is there. -/
def unlessThere (path : String) (fault : StorageFault) : m (Option StorageFault) := do
  return if ← disk.hasDirectory path then none else some fault

/-- Makes the first of some directories.  Each of the others is the one above the
one before it and is made first if that is missing. -/
def makeFirst : List String → m (Option StorageFault)
  | [] => pure none
  | path :: above => do
    match ← disk.makeDirectory path with
    | none => return none
    | some .notFound =>
      match ← makeFirst above with
      | some fault => return some fault
      | none =>
        match ← disk.makeDirectory path with
        | none => return none
        | some fault => disk.unlessThere path fault
    | some fault => disk.unlessThere path fault

/-- Makes a directory and those above it, where they are missing.  The empty path
means the directory at which paths start. -/
def makeDirectories (path : String) : m (Option StorageFault) :=
  if path = "" then pure none else disk.makeFirst (path :: above path)

end Disk

/-- A tree as the disk on which operations work. -/
def Tree.disk : Disk (StateM Tree) where
  makeDirectory path := fun tree => tree.makeDirectory path
  hasDirectory path := fun tree => (tree.hasDirectory path, tree)
  write path content := fun tree => tree.write path content

end Storage
end MessageDump
