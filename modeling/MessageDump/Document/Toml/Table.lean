import MessageDump.Document.Node
/-! # TOML: building tables

Tables are put together from headers and assignments in any order.  A table that
came into being as a step on the way to another may be defined by its own header
once; a table made by dotted keys belongs to the table that these keys stand in;
and a value that is complete where it is written cannot be extended.
-/
namespace MessageDump
namespace Document
namespace Toml

mutual

/-- What stands under a key. -/
inductive Item where
  /-- A value that is complete where it is written. -/
  | leaf (node : Node)
  | table (table : Table)
  /-- Tables of one name, each with a header of its own. -/
  | tables (tables : List Table)

/-- A table that may still grow: whether it is only a step on the way to other
tables, and whether it was made by a dotted key. -/
inductive Table where
  | mk (implicit dotted : Bool) (entries : List (String × Item))

end

namespace Table

/-- A table that is defined by itself. -/
def empty : Table := .mk false false []

/-- Whether the table is only a step on the way to others. -/
def implicit : Table → Bool
  | .mk implicit _ _ => implicit

/-- Whether the table was made by a dotted key. -/
def dotted : Table → Bool
  | .mk _ dotted _ => dotted

/-- The entries of a table. -/
def entries : Table → List (String × Item)
  | .mk _ _ entries => entries

/-- The table with another item under a key. -/
def put (table : Table) (key : String) (item : Item) : Table :=
  .mk table.implicit table.dotted
    ((table.entries.filter fun entry => entry.1 ≠ key) ++ [(key, item)])

/-- The table as one that has a definition of its own. -/
def defined (table : Table) : Table := .mk false table.dotted table.entries

/-- Changes the table at the end of a path.  Tables that are missing on the way
come into being; of several tables of one name the last is meant. -/
def modify (dotted : Bool) (change : Table → Option Table) :
    List String → Table → Option Table
  | [], table => change table
  | key :: path, table => do
    match table.entries.lookup key with
    | none =>
      let child ← modify dotted change path (.mk true dotted [])
      return table.put key (.table child)
    | some (.table child) =>
      if dotted && !child.implicit then none
      else
        let child ← modify dotted change path child
        return table.put key (.table child)
    | some (.tables tables) =>
      let last ← tables.getLast?
      let last ← modify dotted change path last
      return table.put key (.tables (tables.dropLast ++ [last]))
    | some (.leaf _) => none

/-- The table with a value under a key at the end of a path. -/
def assign (table : Table) (path : List String) (key : String) (node : Node) : Option Table :=
  let dotted := !path.isEmpty
  table.modify dotted (fun parent =>
    if parent.dotted != dotted || (parent.entries.lookup key).isSome then none
    else some (parent.put key (.leaf node))) path

end Table

/-- A value that is assigned to a key. -/
structure Assignment where
  path : List String
  key : String
  node : Node

/-- A header with the path and the key of its table. -/
structure Header where
  /-- Whether the table is one of several of its name. -/
  several : Bool
  path : List String
  key : String

namespace Table

/-- The table with all the assignments. -/
def assignAll (table : Table) (assignments : List Assignment) : Option Table :=
  assignments.foldlM (fun table a => table.assign a.path a.key a.node) table

/-- The table with the table that a header defines and the assignments below the
header. -/
def define (root : Table) (header : Header) (assignments : List Assignment) : Option Table :=
  root.modify false (fun parent =>
    match header.several, parent.entries.lookup header.key with
    | true, none => do
      let table ← empty.assignAll assignments
      return parent.put header.key (.tables [table])
    | true, some (.tables tables) => do
      let table ← empty.assignAll assignments
      return parent.put header.key (.tables (tables ++ [table]))
    | false, none => do
      let table ← empty.assignAll assignments
      return parent.put header.key (.table table)
    | false, some (.table table) =>
      if table.implicit && !table.dotted then do
        let table ← table.defined.assignAll assignments
        return parent.put header.key (.table table)
      else none
    | _, _ => none) header.path

end Table

/-- An entry in its place among entries that are sorted by key. -/
def insertSorted (entry : String × Node) : List (String × Node) → List (String × Node)
  | [] => [entry]
  | other :: rest =>
    if entry.1 < other.1 then entry :: other :: rest else other :: insertSorted entry rest

/-- Entries in the order of their keys. -/
def sorted (entries : List (String × Node)) : List (String × Node) :=
  entries.foldr insertSorted []

mutual

/-- An item as a part of a document. -/
def Item.node : Item → Node
  | .leaf node => node
  | .table table => table.node
  | .tables tables => .array (tableNodes tables) true

/-- A table as a part of a document.  Its entries are in the order of their keys,
in which tables are visited. -/
def Table.node : Table → Node
  | .mk _ _ entries => .object (sorted (entryNodes entries)) true

/-- Tables as parts of a document. -/
def tableNodes : List Table → List Node
  | [] => []
  | table :: rest => table.node :: tableNodes rest

/-- Entries as parts of a document. -/
def entryNodes : List (String × Item) → List (String × Node)
  | [] => []
  | (key, item) :: rest => (key, item.node) :: entryNodes rest

end

end Toml
end Document
end MessageDump
