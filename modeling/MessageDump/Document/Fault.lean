import MessageDump.Text.Quoted
/-! # Faults of documents

A document fails either by its form, or by its data: what it holds at some place
is not what belongs there.
-/
namespace MessageDump
namespace Document

/-- What a document holds at a place, as far as a message about it says. -/
inductive Found where
  | null
  | boolean (value : Bool)
  | integer (value : Int)
  /-- A fractional number, as it is written in messages. -/
  | float (shown : String)
  | text (value : String)
  | sequence
  | map
  deriving DecidableEq, Repr

/-- What follows an integer that takes more than 64 bits. -/
def wideSuffix (n : Int) : String :=
  if -Int.pow 2 63 ≤ n ∧ n < Int.pow 2 64 then ""
  else if n < Int.pow 2 127 then " as i128" else " as u128"

/-- How a message speaks of what was found. -/
def Found.phrase : Found → String
  | null => "null"
  | boolean value => "boolean `" ++ (if value then "true" else "false") ++ "`"
  | integer value => "integer `" ++ toString value ++ "`" ++ wideSuffix value
  | float shown => "floating point `" ++ shown ++ "`"
  | text value => "string " ++ Text.quote value
  | sequence => "sequence"
  | map => "map"

/-- Why the data of a document cannot be used. -/
inductive DataFault where
  /-- A key that the record at this place does not have. -/
  | unknownField (name : String) (known : List String)
  | missingField (name : String)
  | duplicateField (name : String)
  | invalidType (found : Found) (expected : String)
  /-- A record written as a sequence that is too short. -/
  | invalidLength (length : Nat) (record : String) (size : Nat)
  deriving DecidableEq, Repr

/-- The names that a record has, as a message lists them. -/
def knownNames (names : List String) : String :=
  match names.map fun name => "`" ++ name ++ "`" with
  | [] => "there are no fields"
  | [only] => "expected " ++ only
  | [first, second] => "expected " ++ first ++ " or " ++ second
  | several => "expected one of " ++ ", ".intercalate several

/-- The text of a fault. -/
def DataFault.message : DataFault → String
  | unknownField name known => "unknown field `" ++ name ++ "`, " ++ knownNames known
  | missingField name => "missing field `" ++ name ++ "`"
  | duplicateField name => "duplicate field `" ++ name ++ "`"
  | invalidType found expected => "invalid type: " ++ found.phrase ++ ", expected " ++ expected
  | invalidLength length record size =>
    "invalid length " ++ toString length ++ ", expected struct " ++ record ++ " with " ++
      toString size ++ (if size = 1 then " element" else " elements")

end Document

/-- Why a document cannot be used. -/
inductive DocumentFault where
  /-- The text does not have the form of its format. -/
  | malformed
  | data (fault : Document.DataFault)
  /-- The name of the file does not tell its format. -/
  | unknownFormat (path : String)
  deriving DecidableEq, Repr

/-- The text of a fault. -/
def DocumentFault.message : DocumentFault → String
  | malformed => "malformed document"
  | data fault => fault.message
  | unknownFormat path =>
    "unrecognized schema format for " ++ path ++ ": expected .json or .toml"

end MessageDump
