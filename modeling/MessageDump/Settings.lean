import MessageDump.Fault.Listing
import MessageDump.Name.Identifier
import MessageDump.Text.Quoted
import MessageDump.Text.Split
/-! # Settings

The names and texts that a user may choose for the generated source, and the
check that they can be used.
-/
namespace MessageDump

/-- Choices for the generated source. -/
structure Settings where
  /-- The name of the routine that builds the JSON node tree. -/
  jsonMethod : String := "to_json"
  /-- The name of the routine that renders the literal dump. -/
  literalMethod : String := "to_literal"
  /-- What a nested message adds to the indentation of its literal dump. -/
  indentUnit : String := "\t"
  /-- The path of the JSON library as seen from the generated source. -/
  jsonCrate : String := "::serde_json"
  deriving DecidableEq, Repr

/-- Why settings cannot be used. -/
inductive SettingsFault where
  | badName (key name : String)
  | keyword (key name : String)
  | sameNames
  | emptyIndent
  | emptyCrate
  deriving DecidableEq, Repr

namespace SettingsFault

/-- The text of a fault. -/
def message : SettingsFault → String
  | badName key name => key ++ " must be a Rust identifier, got " ++ Text.quote name
  | keyword key name => key ++ " cannot be the Rust keyword " ++ Text.quote name
  | sameNames => "json_method and literal_method must differ"
  | emptyIndent => "indent_unit cannot be empty"
  | emptyCrate => "json_crate cannot be empty"

end SettingsFault

namespace Settings

/-- The faults of the name chosen for a routine. -/
def nameFaults (key name : String) : List SettingsFault :=
  faultIf (!Name.isIdentifier name) (.badName key name) ++
  faultIf (Name.isKeyword name) (.keyword key name)

/-- Everything that is wrong with settings, in the order in which it is
reported. -/
def faults (settings : Settings) : List SettingsFault :=
  nameFaults "json_method" settings.jsonMethod ++
  nameFaults "literal_method" settings.literalMethod ++
  faultIf (settings.jsonMethod = settings.literalMethod) .sameNames ++
  faultIf (settings.indentUnit = "") .emptyIndent ++
  faultIf (Text.allBlank settings.jsonCrate) .emptyCrate

/-- Checks settings. -/
def validate (settings : Settings) : Except SettingsFault Unit :=
  unlessFaulty settings.faults ()

end Settings
end MessageDump
