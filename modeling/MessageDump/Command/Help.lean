import MessageDump.Command.Arguments
/-! # Help

How the program and each of its commands is used, as it is printed.
-/
namespace MessageDump
namespace Command

/-- A heading above rows of two columns. -/
def listing (heading : String) (rows : List (String × String)) : String :=
  let width := (rows.map fun row => row.1.length).foldl max 0
  let gap := fun (left : String) => String.ofList (List.replicate (width - left.length + 2) ' ')
  let line := fun (left, right) => "  " ++ left ++ gap left ++ right ++ "\n"
  heading ++ ":\n" ++ String.join (rows.map line)

namespace OptionKey

/-- What an option is for. -/
def about : OptionKey → String
  | schema => "Path to the schema document (.json or .toml)"
  | config => "Path to a protodump.toml generator configuration"
  | output => "Directory to write one file per message into (default: stdout)"

/-- The row of an option in a listing. -/
def row (key : OptionKey) : String × String :=
  ("-" ++ key.short.toString ++ ", --" ++ key.long ++ " <" ++ key.long.toUpper ++ ">", key.about)

end OptionKey

/-- The row of the option for help. -/
def helpRow : String × String := ("-h, --help", "Print help")

namespace Topic

/-- What the program or a command is for. -/
def about : Topic → String
  | program => "Generate JSON and literal-dump routines for protobuf messages"
  | generate => "Generate code for every message type in a schema"
  | check => "Validate a schema and dry-run generation for each message"
  | help => "Print this message or the help of the given subcommand(s)"

/-- What is written after the name of the program. -/
def usage : Topic → String
  | program => "<COMMAND>"
  | generate => "generate [OPTIONS] --schema <SCHEMA>"
  | check => "check [OPTIONS] --schema <SCHEMA>"
  | help => "help [COMMAND]..."

/-- The listings of what can be given. -/
def listings : Topic → List String
  | program =>
    [listing "Commands"
      [("generate", about generate), ("check", about check), ("help", about help)],
     listing "Options" [helpRow, ("-V, --version", "Print version")]]
  | generate =>
    [listing "Options"
      [OptionKey.schema.row, OptionKey.config.row, OptionKey.output.row, helpRow]]
  | check => [listing "Options" [OptionKey.schema.row, OptionKey.config.row, helpRow]]
  | help => [listing "Arguments" [("[COMMAND]...", "Print help for the subcommand(s)")]]

/-- The help on a topic. -/
def text (topic : Topic) : String :=
  "\n".intercalate
    ([topic.about ++ "\n", "Usage: protodump " ++ topic.usage ++ "\n"] ++ topic.listings)

end Topic

end Command
end MessageDump
