/-! # Command lines

A command line names a command and its options.  An option has a short and a
long form; its value follows it as the next argument or in the same one.  The
command for help takes the name of another command instead.
-/
namespace MessageDump
namespace Command

/-- What help can be about. -/
inductive Topic where
  /-- The program as a whole. -/
  | program
  | generate
  | check
  /-- The command that prints help. -/
  | help
  deriving DecidableEq, Repr

/-- The topic of the command with the given name. -/
def Topic.ofCommand? (name : String) : Option Topic :=
  match name with
  | "generate" => some generate
  | "check" => some check
  | "help" => some help
  | _ => none

/-- What the user asks for. -/
inductive Request where
  /-- Generate the source for a schema, to a directory or to standard output. -/
  | generate (schema : String) (config output : Option String)
  /-- Check a schema and report on each message. -/
  | check (schema : String) (config : Option String)
  /-- Print the version. -/
  | version
  /-- Print how the program or a command is used. -/
  | help (topic : Topic)
  deriving DecidableEq, Repr

/-- The options of the commands. -/
inductive OptionKey where
  | schema | config | output
  deriving DecidableEq, Repr

namespace OptionKey

/-- The long form of an option. -/
def long : OptionKey → String
  | schema => "schema"
  | config => "config"
  | output => "output"

/-- The short form of an option. -/
def short : OptionKey → Char
  | schema => 's'
  | config => 'c'
  | output => 'o'

end OptionKey

/-- Options with their values, in the order in which they were given. -/
abbrev Options := List (OptionKey × String)

/-- One more option.  No option can be given twice. -/
def addOption (options : Options) (key : OptionKey) (value : String) : Option Options :=
  if (options.lookup key).isSome then none else some (options ++ [(key, value)])

/-- What an argument is. -/
inductive Argument where
  /-- An option that takes the next argument as its value. -/
  | opened (key : OptionKey)
  /-- An option together with its value. -/
  | complete (key : OptionKey) (value : String)
  | help
  /-- Two dashes, after which no option can follow. -/
  | endOfOptions
  /-- Anything that is no argument of the command. -/
  | unknown

/-- Whether an argument has the form of an option, so that it cannot be a value. -/
def looksLikeOption : List Char → Bool
  | '-' :: _ :: _ => true
  | _ => false

/-- The value behind an equals sign, if there is one. -/
def afterEquals (cs : List Char) : String :=
  match cs with
  | '=' :: value => String.ofList value
  | value => String.ofList value

/-- What an argument is for a command with the given options. -/
def classify (keys : List OptionKey) (argument : String) : Argument :=
  match argument.toList with
  | ['-', '-'] => .endOfOptions
  | '-' :: '-' :: cs =>
    let name := String.ofList (cs.takeWhile (· ≠ '='))
    let rest := cs.dropWhile (· ≠ '=')
    match keys.find? fun key => key.long = name with
    | some key => if rest = [] then .opened key else .complete key (afterEquals rest)
    | none => if name = "help" ∧ rest = [] then .help else .unknown
  | '-' :: c :: rest =>
    match keys.find? fun key => key.short = c with
    | some key => if rest = [] then .opened key else .complete key (afterEquals rest)
    | none => if c = 'h' then .help else .unknown
  | _ => .unknown

/-- What the options of a command line amount to. -/
inductive Collected where
  | options (options : Options)
  | help

/-- Collects the options of a command.  There are no other arguments. -/
def collect (keys : List OptionKey) (options : Options) : List String → Option Collected
  | [] => some (.options options)
  | argument :: rest =>
    match classify keys argument with
    | .complete key value => do
      let options ← addOption options key value
      collect keys options rest
    | .opened key =>
      match rest with
      | [] => none
      | value :: rest =>
        if looksLikeOption value.toList then none
        else do
          let options ← addOption options key value
          collect keys options rest
    | .help => some .help
    | .endOfOptions => if rest = [] then some (.options options) else none
    | .unknown => none

/-- The request of a command line with the given options. -/
def ofOptions (topic : Topic) (request : String → Options → Request) :
    Collected → Option Request
  | .help => some (.help topic)
  | .options options => (options.lookup .schema).map fun schema => request schema options

/-- The request for help with the given arguments, of which the only one can be the
name of a command. -/
def parseHelp : List String → Option Request
  | [] => some (.help .program)
  | [name] => (Topic.ofCommand? name).map .help
  | _ => none

/-- The request of a command line, if it is one. -/
def parse : List String → Option Request
  | [] => none
  | argument :: rest =>
    if argument = "generate" then
      (collect [.schema, .config, .output] [] rest).bind <|
        ofOptions .generate fun schema options =>
          .generate schema (options.lookup .config) (options.lookup .output)
    else if argument = "check" then
      (collect [.schema, .config] [] rest).bind <|
        ofOptions .check fun schema options => .check schema (options.lookup .config)
    else if argument = "help" then parseHelp rest
    else if argument = "--version" then some .version
    else if argument = "--help" then some (.help .program)
    else
      match argument.toList with
      | '-' :: 'V' :: _ => some .version
      | '-' :: 'h' :: _ => some (.help .program)
      | _ => none

end Command
end MessageDump
