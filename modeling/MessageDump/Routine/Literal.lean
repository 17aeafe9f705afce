import MessageDump.Routine.Block
/-! # The literal routine

The routine that renders a message as a literal dump: one line for each field
and oneof that is set, and for a message an opening line, its own lines one unit
deeper, and a closing line.  The value of a oneof is wrapped in the name of its
variant.

The routine writes its lines through format templates, in which `{}` and `{:?}`
stand for a value and a doubled brace for a brace.
-/
namespace MessageDump
namespace Literal

open Source (Context Operand Step)

/-- A value that may be wrapped: what precedes it. -/
def wrapOpening (wrapper : String) : String :=
  if wrapper = "" then "" else wrapper ++ "("

/-- A value that may be wrapped: what follows it. -/
def wrapClosing (wrapper : String) : String :=
  if wrapper = "" then "" else ")"

/-- The template of a line with one value. -/
def valueTemplate (label wrapper verb : String) : String :=
  "\x7b\x7d" ++ label ++ ": " ++ wrapOpening wrapper ++ verb ++ wrapClosing wrapper ++ ",\\n"

/-- The template of the line that opens a message. -/
def openingTemplate (label wrapper type : String) : String :=
  "\x7b\x7d" ++ label ++ ": " ++ wrapOpening wrapper ++ type ++ "\x7b\x7b\\n"

/-- The template of the line that closes a message. -/
def closingTemplate (wrapper : String) : String :=
  "\x7b\x7d\x7d\x7d" ++ wrapClosing wrapper ++ ",\\n"

/-- The statement that adds a text to the dump. -/
def push (ctx : Context) (text : String) : Step :=
  .line (ctx.locals.out ++ ".push_str(&" ++ text ++ ");")

/-- The expression for a template that is filled with the given expressions. -/
def filled (template : String) (arguments : List String) : String :=
  "format!(\"" ++ template ++ "\", " ++ ", ".intercalate arguments ++ ")"

/-- How a value is dumped. -/
inductive Form where
  /-- On its line, through the given placeholder. -/
  | value (verb : String)
  /-- As a message of the given type, on lines of its own. -/
  | nested (type : String)
  deriving DecidableEq, Repr

/-- The placeholder for a scalar value: texts are quoted. -/
def scalarVerb? : Scalar → Option String
  | .string => some "\x7b:?\x7d"
  | .bytes => none
  | _ => some "\x7b\x7d"

/-- How values of a kind are dumped, if they are. -/
def form? : Kind → Option Form
  | .scalar type => (scalarVerb? type).map .value
  | .message type => some (.nested type)
  | .enum _ | .list _ | .map _ _ => none

/-- How the value of a field is dumped. -/
def form (message : Message) (field : Field) : Except Unsupported Form :=
  if field.weak then .error (.weak message.name field.name)
  else
    match form? field.kind with
    | some form => .ok form
    | none => .error (.kind message.name field.name field.kind.name .literal)

/-- The statements that dump a value under a label. -/
def lines (ctx : Context) (label wrapper : String) (operand : Operand) : Form → List Step
  | .value verb =>
    [push ctx (filled (valueTemplate label wrapper verb) [ctx.locals.indent, operand.expr])]
  | .nested type =>
    let indent := ctx.locals.indent
    [push ctx (filled (openingTemplate label wrapper type) [indent]),
     push ctx (operand.expr ++ "." ++ ctx.settings.literalMethod ++ "(&[" ++ indent ++ ", " ++
       Text.quote ctx.settings.indentUnit ++ "].concat())"),
     push ctx (filled (closingTemplate wrapper) [indent])]

/-- The block of a field. -/
def memberBlock (ctx : Context) (message : Message) (field : Field) :
    Except Unsupported Block := do
  let form ← form message field
  let type ← FieldType.resolve message field
  let guarded := field.isGuarded type
  return .member field guarded
    [.nest (lines ctx field.name "" (field.operand ctx guarded) form)]

/-- What an arm does with the value of its alternative. -/
def armBody (ctx : Context) (message : Message) (oneof : Oneof) (alternative : Field)
    (operand : Operand) : Except Unsupported (List Step) := do
  let form ← form message alternative
  let _ ← FieldType.resolve message alternative
  return lines ctx oneof.name alternative.variant operand form

/-- The block of a oneof. -/
def choiceBlock (ctx : Context) (message : Message) (oneof : Oneof) :
    Except Unsupported Block := do
  let arms ← oneof.arms ctx message (armBody ctx message oneof)
  return .choice oneof [] arms []

/-- The block of an entry. -/
def block (ctx : Context) (message : Message) : Entry → Except Unsupported Block
  | .member field => memberBlock ctx message field
  | .choice oneof => choiceBlock ctx message oneof

/-- The literal routine of a message. -/
def routine (ctx : Context) (message : Message) : Except Unsupported Routine := do
  let blocks ← message.entries.mapM (block ctx message)
  let out := ctx.locals.out
  let indent := ctx.locals.indent
  return {
    summary := "/// Renders this `" ++ message.name ++
      "` as an indented literal, one field per line."
    signature := "pub fn " ++ ctx.settings.literalMethod ++ "(&" ++ ctx.locals.receiver ++ ", " ++
      indent ++ ": &str) -> String \x7b"
    idle := [.line ("let _ = " ++ indent ++ ";"), .line "String::new()"]
    before := [.line ("let mut " ++ out ++ " = String::new();")]
    blocks
    after := [.line out] }

/-- The source of the literal routine of a message. -/
def steps (ctx : Context) (message : Message) : Except Unsupported (List Step) := do
  let routine ← routine ctx message
  return routine.steps ctx message

end Literal
end MessageDump
