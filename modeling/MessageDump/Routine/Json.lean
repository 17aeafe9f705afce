import MessageDump.Routine.Block
/-! # The JSON routine

The routine that builds the JSON node tree of a message: a map from the JSON
names of the fields and oneofs that are set.  Numbers of 64 bits become decimal
texts, since a JSON number carries 53 bits at most; a oneof becomes a map that
names the alternative and holds its value.
-/
namespace MessageDump
namespace Json

open Source (Context Operand Step)

/-- The statement that inserts a value into a map under a key. -/
def insertion (map key value : String) : String :=
  map ++ ".insert(" ++ Text.quote key ++ ".to_string(), " ++ value ++ ");"

/-- The expression for the JSON node of a scalar value. -/
def scalarNode? (ctx : Context) (operand : Operand) : Scalar → Option String
  | .bool => some (ctx.json ++ "::Value::Bool(" ++ operand.copied ++ ")")
  | .int32 | .sint32 | .sfixed32 | .uint32 | .fixed32 | .float | .double =>
    some (ctx.json ++ "::Value::from(f64::from(" ++ operand.copied ++ "))")
  | .int64 | .sint64 | .sfixed64 | .uint64 | .fixed64 =>
    some (ctx.json ++ "::Value::String(" ++ operand.expr ++ ".to_string())")
  | .string => some (ctx.json ++ "::Value::String(" ++ operand.expr ++ ".clone())")
  | .bytes => none

/-- The expression for the JSON node of a value, if its kind has one. -/
def node? (ctx : Context) (operand : Operand) : Kind → Option String
  | .scalar type => scalarNode? ctx operand type
  | .message _ => some (operand.expr ++ "." ++ ctx.settings.jsonMethod ++ "()")
  | .enum _ | .list _ | .map _ _ => none

/-- The expression for the JSON node of the value of a field. -/
def node (ctx : Context) (message : Message) (field : Field) (operand : Operand) :
    Except Unsupported String :=
  match node? ctx operand field.kind with
  | some expr => .ok expr
  | none => .error (.kind message.name field.name field.kind.name .json)

/-- The type of a field that is not weak. -/
def fieldType (message : Message) (field : Field) : Except Unsupported FieldType :=
  if field.weak then .error (.weak message.name field.name) else FieldType.resolve message field

/-- The block of a field. -/
def memberBlock (ctx : Context) (message : Message) (field : Field) :
    Except Unsupported Block := do
  let type ← fieldType message field
  let guarded := field.isGuarded type
  let value ← node ctx message field (field.operand ctx guarded)
  return .member field guarded [.line (insertion ctx.locals.fields field.jsonName value)]

/-- What an arm does with the value of its alternative. -/
def armBody (ctx : Context) (message : Message) (alternative : Field) (operand : Operand) :
    Except Unsupported (List Step) := do
  let _ ← fieldType message alternative
  let value ← node ctx message alternative operand
  let name := ctx.json ++ "::Value::String(" ++ Text.quote alternative.jsonName ++ ".to_string())"
  return [.line (insertion ctx.locals.entry "case" name),
    .line (insertion ctx.locals.entry "value" value)]

/-- The block of a oneof. -/
def choiceBlock (ctx : Context) (message : Message) (oneof : Oneof) :
    Except Unsupported Block := do
  let arms ← oneof.arms ctx message (armBody ctx message)
  let entry := ctx.locals.entry
  return .choice oneof
    [.line ("let mut " ++ entry ++ " = " ++ ctx.json ++ "::Map::new();")]
    arms
    [.line (insertion ctx.locals.fields oneof.jsonName
      (ctx.json ++ "::Value::Object(" ++ entry ++ ")"))]

/-- The block of an entry. -/
def block (ctx : Context) (message : Message) : Entry → Except Unsupported Block
  | .member field => memberBlock ctx message field
  | .choice oneof => choiceBlock ctx message oneof

/-- The JSON routine of a message. -/
def routine (ctx : Context) (message : Message) : Except Unsupported Routine := do
  let blocks ← message.entries.mapM (block ctx message)
  let json := ctx.json
  return {
    summary := "/// Builds the JSON node tree of this `" ++ message.name ++ "`."
    signature := "pub fn " ++ ctx.settings.jsonMethod ++ "(&" ++ ctx.locals.receiver ++ ") -> " ++
      json ++ "::Value \x7b"
    idle := [.line (json ++ "::Value::Object(" ++ json ++ "::Map::new())")]
    before := [.line ("let mut " ++ ctx.locals.fields ++ " = " ++ json ++ "::Map::new();")]
    blocks
    after := [.line (json ++ "::Value::Object(" ++ ctx.locals.fields ++ ")")] }

/-- The source of the JSON routine of a message. -/
def steps (ctx : Context) (message : Message) : Except Unsupported (List Step) := do
  let routine ← routine ctx message
  return routine.steps ctx message

end Json
end MessageDump
