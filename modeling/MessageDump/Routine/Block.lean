import MessageDump.Name.Identifier
import MessageDump.Routine.FieldType
import MessageDump.Source.Context
import MessageDump.Source.Writer
/-! # Blocks of a routine

The body of a generated routine has one block for each entry of the message: a
field that stands on its own, or a oneof.  The block of a oneof holds one `match`
over the value that is set, with one arm for each alternative.  Blocks are kept
as data, from which their source is derived, so that what a routine handles can
be told without reading its text.
-/
namespace MessageDump

open Source (Context Operand Step)

/-- What a routine handles as one. -/
inductive Entry where
  /-- A field that stands on its own. -/
  | member (field : Field)
  /-- A oneof with its alternatives. -/
  | choice (oneof : Oneof)
  deriving DecidableEq, Repr

/-- The entries of a message, in the order in which routines handle them. -/
def Message.entries (message : Message) : List Entry :=
  message.standalone.map .member ++ message.oneofs.map .choice

/-- The fields that an entry stands for. -/
def Entry.fields (message : Message) : Entry → List Field
  | member field => [field]
  | choice oneof => message.alternatives oneof

/-- The enum that holds the value of a oneof, as seen from the module of the
message. -/
def Oneof.enumPath (message : Message) (oneof : Oneof) : String :=
  Name.escaped (Name.snake message.name) ++ "::" ++ Name.pascal oneof.name

/-- The enum variant that holds the value of an alternative. -/
def Field.variant (field : Field) : String := Name.pascal field.name

/-- The member of the receiver that holds a field. -/
def Field.place (ctx : Context) (field : Field) : String :=
  ctx.member (Name.escaped field.name)

/-- The member of the receiver that holds a oneof. -/
def Oneof.place (ctx : Context) (oneof : Oneof) : String :=
  ctx.member (Name.escaped oneof.name)

/-- The line that opens a block for the value of an optional place. -/
def guardLine (name place : String) : String :=
  "if let Some(" ++ name ++ ") = &" ++ place ++ " \x7b"

/-- The line that opens the block of a oneof. -/
def Oneof.guard (ctx : Context) (oneof : Oneof) : String :=
  guardLine ctx.locals.selected (oneof.place ctx)

/-- The operand for the value of a field: behind a guard the bound name, without
one the member itself. -/
def Field.operand (ctx : Context) (field : Field) (guarded : Bool) : Operand :=
  if guarded then ctx.boundValue else .place (field.place ctx)

/-- One arm of the `match` over a oneof. -/
structure Arm where
  /-- The alternative that the arm is for. -/
  alternative : Field
  /-- What is done with its value. -/
  body : List Step

namespace Arm

/-- The pattern of an arm and the start of its body. -/
def opening (ctx : Context) (message : Message) (oneof : Oneof) (arm : Arm) : String :=
  oneof.enumPath message ++ "::" ++ arm.alternative.variant ++ "(" ++ ctx.boundValue.expr ++
    ") => \x7b"

/-- The source of an arm. -/
def steps (ctx : Context) (message : Message) (oneof : Oneof) (arm : Arm) : List Step :=
  Source.block (arm.opening ctx message oneof) [.nest arm.body] "\x7d"

end Arm

namespace Oneof

/-- The arms for a oneof.  The given function is called for one alternative
after the other, in declaration order, and its effects are in the same order; if
it fails, later alternatives are not reached. -/
def arms {μ : Type → Type} [Monad μ] (ctx : Context) (message : Message) (oneof : Oneof)
    (body : Field → Operand → μ (List Step)) : μ (List Arm) :=
  (message.alternatives oneof).mapM fun alternative => do
    let steps ← body alternative ctx.boundValue
    return ⟨alternative, steps⟩

/-- The `match` over the value of a oneof. -/
def matchSteps (ctx : Context) (message : Message) (oneof : Oneof) (arms : List Arm) :
    List Step :=
  Source.block ("match " ++ ctx.locals.selected ++ " \x7b")
    (arms.flatMap fun arm => arm.steps ctx message oneof) "\x7d"

/-- The `match` over the value of a oneof, with the arms that the given function
makes.  All arms are made before anything is written. -/
def dispatch {μ : Type → Type} [Monad μ] (ctx : Context) (message : Message) (oneof : Oneof)
    (body : Field → Operand → μ (List Step)) : μ (List Step) := do
  let arms ← oneof.arms ctx message body
  return oneof.matchSteps ctx message arms

end Oneof

/-- A block of a routine. -/
inductive Block where
  /-- The block of a field; the guard binds its value if there is one. -/
  | member (field : Field) (guarded : Bool) (inside : List Step)
  /-- The block of a oneof, with what stands before and after the `match`. -/
  | choice (oneof : Oneof) (before : List Step) (arms : List Arm) (after : List Step)

namespace Block

/-- The entry that a block handles. -/
def entry : Block → Entry
  | member field _ _ => .member field
  | choice oneof _ _ _ => .choice oneof

/-- The fields that a block handles, each by itself or in an arm. -/
def fields : Block → List Field
  | member field _ _ => [field]
  | choice _ _ arms _ => arms.map (·.alternative)

/-- The source of a block. -/
def steps (ctx : Context) (message : Message) : Block → List Step
  | member field guarded inside =>
    if guarded then Source.block (guardLine ctx.locals.value (field.place ctx)) inside "\x7d"
    else inside
  | choice oneof before arms after =>
    Source.block (oneof.guard ctx)
      (before ++ .nest (oneof.matchSteps ctx message arms) :: after) "\x7d"

end Block

/-- A generated routine. -/
structure Routine where
  /-- The comment above the routine. -/
  summary : String
  /-- The line with the name and the parameters. -/
  signature : String
  /-- The whole body, if the message has no entries. -/
  idle : List Step
  /-- What precedes the blocks. -/
  before : List Step
  /-- The blocks, one for each entry. -/
  blocks : List Block
  /-- What follows the blocks. -/
  after : List Step

namespace Routine

/-- The source of the blocks of a routine. -/
def body (ctx : Context) (message : Message) (routine : Routine) : List Step :=
  routine.blocks.map fun block => .nest (block.steps ctx message)

/-- The source of a routine. -/
def steps (ctx : Context) (message : Message) (routine : Routine) : List Step :=
  .line routine.summary ::
    Source.block routine.signature
      (if routine.blocks.isEmpty then routine.idle
       else routine.before ++ .nest (routine.body ctx message) :: routine.after)
      "\x7d"

end Routine
end MessageDump
