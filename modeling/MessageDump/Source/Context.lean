import MessageDump.Settings
/-! # Names inside the generated routines

The local names that a generated routine uses, the settings it is generated
with, and the expressions by which it reaches a value.  Fields are always
reached through the receiver, so that a local name cannot hide one.
-/
namespace MessageDump
namespace Source

/-- The parameters and local names of the generated routines. -/
structure Locals where
  /-- The receiver. -/
  receiver : String := "self"
  /-- The map that collects the entries of the JSON node. -/
  fields : String := "fields"
  /-- The text that collects the literal dump. -/
  out : String := "out"
  /-- The parameter that holds the indentation of the literal dump. -/
  indent : String := "indent"
  /-- The value of a oneof that is set. -/
  selected : String := "selected"
  /-- The map that describes a oneof that is set. -/
  entry : String := "entry"
  /-- The value of a field or an alternative that is set. -/
  value : String := "value"
  deriving DecidableEq, Repr

/-- What the generation of a routine depends on besides the message. -/
structure Context where
  settings : Settings := {}
  locals : Locals := {}
  deriving DecidableEq, Repr

namespace Context

/-- The expression for a member of the receiver. -/
def member (ctx : Context) (name : String) : String :=
  ctx.locals.receiver ++ "." ++ name

/-- The path of the JSON library. -/
def json (ctx : Context) : String := ctx.settings.jsonCrate

end Context

/-- An expression for a value. -/
inductive Operand where
  /-- The value itself, such as `self.id`. -/
  | place (expr : String)
  /-- A local name that refers to the value. -/
  | borrowed (expr : String)
  deriving DecidableEq, Repr

namespace Operand

/-- The expression as it stands. -/
def expr : Operand → String
  | place expr => expr
  | borrowed expr => expr

/-- The expression for a copy of the value. -/
def copied : Operand → String
  | place expr => expr
  | borrowed expr => "*" ++ expr

end Operand

namespace Context

/-- The operand for the value of a field or an alternative that is set. -/
def boundValue (ctx : Context) : Operand := .borrowed ctx.locals.value

end Context

end Source
end MessageDump
