import MessageDump.Document.Fault
import MessageDump.Routine.FieldType
import MessageDump.Schema.Link
import MessageDump.Settings
import MessageDump.Storage.Path
/-! # Faults

Everything that can go wrong between a schema document and the generated source.
-/
namespace MessageDump

/-- What a fault is about. -/
inductive FaultClass where
  /-- A field that generation does not support. -/
  | unsupported
  | invalidSchema
  | invalidSettings
  | unreadableDocument
  | storage
  deriving DecidableEq, Repr

namespace FaultClass

/-- The words with which messages about faults of a class begin. -/
def label : FaultClass → String
  | unsupported => ""
  | invalidSchema => "invalid schema: "
  | invalidSettings => "configuration error: "
  | unreadableDocument => "parse error: "
  | storage => "I/O error: "

/-- Whether a fault is a limit of generation and not one of the input. -/
def isUnsupported (faultClass : FaultClass) : Bool := faultClass = unsupported

end FaultClass

/-- A reason for which an operation fails. -/
inductive Fault where
  | unsupported (fault : Unsupported)
  | schema (fault : SchemaFault)
  | settings (fault : SettingsFault)
  | document (fault : DocumentFault)
  | storage (fault : StorageFault)
  deriving DecidableEq, Repr

namespace Fault

/-- What a fault is about. -/
def faultClass : Fault → FaultClass
  | unsupported _ => .unsupported
  | schema _ => .invalidSchema
  | settings _ => .invalidSettings
  | document _ => .unreadableDocument
  | storage _ => .storage

/-- The text of a fault without the words of its class. -/
def detail : Fault → String
  | unsupported fault => fault.message
  | schema fault => fault.message
  | settings fault => fault.message
  | document fault => fault.message
  | storage fault => fault.message

/-- The text of a fault. -/
def message (fault : Fault) : String := fault.faultClass.label ++ fault.detail

/-- Whether a fault is a limit of generation and not one of the input. -/
def isUnsupported (fault : Fault) : Bool := fault.faultClass.isUnsupported

end Fault
end MessageDump
