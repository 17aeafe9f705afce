import MessageDump.Schema.Basic
/-! # Types of fields

The type that the generated source assumes for the member of a field.  Scalars
and enums are held as plain values, or as optional ones if unset differs from
zero; a message is always held behind an optional pointer, which is part of the
name of its type.

Fields of some kinds have no type, and weak fields take no part in generation.
The first of them that is met ends the generation of its message.
-/
namespace MessageDump

/-! ## Fields without generated source -/

/-- The stage of generation that turns a kind down. -/
inductive Stage where
  /-- Finding the type of the field, which every routine does. -/
  | typeMapping
  /-- Writing the JSON routine. -/
  | json
  /-- Writing the literal routine. -/
  | literal
  deriving DecidableEq, Repr

/-- The name of a stage. -/
def Stage.name : Stage → String
  | typeMapping => "type mapping"
  | json => "JSON"
  | literal => "literal"

/-- Why no source is generated for a message. -/
inductive Unsupported where
  /-- A field of a kind that a stage turns down. -/
  | kind (message field kind : String) (stage : Stage)
  /-- A weak field. -/
  | weak (message field : String)
  deriving DecidableEq, Repr

/-- The text of a fault. -/
def Unsupported.message : Unsupported → String
  | kind message field spelling stage =>
    message ++ "." ++ field ++ ": " ++ spelling ++ " fields are not supported in the " ++
      stage.name ++ " path"
  | weak message field => message ++ "." ++ field ++ ": weak fields are not supported"

/-! ## Types -/

/-- The type of a member. -/
structure FieldType where
  /-- The type, without the `Option` that `nullable` stands for. -/
  name : String
  /-- Whether the member is an `Option` of the named type. -/
  nullable : Bool
  deriving DecidableEq, Repr

namespace FieldType

/-- The type as it is declared. -/
def declared (type : FieldType) : String :=
  if type.nullable then "Option<" ++ type.name ++ ">" else type.name

/-- The type of a scalar value. -/
def ofScalar : Scalar → String
  | .bool => "bool"
  | .int32 | .sint32 | .sfixed32 => "i32"
  | .uint32 | .fixed32 => "u32"
  | .int64 | .sint64 | .sfixed64 => "i64"
  | .uint64 | .fixed64 => "u64"
  | .float => "f32"
  | .double => "f64"
  | .string => "String"
  | .bytes => "Vec<u8>"

/-- The type of a single value, which lists and maps are not. -/
def element? : Kind → Option String
  | .scalar type => some (ofScalar type)
  | .enum type | .message type => some type
  | .list _ | .map _ _ => none

/-- The type of a member of the given kind, if it has one. -/
def ofKind? (optional : Bool) : Kind → Option FieldType
  | .scalar .bytes => some ⟨"Vec<u8>", false⟩
  | .scalar type => some ⟨ofScalar type, optional⟩
  | .enum type => some ⟨type, optional⟩
  | .message type => some ⟨"Option<Box<" ++ type ++ ">>", false⟩
  | .list element => (element? element).map fun type => ⟨"Vec<" ++ type ++ ">", false⟩
  | .map _ _ => none

/-- The type of the member of a field.  A weak field has a placeholder. -/
def resolve (message : Message) (field : Field) : Except Unsupported FieldType :=
  if field.weak then .ok ⟨"()", false⟩
  else
    match ofKind? field.optional field.kind with
    | some type => .ok type
    | none => .error (.kind message.name field.name field.kind.name .typeMapping)

end FieldType

namespace Field

/-- Whether the member of a field of the given type has to be looked into before
there is a value: it is optional, or it holds a message. -/
def isGuarded (field : Field) (type : FieldType) : Bool :=
  type.nullable || match field.kind with
    | .message _ => true
    | _ => false

end Field
end MessageDump
