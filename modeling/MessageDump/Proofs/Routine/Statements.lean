import MessageDump.Proofs.Routine.Blocks
/-! # What is written for an entry

A routine comes to the value of a field by the name that a guard or an arm binds to it,
or by the member of the receiver.  What it writes for the value is told here letter by
letter, for any expression that reaches the value: a line that inserts the JSON node
(`Json.Inserts`), or the lines that add the value to the dump (`Literal.Shows`).

Around that stands what belongs to the entry.  A field on its own has a guard or none; a
oneof has a guard and behind it one `match` with an arm for each alternative, in
declaration order (`Entry.Emits`).  Both routines keep to this and differ in what they
write for values, which is therefore a parameter (`Handling`).
-/
namespace MessageDump

open Source (Context Operand Step)

/-! ## Values -/

/-- Whether the JSON node of a value is made from a copy of it: the value is a truth value,
or a number that every JSON number can hold. -/
def Kind.isCopied : Kind → Bool
  | .scalar .bool => true
  | .scalar .int32 | .scalar .sint32 | .scalar .sfixed32 => true
  | .scalar .uint32 | .scalar .fixed32 => true
  | .scalar .float | .scalar .double => true
  | _ => false

/-- The expression that the JSON node is made from, if a name is bound to the value. -/
def Kind.bound (kind : Kind) (name : String) : String :=
  if kind.isCopied then "*" ++ name else name

namespace Json

/-- The expression for the JSON node of the value that the given expression reaches. -/
inductive IsNode (settings : Settings) (value : String) : Kind → String → Prop
  | bool : IsNode settings value (.scalar .bool)
      (settings.jsonCrate ++ "::Value::Bool(" ++ value ++ ")")
  | number {type : Scalar} :
      type ∈ [.int32, .sint32, .sfixed32, .uint32, .fixed32, .float, .double] →
      IsNode settings value (.scalar type)
        (settings.jsonCrate ++ "::Value::from(f64::from(" ++ value ++ "))")
  | decimal {type : Scalar} : type ∈ [.int64, .sint64, .sfixed64, .uint64, .fixed64] →
      IsNode settings value (.scalar type)
        (settings.jsonCrate ++ "::Value::String(" ++ value ++ ".to_string())")
  | text : IsNode settings value (.scalar .string)
      (settings.jsonCrate ++ "::Value::String(" ++ value ++ ".clone())")
  | nested (type : String) : IsNode settings value (.message type)
      (value ++ "." ++ settings.jsonMethod ++ "()")

/-- One line puts the JSON node of a value into a map, under a key. -/
def Inserts (settings : Settings) (map key : String) (kind : Kind) (value : String)
    (steps : List Step) : Prop :=
  ∃ node, IsNode settings value kind node ∧
    steps = [.line (map ++ ".insert(" ++ Text.quote key ++ ".to_string(), " ++ node ++ ");")]

end Json

/-- The lines that add a value to a dump, under a label and in a wrapper unless that is
empty.  A scalar value has one line, in which texts are quoted; the lines of a message come
between an opening and a closing one. -/
inductive Literal.Shows (settings : Settings) (out indent label wrapper : String) :
    Kind → String → List Step → Prop
  | scalar {type : Scalar} {verb : String} (value : String) : type ≠ .bytes →
      verb = (if type = .string then "\x7b:?\x7d" else "\x7b\x7d") →
      Shows settings out indent label wrapper (.scalar type) value
        [.line (out ++ ".push_str(&format!(\"\x7b\x7d" ++ label ++ ": " ++
          (if wrapper = "" then verb else wrapper ++ "(" ++ verb ++ ")") ++ ",\\n\", " ++
          indent ++ ", " ++ value ++ "));")]
  | nested (type value : String) : Shows settings out indent label wrapper (.message type) value
      [.line (out ++ ".push_str(&format!(\"\x7b\x7d" ++ label ++ ": " ++
        (if wrapper = "" then type else wrapper ++ "(" ++ type) ++ "\x7b\x7b\\n\", " ++ indent ++
        "));"),
       .line (out ++ ".push_str(&" ++ value ++ "." ++ settings.literalMethod ++ "(&[" ++ indent ++
         ", " ++ Text.quote settings.indentUnit ++ "].concat()));"),
       .line (out ++ ".push_str(&format!(\"\x7b\x7d\x7d\x7d" ++
         (if wrapper = "" then "" else ")") ++ ",\\n\", " ++ indent ++ "));")]

/-! ## Entries -/

/-- How a routine handles values, and what stands around that. -/
structure Handling where
  /-- The expression for a value of the given kind that a name is bound to. -/
  bound : Kind → String
  /-- What is written for a field on its own, if the given expression reaches its value. -/
  alone : Field → String → List Step → Prop
  /-- What is written in the arm of an alternative, if the given expression reaches its
  value. -/
  inArm : Oneof → Field → String → List Step → Prop
  /-- What precedes the `match` of a oneof. -/
  before : List Step
  /-- What follows the `match` of a oneof. -/
  after : Oneof → List Step
  /-- What precedes all blocks. -/
  first : List Step
  /-- What follows all blocks. -/
  last : List Step
  /-- What stands in their place if there are none. -/
  idle : List Step

/-- The JSON routine inserts one node for each entry into its map.  For a oneof that is a
map of its own, which an arm fills with the name of the alternative and the node of the
value. -/
def Json.handling (ctx : Context) : Handling where
  bound kind := kind.bound ctx.locals.value
  alone field := Inserts ctx.settings ctx.locals.fields field.jsonName field.kind
  inArm _ alternative value body := ∃ inserted,
    Inserts ctx.settings ctx.locals.entry "value" alternative.kind value inserted ∧
    body = .line (ctx.locals.entry ++ ".insert(\"case\".to_string(), " ++
      ctx.settings.jsonCrate ++ "::Value::String(" ++ Text.quote alternative.jsonName ++
      ".to_string()));") :: inserted
  before := [.line ("let mut " ++ ctx.locals.entry ++ " = " ++ ctx.settings.jsonCrate ++
    "::Map::new();")]
  after oneof := [.line (ctx.locals.fields ++ ".insert(" ++ Text.quote oneof.jsonName ++
    ".to_string(), " ++ ctx.settings.jsonCrate ++ "::Value::Object(" ++ ctx.locals.entry ++
    "));")]
  first := [.line ("let mut " ++ ctx.locals.fields ++ " = " ++ ctx.settings.jsonCrate ++
    "::Map::new();")]
  last := [.line (ctx.settings.jsonCrate ++ "::Value::Object(" ++ ctx.locals.fields ++ ")")]
  idle := [.line (ctx.settings.jsonCrate ++ "::Value::Object(" ++ ctx.settings.jsonCrate ++
    "::Map::new())")]

/-- The literal routine adds the value of each entry to the dump.  The label of an
alternative is the name of its oneof, and its value is wrapped in the name of the variant. -/
def Literal.handling (ctx : Context) : Handling where
  bound _ := ctx.locals.value
  alone field value inside := ∃ shown, inside = [.nest shown] ∧
    Shows ctx.settings ctx.locals.out ctx.locals.indent field.name "" field.kind value shown
  inArm oneof alternative := Shows ctx.settings ctx.locals.out ctx.locals.indent oneof.name
    (Name.pascal alternative.name) alternative.kind
  before := []
  after _ := []
  first := [.line ("let mut " ++ ctx.locals.out ++ " = String::new();")]
  last := [.line ctx.locals.out]
  idle := [.line ("let _ = " ++ ctx.locals.indent ++ ";"), .line "String::new()"]

/-- The source that an entry may have.  The value of a field on its own is reached by the
member, or behind a guard by the bound name, and that of an alternative by the name that
the pattern of its arm binds. -/
inductive Entry.Emits (ctx : Context) (message : Message) (handling : Handling) :
    Entry → List Step → Prop
  | bare {field : Field} {inside : List Step} :
      handling.alone field (ctx.locals.receiver ++ "." ++ Name.escaped field.name) inside →
      Emits ctx message handling (.member field) inside
  | guarded {field : Field} {inside : List Step} :
      handling.alone field (handling.bound field.kind) inside →
      Emits ctx message handling (.member field)
        (.enter ("if let Some(" ++ ctx.locals.value ++ ") = &" ++
          (ctx.locals.receiver ++ "." ++ Name.escaped field.name) ++ " \x7b") ::
          (inside ++ [.leave "\x7d"]))
  | choice {oneof : Oneof} {arms : List (List Step)} :
      List.Forall₂ (fun alternative arm => ∃ body,
        handling.inArm oneof alternative (handling.bound alternative.kind) body ∧
        arm = [.enter (Name.escaped (Name.snake message.name) ++ "::" ++ Name.pascal oneof.name ++
          "::" ++ Name.pascal alternative.name ++ "(" ++ ctx.locals.value ++ ") => \x7b"),
          .nest body, .leave "\x7d"])
        (message.alternatives oneof) arms →
      Emits ctx message handling (.choice oneof)
        (.enter ("if let Some(" ++ ctx.locals.selected ++ ") = &" ++
          (ctx.locals.receiver ++ "." ++ Name.escaped oneof.name) ++ " \x7b") ::
          (handling.before ++
            .nest (.enter ("match " ++ ctx.locals.selected ++ " \x7b") ::
              (arms.flatten ++ [.leave "\x7d"])) ::
            handling.after oneof ++ [.leave "\x7d"]))

section
variable {ctx : Context} {message : Message} {entry : Entry} {oneof : Oneof} {made : Block}

/-- What is made of the arms of a oneof is emitted for it, if the arms are filled as its
routine handles values. -/
theorem Oneof.emits_of_arms {handling : Handling} {arms : List Arm}
    {make : Field → Operand → Except Unsupported (List Step)}
    (harms : oneof.arms ctx message make = .ok arms)
    (hmake : ∀ alternative body, make alternative ctx.boundValue = .ok body →
      handling.inArm oneof alternative (handling.bound alternative.kind) body) :
    (Entry.choice oneof).Emits ctx message handling
      ((Block.choice oneof handling.before arms (handling.after oneof)).steps ctx message) := by
  have hsteps : List.Forall₂ (fun alternative arm => ∃ body,
      handling.inArm oneof alternative (handling.bound alternative.kind) body ∧
      arm = [.enter (oneof.enumPath message ++ "::" ++ alternative.variant ++ "(" ++
        ctx.locals.value ++ ") => \x7b"), .nest body, .leave "\x7d"])
      (message.alternatives oneof) (arms.map (Arm.steps ctx message oneof)) := by
    rw [List.forall₂_map_right_iff]
    refine (arms_eq_ok_iff.mp harms).imp ?_
    rintro _ arm ⟨hbody, rfl⟩
    exact ⟨arm.body, hmake _ _ hbody, rfl⟩
  exact .choice hsteps

/-! ## The JSON routine -/

namespace Json

/-- Only the nodes of copied kinds are made from what the operand is a copy of. -/
theorem isNode_of_node?_eq_some {operand : Operand} {kind : Kind} {node : String}
    (h : node? ctx operand kind = some node) :
    IsNode ctx.settings (if kind.isCopied then operand.copied else operand.expr) kind node := by
  cases kind with
  | scalar type =>
    cases type with
    | bool =>
      obtain rfl := Option.some.inj h
      exact .bool
    | int64 | sint64 | sfixed64 | uint64 | fixed64 =>
      obtain rfl := Option.some.inj h
      exact .decimal (by decide)
    | string =>
      obtain rfl := Option.some.inj h
      exact .text
    | bytes => cases h
    | _ =>
      obtain rfl := Option.some.inj h
      exact .number (by decide)
  | message type =>
    obtain rfl := Option.some.inj h
    exact .nested type
  | _ => cases h

/-- The value of a field on its own is handled by its member, or by the bound name. -/
theorem alone_of_node {field : Field} {node : String} (guarded : Bool)
    (h : node? ctx (field.operand ctx guarded) field.kind = some node) :
    (handling ctx).alone field
      (if guarded then field.kind.bound ctx.locals.value else field.place ctx)
      [.line (insertion ctx.locals.fields field.jsonName node)] := by
  have hnode := isNode_of_node?_eq_some h
  refine ⟨node, ?_, rfl⟩
  cases guarded with
  | true => exact hnode
  | false =>
    rw [Field.operand, if_neg Bool.false_ne_true, Operand.copied, Operand.expr, ite_self] at hnode
    exact hnode

/-- The line that names the case of an alternative. -/
theorem insertion_case (ctx : Context) (name : String) :
    insertion ctx.locals.entry "case"
        (ctx.json ++ "::Value::String(" ++ Text.quote name ++ ".to_string())") =
      ctx.locals.entry ++ ".insert(\"case\".to_string(), " ++ ctx.settings.jsonCrate ++
        "::Value::String(" ++ Text.quote name ++ ".to_string()));" := by
  have hquote : Text.quote "case" = "\"case\"" := rfl
  apply String.toList_inj.mp
  simp [insertion, hquote, Context.json]

/-- The line that inserts the value of an alternative. -/
theorem insertion_value (ctx : Context) (value : String) :
    insertion ctx.locals.entry "value" value =
      ctx.locals.entry ++ ".insert(\"value\".to_string(), " ++ value ++ ");" := by
  have hquote : Text.quote "value" = "\"value\"" := rfl
  apply String.toList_inj.mp
  simp [insertion, hquote]

/-- The line that inserts the map of a oneof. -/
theorem insertion_object (ctx : Context) (key : String) :
    insertion ctx.locals.fields key (ctx.json ++ "::Value::Object(" ++ ctx.locals.entry ++ ")") =
      ctx.locals.fields ++ ".insert(" ++ Text.quote key ++ ".to_string(), " ++
        ctx.settings.jsonCrate ++ "::Value::Object(" ++ ctx.locals.entry ++ "));" := by
  apply String.toList_inj.mp
  simp [insertion, Context.json]

theorem inArm_of_armBody {alternative : Field} {body : List Step}
    (h : armBody ctx message alternative ctx.boundValue = .ok body) :
    (handling ctx).inArm oneof alternative ((handling ctx).bound alternative.kind) body := by
  obtain ⟨_, node, _, hnode, rfl⟩ := armBody_eq_ok_iff.mp h
  rw [insertion_case]
  exact ⟨_, ⟨node, isNode_of_node?_eq_some (node_eq_ok_iff.mp hnode), rfl⟩, rfl⟩

theorem emits_of_block_eq_ok (h : block ctx message entry = .ok made) :
    entry.Emits ctx message (handling ctx) (made.steps ctx message) := by
  cases entry with
  | member field =>
    obtain ⟨type, node, _, hnode, rfl⟩ := memberBlock_eq_ok_iff.mp h
    have halone := alone_of_node (field.isGuarded type) (node_eq_ok_iff.mp hnode)
    cases hguarded : field.isGuarded type with
    | true =>
      rw [hguarded] at halone
      exact .guarded halone
    | false =>
      rw [hguarded] at halone
      exact .bare halone
  | choice oneof =>
    obtain ⟨arms, harms, rfl⟩ := choiceBlock_eq_ok_iff.mp h
    rw [insertion_object]
    exact Oneof.emits_of_arms harms fun _ _ => inArm_of_armBody

end Json

/-! ## The literal routine -/

namespace Literal

variable {label wrapper verb type : String} {operand : Operand}

theorem lines_value_eq :
    lines ctx label wrapper operand (.value verb) =
      [.line (ctx.locals.out ++ ".push_str(&format!(\"\x7b\x7d" ++ label ++ ": " ++
        (if wrapper = "" then verb else wrapper ++ "(" ++ verb ++ ")") ++ ",\\n\", " ++
        ctx.locals.indent ++ ", " ++ operand.expr ++ "));")] := by
  refine congrArg (fun text => [Step.line text]) (String.toList_inj.mp ?_)
  by_cases hwrapper : wrapper = "" <;>
    simp [filled, valueTemplate, wrapOpening, wrapClosing, hwrapper]

theorem lines_nested_eq :
    lines ctx label wrapper operand (.nested type) =
      [.line (ctx.locals.out ++ ".push_str(&format!(\"\x7b\x7d" ++ label ++ ": " ++
        (if wrapper = "" then type else wrapper ++ "(" ++ type) ++ "\x7b\x7b\\n\", " ++
        ctx.locals.indent ++ "));"),
       .line (ctx.locals.out ++ ".push_str(&" ++ operand.expr ++ "." ++
        ctx.settings.literalMethod ++ "(&[" ++ ctx.locals.indent ++ ", " ++
        Text.quote ctx.settings.indentUnit ++ "].concat()));"),
       .line (ctx.locals.out ++ ".push_str(&format!(\"\x7b\x7d\x7d\x7d" ++
        (if wrapper = "" then "" else ")") ++ ",\\n\", " ++ ctx.locals.indent ++ "));")] := by
  have hopening : ctx.locals.out ++ ".push_str(&" ++
      filled (openingTemplate label wrapper type) [ctx.locals.indent] ++ ");" =
      ctx.locals.out ++ ".push_str(&format!(\"\x7b\x7d" ++ label ++ ": " ++
        (if wrapper = "" then type else wrapper ++ "(" ++ type) ++ "\x7b\x7b\\n\", " ++
        ctx.locals.indent ++ "));" := by
    apply String.toList_inj.mp
    by_cases hwrapper : wrapper = "" <;>
      simp [filled, openingTemplate, wrapOpening, hwrapper]
  have hcall : ctx.locals.out ++ ".push_str(&" ++ (operand.expr ++ "." ++
      ctx.settings.literalMethod ++ "(&[" ++ ctx.locals.indent ++ ", " ++
        Text.quote ctx.settings.indentUnit ++ "].concat())") ++ ");" =
      ctx.locals.out ++ ".push_str(&" ++ operand.expr ++ "." ++ ctx.settings.literalMethod ++
        "(&[" ++ ctx.locals.indent ++ ", " ++ Text.quote ctx.settings.indentUnit ++
        "].concat()));" := by
    apply String.toList_inj.mp
    simp
  have hclosing : ctx.locals.out ++ ".push_str(&" ++
      filled (closingTemplate wrapper) [ctx.locals.indent] ++ ");" =
      ctx.locals.out ++ ".push_str(&format!(\"\x7b\x7d\x7d\x7d" ++
        (if wrapper = "" then "" else ")") ++ ",\\n\", " ++ ctx.locals.indent ++ "));" := by
    apply String.toList_inj.mp
    simp [filled, closingTemplate, wrapClosing]
  rw [lines, push, push, push, hopening, hcall, hclosing]

/-- The lines for a value are those of its kind. -/
theorem shows_lines {kind : Kind} {made : Form} (ctx : Context) (label wrapper : String)
    (operand : Operand) (h : form? kind = some made) :
    Shows ctx.settings ctx.locals.out ctx.locals.indent label wrapper kind operand.expr
      (lines ctx label wrapper operand made) := by
  cases kind with
  | scalar type =>
    obtain ⟨verb, hverb, rfl⟩ := Option.map_eq_some_iff.mp h
    rw [lines_value_eq]
    cases type with
    | bytes => cases hverb
    | _ =>
      obtain rfl := Option.some.inj hverb
      exact .scalar _ nofun rfl
  | message type =>
    obtain rfl := Option.some.inj h
    rw [lines_nested_eq]
    exact .nested type _
  | _ => cases h

theorem emits_of_block_eq_ok (h : block ctx message entry = .ok made) :
    entry.Emits ctx message (handling ctx) (made.steps ctx message) := by
  cases entry with
  | member field =>
    obtain ⟨form, type, hform, _, rfl⟩ := memberBlock_eq_ok_iff.mp h
    have hshows := shows_lines ctx field.name "" (field.operand ctx (field.isGuarded type))
      (form_eq_ok_iff.mp hform).2
    cases hguarded : field.isGuarded type with
    | true =>
      rw [hguarded] at hshows
      exact .guarded ⟨_, rfl, hshows⟩
    | false =>
      rw [hguarded] at hshows
      exact .bare ⟨_, rfl, hshows⟩
  | choice oneof =>
    obtain ⟨arms, harms, rfl⟩ := choiceBlock_eq_ok_iff.mp h
    refine Oneof.emits_of_arms harms fun alternative body hbody => ?_
    obtain ⟨form, _, hform, _, rfl⟩ := armBody_eq_ok_iff.mp hbody
    exact shows_lines ctx oneof.name alternative.variant ctx.boundValue (form_eq_ok_iff.mp hform).2

end Literal
end
end MessageDump
