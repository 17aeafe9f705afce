import MessageDump.Generation
import MessageDump.Proofs.Fault.Sequence
/-! # What generation succeeds with

One equation for each of the functions that make a routine, from the arm of an
alternative up to the whole message: it succeeds exactly if the functions it
calls do, and with a block put together from their results.  Nothing after this
module opens those functions again to see what they emit.
-/
namespace MessageDump

open Source (Context Operand Step)

variable {ctx : Context} {message : Message}

/-- The fields that the routines of a message handle, in the order in which they
do: those on their own, then the alternatives of one oneof after the other. -/
def Message.subjects (message : Message) : List Field :=
  message.standalone ++ message.oneofs.flatMap message.alternatives

theorem Message.mem_standalone {field : Field} :
    field ∈ message.standalone ↔ field ∈ message.fields ∧ field.oneof = none := by
  rw [standalone, List.mem_filter, Option.isNone_iff_eq_none]

theorem Message.mem_alternatives {oneof : Oneof} {field : Field} :
    field ∈ message.alternatives oneof ↔
      field ∈ message.fields ∧ field.oneof = some oneof.name := by
  rw [alternatives, List.mem_filter, decide_eq_true_iff]

theorem Message.entries_flatMap_fields :
    message.entries.flatMap (Entry.fields message) = message.subjects := by
  rw [Message.entries, Message.subjects, List.flatMap_append, List.flatMap_map, List.flatMap_map]
  exact congrArg (· ++ _) (List.flatMap_singleton' message.standalone)

/-- Arms are made for all alternatives, in order, each from its own body. -/
theorem Oneof.arms_eq_ok_iff {oneof : Oneof} {arms : List Arm}
    {body : Field → Operand → Except Unsupported (List Step)} :
    oneof.arms ctx message body = .ok arms ↔
      List.Forall₂ (fun alternative arm =>
        body alternative ctx.boundValue = .ok arm.body ∧ alternative = arm.alternative)
        (message.alternatives oneof) arms := by
  rw [Oneof.arms, mapM_eq_ok_iff]
  refine iff_of_eq (congrArg (List.Forall₂ · _ _) ?_)
  funext alternative arm
  simp only [bind_eq_ok, pure_eq_ok, eq_iff_iff]
  constructor
  · rintro ⟨steps, hsteps, rfl⟩
    exact ⟨hsteps, rfl⟩
  · rintro ⟨hsteps, rfl⟩
    exact ⟨arm.body, hsteps, rfl⟩

section Arms
variable {oneof : Oneof} {arms : List Arm} {body : Field → Operand → Except Unsupported (List Step)}

theorem Oneof.map_alternative_of_arms_eq_ok (h : oneof.arms ctx message body = .ok arms) :
    arms.map (·.alternative) = message.alternatives oneof := by
  have halternatives := (Oneof.arms_eq_ok_iff.mp h).imp fun _ _ => And.right
  rw [← List.forall₂_map_right_iff, List.forall₂_eq_eq_eq] at halternatives
  exact halternatives.symm

theorem Oneof.body_of_arms_eq_ok (h : oneof.arms ctx message body = .ok arms) {arm : Arm}
    (harm : arm ∈ arms) : body arm.alternative ctx.boundValue = .ok arm.body := by
  obtain ⟨_, _, hbody, rfl⟩ := exists_mem_of_forall₂ (Oneof.arms_eq_ok_iff.mp h) harm
  exact hbody

end Arms

/-- A field that is not weak has the type of its kind. -/
theorem FieldType.resolve_eq_ok_iff {field : Field} {type : FieldType} (hweak : field.weak = false) :
    resolve message field = .ok type ↔ ofKind? field.optional field.kind = some type := by
  rw [resolve, hweak]
  cases ofKind? field.optional field.kind <;> simp

/-! ## The JSON routine -/

namespace Json

theorem fieldType_eq_ok_iff {field : Field} {type : FieldType} :
    fieldType message field = .ok type ↔
      field.weak = false ∧ FieldType.ofKind? field.optional field.kind = some type := by
  rw [fieldType]
  cases hweak : field.weak with
  | true => simp
  | false => simp [FieldType.resolve_eq_ok_iff hweak]

theorem node_eq_ok_iff {field : Field} {operand : Operand} {value : String} :
    node ctx message field operand = .ok value ↔ node? ctx operand field.kind = some value := by
  rw [node]
  cases node? ctx operand field.kind <;> simp

theorem memberBlock_eq_ok_iff {field : Field} {block : Block} :
    memberBlock ctx message field = .ok block ↔
      ∃ type value, fieldType message field = .ok type ∧
        node ctx message field (field.operand ctx (field.isGuarded type)) = .ok value ∧
        .member field (field.isGuarded type)
          [.line (insertion ctx.locals.fields field.jsonName value)] = block := by
  simp only [memberBlock, bind_eq_ok, pure_eq_ok, exists_and_left]

theorem armBody_eq_ok_iff {alternative : Field} {operand : Operand} {body : List Step} :
    armBody ctx message alternative operand = .ok body ↔
      ∃ type value, fieldType message alternative = .ok type ∧
        node ctx message alternative operand = .ok value ∧
        [.line (insertion ctx.locals.entry "case"
            (ctx.json ++ "::Value::String(" ++ Text.quote alternative.jsonName ++ ".to_string())")),
          .line (insertion ctx.locals.entry "value" value)] = body := by
  simp only [armBody, bind_eq_ok, pure_eq_ok, exists_and_left]

theorem choiceBlock_eq_ok_iff {oneof : Oneof} {block : Block} :
    choiceBlock ctx message oneof = .ok block ↔
      ∃ arms, oneof.arms ctx message (armBody ctx message) = .ok arms ∧
        .choice oneof
          [.line ("let mut " ++ ctx.locals.entry ++ " = " ++ ctx.json ++ "::Map::new();")] arms
          [.line (insertion ctx.locals.fields oneof.jsonName
            (ctx.json ++ "::Value::Object(" ++ ctx.locals.entry ++ ")"))] = block := by
  simp only [choiceBlock, bind_eq_ok, pure_eq_ok]

theorem routine_eq_ok_iff {routine : Routine} :
    Json.routine ctx message = .ok routine ↔
      ∃ blocks, message.entries.mapM (block ctx message) = .ok blocks ∧
        { summary := "/// Builds the JSON node tree of this `" ++ message.name ++ "`."
          signature := "pub fn " ++ ctx.settings.jsonMethod ++ "(&" ++ ctx.locals.receiver ++
            ") -> " ++ ctx.json ++ "::Value \x7b"
          idle := [.line (ctx.json ++ "::Value::Object(" ++ ctx.json ++ "::Map::new())")]
          before := [.line ("let mut " ++ ctx.locals.fields ++ " = " ++ ctx.json ++ "::Map::new();")]
          blocks
          after := [.line (ctx.json ++ "::Value::Object(" ++ ctx.locals.fields ++ ")")] } =
          routine := by
  simp only [Json.routine, bind_eq_ok, pure_eq_ok]

/-- A routine has the block of each entry, in the order of the entries. -/
theorem blocks_of_routine_eq_ok {routine : Routine} (h : Json.routine ctx message = .ok routine) :
    List.Forall₂ (fun entry made => block ctx message entry = .ok made)
      message.entries routine.blocks := by
  obtain ⟨blocks, hblocks, rfl⟩ := routine_eq_ok_iff.mp h
  exact mapM_eq_ok_iff.mp hblocks

theorem steps_eq_ok_iff {steps : List Step} :
    Json.steps ctx message = .ok steps ↔
      ∃ routine, Json.routine ctx message = .ok routine ∧ routine.steps ctx message = steps := by
  simp only [Json.steps, bind_eq_ok, pure_eq_ok]

end Json

/-! ## The literal routine -/

namespace Literal

theorem form_eq_ok_iff {field : Field} {made : Form} :
    form message field = .ok made ↔ field.weak = false ∧ form? field.kind = some made := by
  rw [form]
  cases field.weak with
  | true => simp
  | false => cases form? field.kind <;> simp

theorem memberBlock_eq_ok_iff {field : Field} {block : Block} :
    memberBlock ctx message field = .ok block ↔
      ∃ form type, Literal.form message field = .ok form ∧
        FieldType.resolve message field = .ok type ∧
        .member field (field.isGuarded type)
          [.nest (lines ctx field.name "" (field.operand ctx (field.isGuarded type)) form)] =
            block := by
  simp only [memberBlock, bind_eq_ok, pure_eq_ok, exists_and_left]

theorem armBody_eq_ok_iff {oneof : Oneof} {alternative : Field} {operand : Operand}
    {body : List Step} :
    armBody ctx message oneof alternative operand = .ok body ↔
      ∃ form type, Literal.form message alternative = .ok form ∧
        FieldType.resolve message alternative = .ok type ∧
        lines ctx oneof.name alternative.variant operand form = body := by
  simp only [armBody, bind_eq_ok, pure_eq_ok, exists_and_left]

theorem choiceBlock_eq_ok_iff {oneof : Oneof} {block : Block} :
    choiceBlock ctx message oneof = .ok block ↔
      ∃ arms, oneof.arms ctx message (armBody ctx message oneof) = .ok arms ∧
        .choice oneof [] arms [] = block := by
  simp only [choiceBlock, bind_eq_ok, pure_eq_ok]

theorem routine_eq_ok_iff {routine : Routine} :
    Literal.routine ctx message = .ok routine ↔
      ∃ blocks, message.entries.mapM (block ctx message) = .ok blocks ∧
        { summary := "/// Renders this `" ++ message.name ++
            "` as an indented literal, one field per line."
          signature := "pub fn " ++ ctx.settings.literalMethod ++ "(&" ++ ctx.locals.receiver ++
            ", " ++ ctx.locals.indent ++ ": &str) -> String \x7b"
          idle := [.line ("let _ = " ++ ctx.locals.indent ++ ";"), .line "String::new()"]
          before := [.line ("let mut " ++ ctx.locals.out ++ " = String::new();")]
          blocks
          after := [.line ctx.locals.out] } = routine := by
  simp only [Literal.routine, bind_eq_ok, pure_eq_ok]

/-- A routine has the block of each entry, in the order of the entries. -/
theorem blocks_of_routine_eq_ok {routine : Routine}
    (h : Literal.routine ctx message = .ok routine) :
    List.Forall₂ (fun entry made => block ctx message entry = .ok made)
      message.entries routine.blocks := by
  obtain ⟨blocks, hblocks, rfl⟩ := routine_eq_ok_iff.mp h
  exact mapM_eq_ok_iff.mp hblocks

theorem steps_eq_ok_iff {steps : List Step} :
    Literal.steps ctx message = .ok steps ↔
      ∃ routine, Literal.routine ctx message = .ok routine ∧
        routine.steps ctx message = steps := by
  simp only [Literal.steps, bind_eq_ok, pure_eq_ok]

end Literal

/-- A message is generated from its two routines. -/
theorem Message.generate_eq_ok_iff {settings : Settings} {source : String} :
    message.generate settings = .ok source ↔
      ∃ json literal, Json.routine { settings } message = .ok json ∧
        Literal.routine { settings } message = .ok literal ∧
        Source.textOf (message.implSteps (json.steps { settings } message)
          (literal.steps { settings } message)) = source := by
  simp only [Message.generate, bind_eq_ok, pure_eq_ok, Json.steps_eq_ok_iff,
    Literal.steps_eq_ok_iff]
  constructor
  · rintro ⟨_, ⟨json, hjson, rfl⟩, _, ⟨literal, hliteral, rfl⟩, hsource⟩
    exact ⟨json, literal, hjson, hliteral, hsource⟩
  · rintro ⟨json, literal, hjson, hliteral, hsource⟩
    exact ⟨_, ⟨json, hjson, rfl⟩, _, ⟨literal, hliteral, rfl⟩, hsource⟩

end MessageDump
