import MessageDump.Proofs.Routine.Blocks
/-! # What generation rejects

Each routine ends at the first field that it does not support.  The two decide
this in different ways: the JSON routine first looks for a type and then for an
expression, the literal routine first checks the kind and then looks for a type.
Here the outcome of either is told by the field alone, through a table of the
kinds that it refuses (`Field.rejection?`), and both visit the fields in the
order of `Message.subjects`.  So the two reject the same messages, each time for
the same field (`Json.steps_mirror_literal`).
-/
namespace MessageDump

open Source (Context Operand Step)

/-- The stage at which the JSON routine refuses a kind. -/
def Json.refusal? : Kind → Option Stage
  | .scalar .bytes | .enum _ => some .json
  | .scalar _ | .message _ => none
  | .list element => if element.isRepeated then some .typeMapping else some .json
  | .map _ _ => some .typeMapping

/-- The stage at which the literal routine refuses a kind. -/
def Literal.refusal? : Kind → Option Stage
  | .scalar .bytes | .enum _ | .list _ | .map _ _ => some .literal
  | .scalar _ | .message _ => none

/-- Why a routine that refuses the given kinds rejects a field, if it does. -/
def Field.rejection? (refusal? : Kind → Option Stage) (message : Message) (field : Field) :
    Option Unsupported :=
  if field.weak then some (.weak message.name field.name)
  else (refusal? field.kind).map (.kind message.name field.name field.kind.name)

variable {ctx : Context} {message : Message} {field : Field} {α : Type}

theorem Field.rejection?_of_weak {refusal? : Kind → Option Stage} (h : field.weak = true) :
    field.rejection? refusal? message = some (.weak message.name field.name) := by
  simp [Field.rejection?, h]

theorem Field.rejection?_of_not_weak {refusal? : Kind → Option Stage} (h : field.weak = false) :
    field.rejection? refusal? message =
      (refusal? field.kind).map (.kind message.name field.name field.kind.name) := by
  simp [Field.rejection?, h]

/-- Searching group by group is searching all of them in one list. -/
theorem findSome?_flatMap {β γ : Type} {f : β → Option γ} {groups : α → List β} {items : List α} :
    (items.flatMap groups).findSome? f = items.findSome? fun item => (groups item).findSome? f := by
  induction items with
  | nil => rfl
  | cons item rest ih =>
    rw [List.flatMap_cons, List.findSome?_append, List.findSome?_cons, ih]
    cases (groups item).findSome? f <;> rfl

/-- The arms of a oneof are made one after the other, so that the first rejected
alternative ends them. -/
theorem Oneof.faultOf?_arms {oneof : Oneof} {rejection? : Field → Option Unsupported}
    {body : Field → Operand → Except Unsupported (List Step)}
    (h : ∀ alternative, faultOf? (body alternative ctx.boundValue) = rejection? alternative) :
    faultOf? (oneof.arms ctx message body) =
      (message.alternatives oneof).findSome? rejection? := by
  rw [Oneof.arms, faultOf?_mapM]
  refine congrArg (List.findSome? · _) (funext fun alternative => ?_)
  exact faultOf?_bind_pure.trans (h alternative)

/-- If every block ends with the first fault of its fields, the blocks together
end with the first fault of the subjects of the message. -/
theorem faultOf?_mapM_entries {block : Entry → Except Unsupported Block}
    {rejection? : Field → Option Unsupported}
    (h : ∀ entry, faultOf? (block entry) = (entry.fields message).findSome? rejection?) :
    faultOf? (message.entries.mapM block) = message.subjects.findSome? rejection? := by
  rw [faultOf?_mapM, ← Message.entries_flatMap_fields, findSome?_flatMap]
  exact congrArg (List.findSome? · _) (funext h)

/-! ## The faults of the JSON routine -/

namespace Json

theorem faultOf?_fieldType :
    faultOf? (fieldType message field) =
      if field.weak then some (.weak message.name field.name)
      else if (FieldType.ofKind? field.optional field.kind).isNone then
        some (.kind message.name field.name field.kind.name .typeMapping)
      else none := by
  unfold fieldType FieldType.resolve
  cases field.weak <;> cases FieldType.ofKind? field.optional field.kind <;> rfl

theorem faultOf?_node {operand : Operand} :
    faultOf? (node ctx message field operand) =
      (match field.kind with
      | .scalar .bytes | .enum _ | .list _ | .map _ _ =>
        some (.kind message.name field.name field.kind.name .json)
      | _ => none) := by
  unfold node
  cases hkind : field.kind with
  | scalar type => cases type <;> rfl
  | _ => rfl

/-- Finding the type of a field and then the expression for its value fails as
the table says, whatever is made of them. -/
theorem faultOf?_fieldType_node {operand : FieldType → Operand} {made : FieldType → String → α} :
    faultOf? (do
      let type ← fieldType message field
      let value ← node ctx message field (operand type)
      return made type value) = field.rejection? refusal? message := by
  -- the operand does not matter for whether there is an expression
  rw [faultOf?_bind fun type => faultOf?_bind_pure.trans faultOf?_node, faultOf?_fieldType]
  cases hweak : field.weak with
  | true => rw [Field.rejection?_of_weak hweak]; rfl
  | false =>
    rw [Field.rejection?_of_not_weak hweak]
    cases hkind : field.kind with
    | scalar type => cases type <;> rfl
    | enum type | message type | map key value => rfl
    | list element => cases element <;> rfl

theorem faultOf?_block {entry : Entry} :
    faultOf? (block ctx message entry) =
      (entry.fields message).findSome? (Field.rejection? refusal? message) := by
  cases entry with
  | member field => exact faultOf?_fieldType_node.trans (List.findSome?_singleton).symm
  | choice oneof =>
    exact faultOf?_bind_pure.trans (Oneof.faultOf?_arms fun _ => faultOf?_fieldType_node)

/-- **The JSON routine ends with the first rejection among the subjects.** -/
theorem faultOf?_steps :
    faultOf? (Json.steps ctx message) =
      message.subjects.findSome? (Field.rejection? refusal? message) :=
  faultOf?_bind_pure.trans
    (faultOf?_bind_pure.trans (faultOf?_mapM_entries fun _ => faultOf?_block))

end Json

/-! ## The faults of the literal routine -/

namespace Literal

/-- A kind that the literal routine can dump has a type, so that only the check
of the kind can fail. -/
theorem faultOf?_form_resolve {made : Form → FieldType → α} :
    faultOf? (do
      let form ← form message field
      let type ← FieldType.resolve message field
      return made form type) = field.rejection? refusal? message := by
  rw [faultOf?_bind fun form => faultOf?_bind_pure]
  cases hweak : field.weak with
  | true => rw [Field.rejection?_of_weak hweak, form, hweak]; rfl
  | false =>
    rw [Field.rejection?_of_not_weak hweak, form, FieldType.resolve, hweak]
    cases hkind : field.kind with
    | scalar type => cases type <;> rfl
    | enum type | message type | list element | map key value => rfl

theorem faultOf?_block {entry : Entry} :
    faultOf? (block ctx message entry) =
      (entry.fields message).findSome? (Field.rejection? refusal? message) := by
  cases entry with
  | member field => exact faultOf?_form_resolve.trans (List.findSome?_singleton).symm
  | choice oneof =>
    exact faultOf?_bind_pure.trans (Oneof.faultOf?_arms fun _ => faultOf?_form_resolve)

/-- **The literal routine ends with the first rejection among the subjects.** -/
theorem faultOf?_steps :
    faultOf? (Literal.steps ctx message) =
      message.subjects.findSome? (Field.rejection? refusal? message) :=
  faultOf?_bind_pure.trans
    (faultOf?_bind_pure.trans (faultOf?_mapM_entries fun _ => faultOf?_block))

end Literal

/-! ## The two routines beside each other -/

/-- A fault of the JSON routine and one of the literal routine that are about one
field of the message: both because the field is weak, or both because of its
kind, each with the stage at which its routine refuses the kind. -/
inductive Unsupported.Mirrors (message : Message) : Unsupported → Unsupported → Prop
  | weak {field : Field} : field ∈ message.fields →
      Mirrors message (.weak message.name field.name) (.weak message.name field.name)
  | kind {field : Field} {stage : Stage} : field ∈ message.fields →
      stage = .json ∨ stage = .typeMapping →
      Mirrors message (.kind message.name field.name field.kind.name stage)
        (.kind message.name field.name field.kind.name .literal)

/-- The two tables have the same kinds, with stages that tell the routines apart. -/
theorem refusal?_rel (kind : Kind) :
    Option.Rel (fun stage stage' => (stage = .json ∨ stage = .typeMapping) ∧ stage' = .literal)
      (Json.refusal? kind) (Literal.refusal? kind) := by
  cases kind with
  | scalar type =>
    cases type with
    | bytes => exact .some ⟨.inl rfl, rfl⟩
    | _ => exact .none
  | enum type => exact .some ⟨.inl rfl, rfl⟩
  | message type => exact .none
  | list element =>
    rw [Json.refusal?]
    split
    · exact .some ⟨.inr rfl, rfl⟩
    · exact .some ⟨.inl rfl, rfl⟩
  | map key value => exact .some ⟨.inr rfl, rfl⟩

theorem Field.rejection?_rel (hfield : field ∈ message.fields) :
    Option.Rel (Unsupported.Mirrors message) (field.rejection? Json.refusal? message)
      (field.rejection? Literal.refusal? message) := by
  cases hweak : field.weak with
  | true =>
    rw [Field.rejection?_of_weak hweak, Field.rejection?_of_weak hweak]
    exact .some (.weak hfield)
  | false =>
    rw [Field.rejection?_of_not_weak hweak, Field.rejection?_of_not_weak hweak]
    have hrel := refusal?_rel field.kind
    generalize Json.refusal? field.kind = json at hrel
    generalize Literal.refusal? field.kind = literal at hrel
    cases hrel with
    | none => exact .none
    | some h =>
      obtain ⟨hjson, rfl⟩ := h
      exact .some (.kind hfield hjson)

/-- Two searches that find related things at each item find related things. -/
theorem findSome?_rel {β γ : Type} {R : β → γ → Prop} {f : α → Option β} {g : α → Option γ}
    {items : List α} (h : ∀ item ∈ items, Option.Rel R (f item) (g item)) :
    Option.Rel R (items.findSome? f) (items.findSome? g) := by
  induction items with
  | nil => exact .none
  | cons item rest ih =>
    have hitem := h item List.mem_cons_self
    have hrest := ih fun other hother => h other (List.mem_cons_of_mem _ hother)
    rw [List.findSome?_cons, List.findSome?_cons]
    generalize f item = a at hitem
    generalize g item = b at hitem
    cases hitem with
    | none => exact hrest
    | some hab => exact .some hab

theorem Message.mem_fields_of_mem_subjects (h : field ∈ message.subjects) :
    field ∈ message.fields := by
  rcases List.mem_append.mp h with h | h
  · exact (Message.mem_standalone.mp h).1
  · obtain ⟨oneof, _, h⟩ := List.mem_flatMap.mp h
    exact (Message.mem_alternatives.mp h).1

/-- The faults of the two routines mirror each other, whatever names and settings
either is made with. -/
theorem faultOf?_steps_rel (ctx ctx' : Context) (message : Message) :
    Option.Rel (Unsupported.Mirrors message) (faultOf? (Json.steps ctx message))
      (faultOf? (Literal.steps ctx' message)) := by
  rw [Json.faultOf?_steps, Literal.faultOf?_steps]
  exact findSome?_rel fun field hfield =>
    Field.rejection?_rel (Message.mem_fields_of_mem_subjects hfield)

/-- A message is generated unless its JSON routine fails, and fails like it. -/
theorem Message.faultOf?_generate (settings : Settings) (message : Message) :
    faultOf? (message.generate settings) = faultOf? (Json.steps { settings } message) := by
  have hrel := faultOf?_steps_rel { settings } { settings } message
  rw [Message.generate, faultOf?_bind fun _ => faultOf?_bind_pure]
  generalize faultOf? (Json.steps { settings } message) = json at hrel
  generalize faultOf? (Literal.steps { settings } message) = literal at hrel
  cases hrel <;> rfl

/-- **The two routines reject the same messages for the same fields.**  So the
generation of a message fails exactly as its JSON routine does, and the stage of
the literal routine is never reported. -/
theorem Json.steps_mirror_literal (ctx : Context) (message : Message) :
    ((∃ fault, Json.steps ctx message = .error fault) ↔
      ∃ fault, Literal.steps ctx message = .error fault) ∧
    (∀ json literal, Json.steps ctx message = .error json →
      Literal.steps ctx message = .error literal → json.Mirrors message literal) ∧
    (∀ settings fault, message.generate settings = .error fault ↔
      Json.steps { settings } message = .error fault) ∧
    ∀ settings name field kind,
      message.generate settings ≠ .error (.kind name field kind .literal) := by
  have hrel := faultOf?_steps_rel ctx ctx message
  refine ⟨?_, ?_, ?_, ?_⟩
  · simp only [← faultOf?_eq_some_iff]
    generalize faultOf? (Json.steps ctx message) = json at hrel
    generalize faultOf? (Literal.steps ctx message) = literal at hrel
    cases hrel <;> simp
  · intro json literal hjson hliteral
    rw [hjson, hliteral] at hrel
    cases hrel with
    | some h => exact h
  · intro settings fault
    rw [← faultOf?_eq_some_iff, ← faultOf?_eq_some_iff, Message.faultOf?_generate]
  · intro settings name field kind hgenerate
    rw [← faultOf?_eq_some_iff, Message.faultOf?_generate] at hgenerate
    have hrel := faultOf?_steps_rel { settings } { settings } message
    rw [hgenerate] at hrel
    generalize faultOf? (Literal.steps { settings } message) = literal at hrel
    cases hrel with
    | some h =>
      cases h with
      | kind _ hstage => simp at hstage

end MessageDump
