import MessageDump.Proofs.Generation.DryRun
import MessageDump.Proofs.Routine.Rejection
/-! # What generation accepts, and what it says otherwise

Three stages may turn a field down: the check for weak fields, the search for a
type, and the writing of the JSON routine.  Which of them does follows from the
field alone (`Field.RejectedAs`), and so does whether any does
(`Field.Supported`).  Fields are looked at in the order of the routines and not in
that of their declaration, those on their own before those of oneofs, so that the
fault of a message is that of the first unsupported field in this order
(`Message.generate_eq_error_iff`).  The fault of a schema is then about one of its
messages and about a field of that message.
-/
namespace MessageDump

/-- The kinds that the routines can handle: every scalar but `bytes`, that is truth
values, numbers of 32 and 64 bits and texts, and messages. -/
inductive Kind.Supported : Kind → Prop
  | scalar {type : Scalar} : type ≠ .bytes → Supported (.scalar type)
  | message (type : String) : Supported (.message type)

/-- The stage at which a kind is turned down.  No type is found for a map and for a
list whose elements are lists or maps; the kinds that have a type but no JSON node
are turned down when the JSON routine is written. -/
inductive Kind.RefusedAt : Kind → Stage → Prop
  | map (key value : Kind) : RefusedAt (.map key value) .typeMapping
  | listOfLists (element : Kind) : RefusedAt (.list (.list element)) .typeMapping
  | listOfMaps (key value : Kind) : RefusedAt (.list (.map key value)) .typeMapping
  | bytes : RefusedAt (.scalar .bytes) .json
  | enum (type : String) : RefusedAt (.enum type) .json
  | list {element : Kind} : (∀ inner, element ≠ .list inner) →
      (∀ key value, element ≠ .map key value) → RefusedAt (.list element) .json

/-- A field for which source is generated. -/
def Field.Supported (field : Field) : Prop :=
  field.weak = false ∧ field.kind.Supported

/-- The fault with which a field of a message is rejected: a weak field as such,
whatever its kind, and any other for its kind. -/
inductive Field.RejectedAs (message : Message) (field : Field) : Unsupported → Prop
  | weak : field.weak = true → RejectedAs message field (.weak message.name field.name)
  | kind {stage : Stage} : field.weak = false → field.kind.RefusedAt stage →
      RejectedAs message field (.kind message.name field.name field.kind.name stage)

/-! ## One field -/

section
variable {kind : Kind} {stage : Stage} {message : Message} {field : Field} {fault : Unsupported}

theorem Json.refusal?_eq_none_iff : Json.refusal? kind = none ↔ kind.Supported := by
  constructor
  · intro h
    cases kind with
    | scalar type =>
      refine .scalar ?_
      rintro rfl
      cases h
    | message type => exact .message type
    | enum type => cases h
    | list element =>
      rw [Json.refusal?] at h
      split at h <;> cases h
    | map key value => cases h
  · intro h
    cases h with
    | @scalar type htype =>
      cases type with
      | bytes => exact absurd rfl htype
      | _ => rfl
    | message type => rfl

theorem Json.refusal?_list_eq_some_iff {element : Kind} :
    Json.refusal? (.list element) = some stage ↔ (Kind.list element).RefusedAt stage := by
  rw [Json.refusal?]
  constructor
  · intro h
    cases hrepeated : element.isRepeated with
    | true =>
      rw [hrepeated, if_pos rfl, Option.some.injEq] at h
      subst h
      cases element with
      | list inner => exact .listOfLists inner
      | map key value => exact .listOfMaps key value
      | _ => cases hrepeated
    | false =>
      rw [hrepeated, if_neg Bool.false_ne_true, Option.some.injEq] at h
      subst h
      obtain ⟨hlist, hmap⟩ := Kind.isRepeated_eq_false_iff.mp hrepeated
      exact .list hlist hmap
  · intro h
    cases h with
    | listOfLists inner => rfl
    | listOfMaps key value => rfl
    | list hlist hmap =>
      have hrepeated := Kind.isRepeated_eq_false_iff.mpr ⟨hlist, hmap⟩
      rw [hrepeated, if_neg Bool.false_ne_true]

/-- The table of refused kinds says what the rules say. -/
theorem Json.refusal?_eq_some_iff : Json.refusal? kind = some stage ↔ kind.RefusedAt stage := by
  cases kind with
  | list element => exact Json.refusal?_list_eq_some_iff
  | scalar type =>
    constructor
    · intro h
      cases type with
      | bytes =>
        cases h
        exact .bytes
      | _ => cases h
    · intro h
      cases h
      rfl
  | enum type =>
    constructor
    · intro h
      cases h
      exact .enum type
    · intro h
      cases h
      rfl
  | message type =>
    constructor <;> intro h <;> cases h
  | map key value =>
    constructor
    · intro h
      cases h
      exact .map key value
    · intro h
      cases h
      rfl

theorem Field.rejection?_eq_none_iff :
    field.rejection? Json.refusal? message = none ↔ field.Supported := by
  unfold Field.Supported
  cases hweak : field.weak with
  | true => simp [Field.rejection?_of_weak hweak]
  | false =>
    rw [Field.rejection?_of_not_weak hweak, Option.map_eq_none_iff, Json.refusal?_eq_none_iff]
    exact (and_iff_right rfl).symm

theorem Field.rejection?_eq_some_iff :
    field.rejection? Json.refusal? message = some fault ↔ field.RejectedAs message fault := by
  cases hweak : field.weak with
  | true =>
    rw [Field.rejection?_of_weak hweak, Option.some.injEq]
    constructor
    · rintro rfl
      exact .weak hweak
    · intro h
      cases h with
      | weak _ => rfl
      | kind hweak' _ =>
        rw [hweak] at hweak'
        cases hweak'
  | false =>
    rw [Field.rejection?_of_not_weak hweak, Option.map_eq_some_iff]
    constructor
    · rintro ⟨stage, hstage, rfl⟩
      exact .kind hweak (Json.refusal?_eq_some_iff.mp hstage)
    · intro h
      cases h with
      | weak hweak' =>
        rw [hweak] at hweak'
        cases hweak'
      | @kind stage _ hstage => exact ⟨stage, Json.refusal?_eq_some_iff.mpr hstage, rfl⟩

end

/-! ## One message -/

section
variable {settings : Settings} {message : Message} {fault : Unsupported}

theorem Message.faultOf?_generate_eq_findSome? :
    faultOf? (message.generate settings) =
      message.subjects.findSome? (Field.rejection? Json.refusal? message) := by
  rw [Message.faultOf?_generate, Json.faultOf?_steps]

theorem Message.generate_succeeds_iff :
    (∃ source, message.generate settings = .ok source) ↔
      ∀ field ∈ message.subjects, field.Supported := by
  rw [← faultOf?_eq_none_iff, Message.faultOf?_generate_eq_findSome?, List.findSome?_eq_none_iff]
  simp only [Field.rejection?_eq_none_iff]

/-- The fault of a message is that of the first of its subjects that has one. -/
theorem Message.generate_eq_error_iff :
    message.generate settings = .error fault ↔
      ∃ before field after, message.subjects = before ++ field :: after ∧
        (∀ earlier ∈ before, earlier.Supported) ∧ field.RejectedAs message fault := by
  rw [← faultOf?_eq_some_iff, Message.faultOf?_generate_eq_findSome?, List.findSome?_eq_some_iff]
  simp only [Field.rejection?_eq_none_iff, Field.rejection?_eq_some_iff]
  constructor
  · rintro ⟨before, field, after, hsubjects, hfield, hbefore⟩
    exact ⟨before, field, after, hsubjects, hbefore, hfield⟩
  · rintro ⟨before, field, after, hsubjects, hbefore, hfield⟩
    exact ⟨before, field, after, hsubjects, hfield, hbefore⟩

theorem Message.exists_rejected_of_generate_eq_error (h : message.generate settings = .error fault) :
    ∃ field ∈ message.fields, field.RejectedAs message fault := by
  obtain ⟨before, field, after, hsubjects, _, hfield⟩ := Message.generate_eq_error_iff.mp h
  have hmem : field ∈ message.subjects := by
    rw [hsubjects]
    exact List.mem_append_right _ List.mem_cons_self
  exact ⟨field, Message.mem_fields_of_mem_subjects hmem, hfield⟩

end

/-! ## A schema -/

/-- With valid settings, the fault of a schema is that of one of its messages. -/
theorem Schema.exists_error_of_generate_eq_error {schema : Schema} {settings : Settings}
    {fault : Fault} (hvalid : settings.validate = .ok ())
    (h : schema.generate settings = .error fault) :
    ∃ message ∈ schema.messages, ∃ reason,
      fault = .unsupported reason ∧ message.generate settings = .error reason := by
  rw [Schema.generate_of_validate hvalid, mapError_eq_error_iff] at h
  obtain ⟨reason, hreason, rfl⟩ := h
  obtain ⟨before, report, after, hreports, hreport, _⟩ := Schema.outputFiles_eq_error_iff.mp hreason
  have hmem : report ∈ schema.dryRun settings := by
    rw [hreports]
    exact List.mem_append_right _ List.mem_cons_self
  obtain ⟨message, hmessage, rfl⟩ := List.mem_map.mp hmem
  refine ⟨message, hmessage, reason, rfl, ?_⟩
  rw [← faultOf?_eq_some_iff] at hreport ⊢
  rwa [faultOf?_map] at hreport

/-- **What is accepted, and the first fault otherwise.**  A message is generated
exactly if each of its fields on their own, and each alternative of a oneof that it
declares, is supported; otherwise its fault is that of the first of these fields
that is not.  With valid settings a linked schema fails only by such a fault of
one of its messages, for one of the fields of that message. -/
theorem Message.generate_accepts_or_rejects_first (settings : Settings) (message : Message) :
    ((∃ source, message.generate settings = .ok source) ↔
      ∀ field ∈ message.standalone ++ message.oneofs.flatMap message.alternatives,
        field.Supported) ∧
    (∀ fault, message.generate settings = .error fault ↔
      ∃ before field after,
        message.standalone ++ message.oneofs.flatMap message.alternatives =
          before ++ field :: after ∧
        (∀ earlier ∈ before, earlier.Supported) ∧ field.RejectedAs message fault) ∧
    ∀ messages schema fault, Schema.link messages = .ok schema → settings.validate = .ok () →
      schema.generate settings = .error fault →
      fault.isUnsupported = true ∧
      ∃ culprit ∈ schema.messages, ∃ field ∈ culprit.fields, ∃ reason,
        fault = .unsupported reason ∧ field.RejectedAs culprit reason ∧
        schema.get? culprit.name = some culprit := by
  refine ⟨Message.generate_succeeds_iff, fun fault => Message.generate_eq_error_iff, ?_⟩
  intro messages schema fault hlink hvalid hgenerate
  obtain ⟨culprit, hmem, reason, rfl, hreason⟩ :=
    Schema.exists_error_of_generate_eq_error hvalid hgenerate
  obtain ⟨field, hfield, hrejected⟩ := Message.exists_rejected_of_generate_eq_error hreason
  obtain ⟨hlinkable, rfl⟩ := Schema.link_eq_ok_iff.mp hlink
  have hget := (Schema.get?_eq_some_iff hlinkable.names_nodup).mpr ⟨hmem, rfl⟩
  exact ⟨rfl, culprit, hmem, field, hfield, reason, rfl, hrejected, hget⟩

namespace Sample

/-- A message with two fields that are not supported, of which the one in a oneof is
declared first. -/
def archive : Message where
  name := "Archive"
  fields :=
    [{ Field.ofName "raw" (.scalar .bytes) with oneof := some "body" },
     Field.ofName "title" (.scalar .string),
     Field.ofName "labels" (.map (.scalar .string) (.scalar .int32))]
  oneofs := [⟨"body"⟩]

theorem link_archive : Schema.link [photo, archive] = .ok ⟨[photo, archive]⟩ := by rfl

end Sample

/-- `photo` is accepted, and the map of `archive` is reported and not its bytes. -/
theorem Sample.archive_rejected :
    (∃ source, photo.generate {} = .ok source) ∧
    archive.generate {} = .error (.kind "Archive" "labels" "map" .typeMapping) ∧
    Schema.link [photo, archive] = .ok ⟨[photo, archive]⟩ ∧
    ∀ fault, Schema.generate {} ⟨[photo, archive]⟩ = .error fault → fault.isUnsupported = true := by
  obtain ⟨haccepts, _, _⟩ := Message.generate_accepts_or_rejects_first {} photo
  obtain ⟨_, hrejects, hschema⟩ := Message.generate_accepts_or_rejects_first {} archive
  have htitle : (Field.ofName "title" (.scalar .string)).Supported :=
    ⟨rfl, .scalar (by decide)⟩
  refine ⟨haccepts.mpr ?_, (hrejects _).mpr ?_, link_archive, fun fault hfault => ?_⟩
  · intro field hfield
    rw [show photo.standalone ++ photo.oneofs.flatMap photo.alternatives =
      [Field.ofName "url" (.scalar .string)] from rfl, List.mem_singleton] at hfield
    rw [hfield]
    exact ⟨rfl, .scalar (by decide)⟩
  · refine ⟨[Field.ofName "title" (.scalar .string)], _, [_], rfl, ?_, .kind rfl (.map _ _)⟩
    intro earlier hearlier
    rw [List.mem_singleton.mp hearlier]
    exact htitle
  · exact (hschema _ _ fault link_archive validate_default hfault).1

end MessageDump
