import MessageDump.Fault
import MessageDump.Proofs.Fault.Listing
/-! # What linking accepts

Linking looks for faults one after the other; this module says what a list of
messages without any looks like, in terms that do not mention the order of the
checks.  `Message.WellFormed` collects what holds inside one message, given the
names of all messages, and `Schema.Linkable` what holds of the list.

Each group of checks has a lemma of the form `_eq_nil_iff`, from which
`Message.faults_eq_nil_iff` and `Schema.faults_eq_nil_iff` are put together.
The main statement, `Schema.link_sound_complete`, says that linking succeeds on
the linkable lists and on no others, that it then keeps the messages as they
are, and that otherwise its fault is about one of them.
-/
namespace MessageDump

/-- A kind mentions a message type if it is that type, or a list whose elements
mention it, or a map whose values do. -/
inductive Kind.Mentions (type : String) : Kind → Prop
  | message : Mentions type (.message type)
  | list {element : Kind} : Mentions type element → Mentions type (.list element)
  | map {key value : Kind} : Mentions type value → Mentions type (.map key value)

/-- A message whose names, keys, references and oneofs are as they have to be in
a schema with the given message names. -/
structure Message.WellFormed (names : List String) (message : Message) : Prop where
  /-- The name of the message can name a type. -/
  name_identifier : Name.isIdentifier message.name = true
  name_not_keyword : Name.isKeyword message.name = false
  oneof_identifier : ∀ oneof ∈ message.oneofs, Name.isIdentifier oneof.name = true
  oneof_nodup : (message.oneofs.map (·.name)).Nodup
  field_identifier : ∀ field ∈ message.fields, Name.isIdentifier field.name = true
  field_nodup : (message.fields.map (·.name)).Nodup
  /-- No field has the name of a oneof. -/
  field_ne_oneof : ∀ field ∈ message.fields, ∀ oneof ∈ message.oneofs, field.name ≠ oneof.name
  /-- The JSON names of the fields, then those that the oneofs get from their
  names: all different. -/
  json_nodup : (message.fields.map (·.jsonName) ++
    message.oneofs.map fun oneof => Name.camel oneof.name).Nodup
  /-- Every message type that is mentioned at any depth has a name in the schema. -/
  mentions_known : ∀ field ∈ message.fields, ∀ type, field.kind.Mentions type → type ∈ names
  /-- A field that belongs to a oneof belongs to a declared one. -/
  member_declared : ∀ field ∈ message.fields, ∀ name, field.oneof = some name →
    ∃ oneof ∈ message.oneofs, oneof.name = name
  member_not_optional : ∀ field ∈ message.fields, ∀ name, field.oneof = some name →
    field.optional = false
  member_not_list : ∀ field ∈ message.fields, ∀ name, field.oneof = some name →
    ∀ element, field.kind ≠ .list element
  member_not_map : ∀ field ∈ message.fields, ∀ name, field.oneof = some name →
    ∀ key value, field.kind ≠ .map key value
  /-- No declared oneof is without fields. -/
  oneof_inhabited : ∀ oneof ∈ message.oneofs, ∃ field ∈ message.fields,
    field.oneof = some oneof.name

/-- Messages that make a schema: no two of one name, and each of them well
formed among the others. -/
structure Schema.Linkable (messages : List Message) : Prop where
  names_nodup : (messages.map (·.name)).Nodup
  wellFormed : ∀ message ∈ messages, message.WellFormed (messages.map (·.name))

/-- A fault is about a list of messages if it names a message of the list: one
without a name, one whose name occurs again, or one that is not well formed. -/
def SchemaFault.IsAbout (messages : List Message) : SchemaFault → Prop
  | .emptyName => "" ∈ messages.map (·.name)
  | .duplicateMessage name => 1 < (messages.map (·.name)).count name
  | .inMessage name _ =>
    ∃ message ∈ messages, message.name = name ∧ ¬ message.WellFormed (messages.map (·.name))
  | .inField .. | .inKind .. => False

/-! ## Kinds and references -/

theorem Kind.reference?_eq_some_iff {kind : Kind} {type : String} :
    kind.reference? = some type ↔ kind.Mentions type := by
  induction kind with
  | scalar _ | enum _ =>
    simp only [Kind.reference?, reduceCtorEq, false_iff]
    exact fun h => nomatch h
  | message other =>
    simp only [Kind.reference?, Option.some.injEq]
    exact ⟨fun h => h ▸ .message, fun h => by cases h; rfl⟩
  | list element ih =>
    rw [Kind.reference?, ih]
    exact ⟨.list, fun h => by cases h; assumption⟩
  | map key value _ ih =>
    rw [Kind.reference?, ih]
    exact ⟨.map, fun h => by cases h; assumption⟩

theorem Kind.isRepeated_eq_false_iff {kind : Kind} :
    kind.isRepeated = false ↔
      (∀ element, kind ≠ .list element) ∧ ∀ key value, kind ≠ .map key value := by
  cases kind <;> simp [Kind.isRepeated]

/-! ## The groups of checks -/

theorem Oneof.nameFaults_eq_nil_iff {earlier : List Oneof} {oneof : Oneof} :
    oneof.nameFaults earlier = [] ↔
      Name.isIdentifier oneof.name = true ∧ ∀ other ∈ earlier, other.name ≠ oneof.name := by
  simp [Oneof.nameFaults]

theorem Message.alternatives_isEmpty_eq_false_iff {message : Message} {oneof : Oneof} :
    (message.alternatives oneof).isEmpty = false ↔
      ∃ field ∈ message.fields, field.oneof = some oneof.name := by
  rw [List.isEmpty_eq_false_iff_exists_mem]
  simp [Message.alternatives, List.mem_filter]

theorem Oneof.useFaults_eq_nil_iff {message : Message} {earlier : List Oneof} {oneof : Oneof} :
    oneof.useFaults message earlier = [] ↔
      (∃ field ∈ message.fields, field.oneof = some oneof.name) ∧
      (∀ field ∈ message.fields, field.jsonName ≠ oneof.jsonName) ∧
      ∀ other ∈ earlier, other.jsonName ≠ oneof.jsonName := by
  rw [Oneof.useFaults, List.append_eq_nil_iff, faultIf_eq_nil, faultIf_eq_nil,
    Message.alternatives_isEmpty_eq_false_iff]
  simp

theorem Field.nameFaults_eq_nil_iff {message : Message} {earlier : List Field} {field : Field} :
    field.nameFaults message earlier = [] ↔
      Name.isIdentifier field.name = true ∧
      (∀ other ∈ earlier, other.name ≠ field.name) ∧
      (∀ oneof ∈ message.oneofs, oneof.name ≠ field.name) ∧
      ∀ other ∈ earlier, other.jsonName ≠ field.jsonName := by
  simp [Field.nameFaults]

theorem Field.referenceFaults_eq_nil_iff {names : List String} {field : Field} :
    field.referenceFaults names = [] ↔ ∀ type, field.kind.Mentions type → type ∈ names := by
  simp only [← Kind.reference?_eq_some_iff]
  unfold Field.referenceFaults
  split
  · next type h => simp [h]
  · next h => simp [h]

theorem Field.membershipFaults_eq_nil_iff {message : Message} {field : Field} :
    field.membershipFaults message = [] ↔
      ∀ name, field.oneof = some name →
        (∃ oneof ∈ message.oneofs, oneof.name = name) ∧ field.optional = false ∧
        (∀ element, field.kind ≠ .list element) ∧ ∀ key value, field.kind ≠ .map key value := by
  unfold Field.membershipFaults
  split
  · next name h => simp [h, ← Kind.isRepeated_eq_false_iff]
  · next h => simp [h]

/-! ## One message -/

variable {names : List String} {message : Message} {messages : List Message}

theorem Message.oneofNameFaults_eq_nil_iff :
    (withEarlier [] message.oneofs).flatMap
        (fun (earlier, oneof) => oneof.nameFaults earlier) = [] ↔
      (∀ oneof ∈ message.oneofs, Name.isIdentifier oneof.name = true) ∧
      (message.oneofs.map (·.name)).Nodup := by
  rw [List.flatMap_eq_nil_iff]
  change (∀ p ∈ withEarlier [] message.oneofs, p.2.nameFaults p.1 = []) ↔ _
  simp only [Oneof.nameFaults_eq_nil_iff, imp_and, forall_and]
  exact and_congr (forall_withEarlier_snd fun oneof : Oneof => Name.isIdentifier oneof.name = true)
    forall_withEarlier_nil_ne

theorem Message.fieldFaults_eq_nil_iff :
    (withEarlier [] message.fields).flatMap
        (fun (earlier, field) => field.faults names message earlier) = [] ↔
      (∀ field ∈ message.fields, Name.isIdentifier field.name = true) ∧
      (message.fields.map (·.name)).Nodup ∧
      (∀ field ∈ message.fields, ∀ oneof ∈ message.oneofs, oneof.name ≠ field.name) ∧
      (message.fields.map (·.jsonName)).Nodup ∧
      (∀ field ∈ message.fields, field.referenceFaults names = []) ∧
      ∀ field ∈ message.fields, field.membershipFaults message = [] := by
  rw [List.flatMap_eq_nil_iff]
  change (∀ p ∈ withEarlier [] message.fields, p.2.faults names message p.1 = []) ↔ _
  simp only [Field.faults, List.append_eq_nil_iff, Field.nameFaults_eq_nil_iff, imp_and,
    forall_and, and_assoc]
  -- names and JSON names are compared with those before, the rest is one by one
  refine and_congr ?_ (and_congr forall_withEarlier_nil_ne (and_congr ?_
    (and_congr forall_withEarlier_nil_ne (and_congr ?_ ?_))))
  · exact forall_withEarlier_snd fun field : Field => Name.isIdentifier field.name = true
  · exact forall_withEarlier_snd fun field : Field =>
      ∀ oneof ∈ message.oneofs, oneof.name ≠ field.name
  · exact forall_withEarlier_snd fun field : Field => field.referenceFaults names = []
  · exact forall_withEarlier_snd fun field : Field => field.membershipFaults message = []

theorem Message.oneofUseFaults_eq_nil_iff :
    (withEarlier [] message.oneofs).flatMap
        (fun (earlier, oneof) => oneof.useFaults message earlier) = [] ↔
      (∀ oneof ∈ message.oneofs, ∃ field ∈ message.fields, field.oneof = some oneof.name) ∧
      (∀ oneof ∈ message.oneofs, ∀ field ∈ message.fields, field.jsonName ≠ oneof.jsonName) ∧
      (message.oneofs.map Oneof.jsonName).Nodup := by
  rw [List.flatMap_eq_nil_iff]
  change (∀ p ∈ withEarlier [] message.oneofs, p.2.useFaults message p.1 = []) ↔ _
  simp only [Oneof.useFaults_eq_nil_iff, imp_and, forall_and]
  refine and_congr ?_ (and_congr ?_ forall_withEarlier_nil_ne)
  · exact forall_withEarlier_snd fun oneof : Oneof =>
      ∃ field ∈ message.fields, field.oneof = some oneof.name
  · exact forall_withEarlier_snd fun oneof : Oneof =>
      ∀ field ∈ message.fields, field.jsonName ≠ oneof.jsonName

/-- The keys of fields and oneofs are looked at in three places: among the
fields, among the oneofs, and across. -/
theorem Message.json_nodup_iff :
    (message.fields.map (·.jsonName) ++
        message.oneofs.map fun oneof => Name.camel oneof.name).Nodup ↔
      (message.fields.map (·.jsonName)).Nodup ∧ (message.oneofs.map Oneof.jsonName).Nodup ∧
      ∀ oneof ∈ message.oneofs, ∀ field ∈ message.fields, field.jsonName ≠ oneof.jsonName := by
  rw [List.nodup_append]
  refine and_congr_right fun _ => and_congr_right fun _ => ?_
  constructor
  · intro h oneof honeof field hfield
    exact h _ (List.mem_map_of_mem hfield) _ (List.mem_map_of_mem honeof)
  · intro h a ha b hb
    obtain ⟨field, hfield, rfl⟩ := List.mem_map.mp ha
    obtain ⟨oneof, honeof, rfl⟩ := List.mem_map.mp hb
    exact h oneof honeof field hfield

/-- **A message has no fault exactly if it is well formed.** -/
theorem Message.faults_eq_nil_iff : message.faults names = [] ↔ message.WellFormed names := by
  simp only [Message.faults, List.append_eq_nil_iff, faultIf_eq_nil, Bool.or_eq_false_iff,
    Bool.not_eq_false', Message.oneofNameFaults_eq_nil_iff, Message.fieldFaults_eq_nil_iff,
    Message.oneofUseFaults_eq_nil_iff]
  constructor
  · rintro ⟨⟨⟨⟨hname, hkeyword⟩, hoid, hond⟩, hfid, hfnd, hne, hjson, href, hmember⟩,
      hinhabited, hacross, hkeys⟩
    have member := fun field hfield => Field.membershipFaults_eq_nil_iff.mp (hmember field hfield)
    exact {
      name_identifier := hname
      name_not_keyword := hkeyword
      oneof_identifier := hoid
      oneof_nodup := hond
      field_identifier := hfid
      field_nodup := hfnd
      field_ne_oneof := fun field hfield oneof honeof => (hne field hfield oneof honeof).symm
      json_nodup := Message.json_nodup_iff.mpr ⟨hjson, hkeys, hacross⟩
      mentions_known := fun field hfield =>
        Field.referenceFaults_eq_nil_iff.mp (href field hfield)
      member_declared := fun field hfield name h => (member field hfield name h).1
      member_not_optional := fun field hfield name h => (member field hfield name h).2.1
      member_not_list := fun field hfield name h => (member field hfield name h).2.2.1
      member_not_map := fun field hfield name h => (member field hfield name h).2.2.2
      oneof_inhabited := hinhabited }
  · intro h
    obtain ⟨hjson, hkeys, hacross⟩ := Message.json_nodup_iff.mp h.json_nodup
    refine ⟨⟨⟨⟨h.name_identifier, h.name_not_keyword⟩, h.oneof_identifier, h.oneof_nodup⟩,
      h.field_identifier, h.field_nodup, ?_, hjson, ?_, ?_⟩, h.oneof_inhabited, hacross, hkeys⟩
    · exact fun field hfield oneof honeof => (h.field_ne_oneof field hfield oneof honeof).symm
    · exact fun field hfield => Field.referenceFaults_eq_nil_iff.mpr (h.mentions_known field hfield)
    · intro field hfield
      refine Field.membershipFaults_eq_nil_iff.mpr fun name hname => ?_
      exact ⟨h.member_declared field hfield name hname,
        h.member_not_optional field hfield name hname,
        h.member_not_list field hfield name hname, h.member_not_map field hfield name hname⟩

/-! ## All messages -/

theorem Name.ne_empty_of_isIdentifier {name : String} (h : Name.isIdentifier name = true) :
    name ≠ "" := by
  rintro rfl
  exact absurd h (by decide)

theorem Schema.nameFaults_eq_nil_iff :
    (withEarlier [] messages).flatMap (fun (earlier, message) => message.nameFaults earlier) = [] ↔
      (∀ message ∈ messages, message.name ≠ "") ∧ (messages.map (·.name)).Nodup := by
  rw [List.flatMap_eq_nil_iff]
  change (∀ p ∈ withEarlier [] messages, p.2.nameFaults p.1 = []) ↔ _
  simp only [Message.nameFaults, List.append_eq_nil_iff, faultIf_eq_nil, decide_eq_false_iff_not,
    List.any_eq_false, decide_eq_true_eq, imp_and, forall_and]
  exact and_congr (forall_withEarlier_snd fun message : Message => message.name ≠ "")
    forall_withEarlier_nil_ne

/-- **Messages have no fault exactly if they are linkable.**  That no name is
empty need not be said apart, since names are identifiers. -/
theorem Schema.faults_eq_nil_iff : Schema.faults messages = [] ↔ Schema.Linkable messages := by
  rw [Schema.faults, List.append_eq_nil_iff, Schema.nameFaults_eq_nil_iff]
  simp only [List.flatMap_eq_nil_iff, List.map_eq_nil_iff, Message.faults_eq_nil_iff]
  constructor
  · rintro ⟨⟨_, hnodup⟩, hall⟩
    exact ⟨hnodup, hall⟩
  · intro h
    -- no name is empty, since an identifier has a first character
    refine ⟨⟨fun message hmem => ?_, h.names_nodup⟩, h.wellFormed⟩
    exact Name.ne_empty_of_isIdentifier (h.wellFormed message hmem).name_identifier

theorem Schema.link_eq_ok_iff {schema : Schema} :
    Schema.link messages = .ok schema ↔ Schema.Linkable messages ∧ schema.messages = messages := by
  rw [Schema.link, unlessFaulty_eq_ok, Schema.faults_eq_nil_iff]
  refine and_congr_right fun _ => ?_
  cases schema
  rw [Schema.mk.injEq]
  exact eq_comm

/-- The messages of a linked schema are well formed, each by itself. -/
theorem Schema.wellFormed_of_link_eq_ok {schema : Schema}
    (hlink : Schema.link messages = .ok schema) (hmem : message ∈ schema.messages) :
    message.WellFormed (schema.messages.map (·.name)) := by
  obtain ⟨hlinkable, rfl⟩ := Schema.link_eq_ok_iff.mp hlink
  exact hlinkable.wellFormed message hmem

/-- In a list without repeated names, looking up a name finds its message. -/
theorem Schema.get?_eq_some_iff {schema : Schema} {name : String}
    (hnodup : (schema.messages.map (·.name)).Nodup) :
    schema.get? name = some message ↔ message ∈ schema.messages ∧ message.name = name := by
  constructor
  · intro h
    exact ⟨List.mem_of_find?_eq_some h, by simpa using List.find?_some h⟩
  · rintro ⟨hmem, hname⟩
    cases hfound : schema.get? name with
    | none => exact absurd hname (by simpa using List.find?_eq_none.mp hfound message hmem)
    | some found =>
      have hfoundName : found.name = name := by simpa using List.find?_some hfound
      rw [List.inj_on_of_nodup_map hnodup (List.mem_of_find?_eq_some hfound) hmem
        (hfoundName.trans hname.symm)]

theorem Schema.get?_eq_none_iff {schema : Schema} {name : String} :
    schema.get? name = none ↔ name ∉ schema.messages.map (·.name) := by
  simp [Schema.get?]

/-- A fault found by looking at a name is about a message of that name. -/
theorem SchemaFault.isAbout_of_mem_nameFaults {fault : SchemaFault} {before after : List Message}
    (h : fault ∈ message.nameFaults before) : fault.IsAbout (before ++ message :: after) := by
  rcases List.mem_append.mp h with h | h
  · obtain ⟨hempty, rfl⟩ := mem_faultIf.mp h
    have hname : message.name = "" := of_decide_eq_true hempty
    simp [SchemaFault.IsAbout, ← hname]
  · obtain ⟨hrepeated, rfl⟩ := mem_faultIf.mp h
    have hname : message.name ∈ before.map (·.name) := by simpa using hrepeated
    have hbefore : 0 < (before.map (·.name)).count message.name := List.count_pos_iff.mpr hname
    simp only [SchemaFault.IsAbout, List.map_append, List.map_cons, List.count_append,
      List.count_cons_self]
    omega

/-- Every fault that is listed is about one of the messages. -/
theorem SchemaFault.isAbout_of_mem_faults {fault : SchemaFault}
    (h : fault ∈ Schema.faults messages) : fault.IsAbout messages := by
  rcases List.mem_append.mp h with h | h
  · obtain ⟨p, hp, hfault⟩ := List.mem_flatMap.mp h
    obtain ⟨before, after, rfl, hbefore⟩ := exists_append_of_mem_withEarlier hp
    have hfault : fault ∈ p.2.nameFaults p.1 := hfault
    rw [hbefore, List.nil_append] at hfault
    exact SchemaFault.isAbout_of_mem_nameFaults hfault
  · obtain ⟨message, hmem, hfault⟩ := List.mem_flatMap.mp h
    obtain ⟨inner, hinner, rfl⟩ := List.mem_map.mp hfault
    refine ⟨message, hmem, rfl, fun hwell => ?_⟩
    rw [Message.faults_eq_nil_iff.mpr hwell] at hinner
    cases hinner

/-- **Linking succeeds on the linkable lists of messages and on no others.**  The
schema then holds the messages in their order and as they were, and finds each
of them by its name and nothing by any other; otherwise the fault is one of the
schema and is about one of the messages. -/
theorem Schema.link_sound_complete (messages : List Message) :
    ((∃ schema, Schema.link messages = .ok schema) ↔ Schema.Linkable messages) ∧
    (∀ schema, Schema.link messages = .ok schema →
      schema.messages = messages ∧ schema.size = messages.length ∧
      (∀ name message,
        schema.get? name = some message ↔ message ∈ messages ∧ message.name = name) ∧
      ∀ name, schema.get? name = none ↔ name ∉ messages.map (·.name)) ∧
    ∀ fault, Schema.link messages = .error fault →
      fault.IsAbout messages ∧ (Fault.schema fault).faultClass = .invalidSchema := by
  refine ⟨?_, ?_, ?_⟩
  · constructor
    · rintro ⟨schema, hlink⟩
      exact (Schema.link_eq_ok_iff.mp hlink).1
    · exact fun hlinkable => ⟨⟨messages⟩, Schema.link_eq_ok_iff.mpr ⟨hlinkable, rfl⟩⟩
  · intro schema hlink
    obtain ⟨hlinkable, rfl⟩ := Schema.link_eq_ok_iff.mp hlink
    exact ⟨rfl, rfl, fun _ _ => Schema.get?_eq_some_iff hlinkable.names_nodup,
      fun _ => Schema.get?_eq_none_iff⟩
  · intro fault hlink
    have hhead := unlessFaulty_eq_error.mp hlink
    exact ⟨SchemaFault.isAbout_of_mem_faults (List.mem_of_mem_head? hhead), rfl⟩

/-! ## A small schema -/

namespace Sample

/-- A message type that another one refers to. -/
def photo : Message where
  name := "Photo"
  fields := [Field.ofName "url" (.scalar .string)]

/-- A message with a oneof, whose alternatives are declared between fields on
their own, and with a JSON name that is not the usual one. -/
def post : Message where
  name := "Post"
  fields :=
    [Field.ofName "id" (.scalar .int64),
     { Field.ofName "text" (.scalar .string) with oneof := some "rich_body" },
     { Field.ofName "priority" (.scalar .int32) with optional := true, jsonName := "rich_body" },
     { Field.ofName "photo" (.message "Photo") with oneof := some "rich_body" },
     Field.ofName "cover_photo" (.message "Photo")]
  oneofs := [⟨"rich_body"⟩]

theorem link_eq_ok : Schema.link [photo, post] = .ok ⟨[photo, post]⟩ := by rfl

end Sample

end MessageDump
