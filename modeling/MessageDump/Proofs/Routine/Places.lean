import MessageDump.Proofs.Name.Casing
import MessageDump.Proofs.Routine.Keys
/-! # Where the members of a message are found

The generated routines reach a field or a oneof as a member of the receiver,
under the escaped form of its name.  Linking sees to it that all names of a
message are different, but not that their escaped forms are: a reserved word
takes an underscore behind, which another name may have already.  This is the
only way in which two members can be found at one place
(`Message.places_coincide_iff`).  Two such names have the same camel case, so that
linking turns them down after all unless a field has been given a JSON name of
its own.
-/
namespace MessageDump

open Source (Context)

/-- The members that a message declares: all fields, those in a oneof included, and
the oneofs. -/
def Message.members (message : Message) : List Entry :=
  message.fields.map .member ++ message.oneofs.map .choice

/-- The expression for a member of the receiver. -/
def Entry.place (ctx : Context) : Entry → String
  | member field => field.place ctx
  | choice oneof => oneof.place ctx

theorem Entry.place_eq (ctx : Context) (entry : Entry) :
    entry.place ctx = ctx.member (Name.escaped entry.label) := by
  cases entry <;> rfl

theorem Entry.place_eq_place_iff {ctx : Context} {entry other : Entry} :
    entry.place ctx = other.place ctx ↔
      Name.escaped entry.label = Name.escaped other.label := by
  rw [Entry.place_eq, Entry.place_eq, Context.member, Context.member, String.append_right_inj]

/-! ## Names and keys of the members -/

section Linked
variable {names : List String} {message : Message} {entry other : Entry}

theorem Message.map_label_members :
    message.members.map Entry.label =
      message.fields.map (·.name) ++ message.oneofs.map (·.name) := by
  rw [Message.members, List.map_append, List.map_map, List.map_map]
  rfl

theorem Message.map_jsonKey_members :
    message.members.map Entry.jsonKey =
      message.fields.map (·.jsonName) ++ message.oneofs.map Oneof.jsonName := by
  rw [Message.members, List.map_append, List.map_map, List.map_map]
  rfl

theorem Message.label_members_nodup (h : message.WellFormed names) :
    (message.members.map Entry.label).Nodup := by
  rw [Message.map_label_members]
  refine List.nodup_append.mpr ⟨h.field_nodup, h.oneof_nodup, ?_⟩
  intro a ha b hb
  obtain ⟨field, hfield, rfl⟩ := List.mem_map.mp ha
  obtain ⟨oneof, honeof, rfl⟩ := List.mem_map.mp hb
  exact h.field_ne_oneof field hfield oneof honeof

theorem Message.jsonKey_members_nodup (h : message.WellFormed names) :
    (message.members.map Entry.jsonKey).Nodup := by
  rw [Message.map_jsonKey_members]
  exact h.json_nodup

theorem Message.isIdentifier_label (h : message.WellFormed names) (hentry : entry ∈ message.members) :
    Name.isIdentifier entry.label = true := by
  rcases List.mem_append.mp hentry with hentry | hentry
  · obtain ⟨field, hfield, rfl⟩ := List.mem_map.mp hentry
    exact h.field_identifier field hfield
  · obtain ⟨oneof, honeof, rfl⟩ := List.mem_map.mp hentry
    exact h.oneof_identifier oneof honeof

/-- Different members have different names. -/
theorem Message.label_ne (h : message.WellFormed names) (hentry : entry ∈ message.members)
    (hother : other ∈ message.members) (hne : entry ≠ other) : entry.label ≠ other.label :=
  fun heq => hne (List.inj_on_of_nodup_map (Message.label_members_nodup h) hentry hother heq)

/-- Different members have different JSON keys. -/
theorem Message.jsonKey_ne (h : message.WellFormed names) (hentry : entry ∈ message.members)
    (hother : other ∈ message.members) (hne : entry ≠ other) : entry.jsonKey ≠ other.jsonKey :=
  fun heq => hne (List.inj_on_of_nodup_map (Message.jsonKey_members_nodup h) hentry hother heq)

end Linked

/-- **Two members of a message are found at one place exactly if one is named by a
reserved word and the other by that word with an underscore behind.**  One of the
two is then a field whose JSON name is not the one that its name has by
convention. -/
theorem Message.places_coincide_iff {messages : List Message} {schema : Schema} {message : Message}
    {entry other : Entry} (hlink : Schema.link messages = .ok schema)
    (hmem : message ∈ schema.messages) (hentry : entry ∈ message.members)
    (hother : other ∈ message.members) (hne : entry ≠ other) :
    (∀ ctx : Context, entry.place ctx = other.place ctx ↔
      Name.escaped entry.label = Name.escaped other.label) ∧
    (Name.escaped entry.label = Name.escaped other.label ↔
      ∃ word ∈ Name.reservedWords,
        (entry.label = word ∧ other.label = word ++ "_") ∨
        (other.label = word ∧ entry.label = word ++ "_")) ∧
    (Name.escaped entry.label = Name.escaped other.label →
      entry.jsonKey ≠ Name.camel entry.label ∨ other.jsonKey ≠ Name.camel other.label) := by
  have hwell := Schema.wellFormed_of_link_eq_ok hlink hmem
  have hlabel := Message.label_ne hwell hentry hother hne
  have hescaped := Name.escaped_eq_escaped_iff (Message.isIdentifier_label hwell hentry)
    (Message.isIdentifier_label hwell hother)
  refine ⟨fun _ => Entry.place_eq_place_iff, ?_, ?_⟩
  · rw [hescaped]
    constructor
    · rintro (heq | ⟨hword, heq⟩ | ⟨hword, heq⟩)
      · exact absurd heq hlabel
      · exact ⟨_, hword, Or.inl ⟨rfl, heq⟩⟩
      · exact ⟨_, hword, Or.inr ⟨rfl, heq⟩⟩
    · rintro ⟨word, hword, ⟨rfl, heq⟩ | ⟨rfl, heq⟩⟩
      · exact Or.inr (Or.inl ⟨hword, heq⟩)
      · exact Or.inr (Or.inr ⟨hword, heq⟩)
  · intro heq
    -- with both keys as usual, the common camel case would be a common key
    have hcamel : Name.camel entry.label = Name.camel other.label := by
      rcases hescaped.mp heq with heq | ⟨_, heq⟩ | ⟨_, heq⟩
      · rw [heq]
      · rw [heq, Name.camel_append_underscore]
      · rw [heq, Name.camel_append_underscore]
    by_contra husual
    rw [not_or, not_not, not_not] at husual
    apply Message.jsonKey_ne hwell hentry hother hne
    rw [husual.1, husual.2, hcamel]

namespace Sample

/-- A field that is named by a reserved word. -/
def selfField : Field := Field.ofName "self" (.scalar .int32)

/-- A field that has the escaped form of that word for its name. -/
def ownField : Field := { Field.ofName "self_" (.scalar .int32) with jsonName := "own" }

/-- A field that is named by a keyword with a raw form. -/
def typeField : Field := Field.ofName "type" (.scalar .string)

/-- A message with these fields. -/
def mirror : Message where
  name := "Mirror"
  fields := [selfField, ownField, typeField]

theorem link_mirror : Schema.link [mirror] = .ok ⟨[mirror]⟩ := by rfl

end Sample

/-- In `mirror` the field `type` is apart from `self`, which `self_` is not. -/
theorem Sample.mirror_places :
    Schema.link [mirror] = .ok ⟨[mirror]⟩ ∧ mirror ∈ [mirror] ∧
    Entry.member selfField ∈ mirror.members ∧ Entry.member ownField ∈ mirror.members ∧
    Entry.member typeField ∈ mirror.members ∧
    (∀ ctx : Context, (Entry.member selfField).place ctx = (Entry.member ownField).place ctx) ∧
    ((Entry.member selfField).jsonKey ≠ "self" ∨ (Entry.member ownField).jsonKey ≠ "self") ∧
    ∀ ctx : Context, (Entry.member selfField).place ctx ≠ (Entry.member typeField).place ctx := by
  have hmem : mirror ∈ [mirror] := List.mem_singleton_self _
  have hself : Entry.member selfField ∈ mirror.members := by decide
  have hown : Entry.member ownField ∈ mirror.members := by decide
  have htype : Entry.member typeField ∈ mirror.members := by decide
  obtain ⟨hplace, hsame, hkey⟩ :=
    Message.places_coincide_iff link_mirror hmem hself hown (by decide)
  obtain ⟨hplace', hsame', _⟩ :=
    Message.places_coincide_iff link_mirror hmem hself htype (by decide)
  have hescaped := hsame.mpr ⟨"self", by decide, Or.inl ⟨rfl, rfl⟩⟩
  refine ⟨link_mirror, hmem, hself, hown, htype, fun ctx => (hplace ctx).mpr hescaped,
    hkey hescaped, fun ctx heq => ?_⟩
  exact absurd (hsame'.mp ((hplace' ctx).mp heq)) (by decide)

/-- That the names of a linked message are different does not make their escaped
forms different. -/
theorem Sample.not_escaped_label_ne :
    ¬ ∀ (messages : List Message) (schema : Schema) (message : Message) (entry other : Entry),
      Schema.link messages = .ok schema → message ∈ schema.messages →
      entry ∈ message.members → other ∈ message.members → entry ≠ other →
      Name.escaped entry.label ≠ Name.escaped other.label := by
  intro h
  exact h [mirror] ⟨[mirror]⟩ mirror (.member selfField) (.member ownField) link_mirror
    (List.mem_singleton_self _) (by decide) (by decide) (by decide) rfl

end MessageDump
