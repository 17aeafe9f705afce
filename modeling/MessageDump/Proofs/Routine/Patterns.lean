import MessageDump.Proofs.Name.Casing
import MessageDump.Proofs.Routine.Coverage
/-! # The patterns of the arms

An arm is for one variant of the enum of a oneof, which it names by a path: the
module of the message, the enum, the variant.  Each part is made from a name by a
conversion that is not injective, so that two alternatives may be given one path.
This module says when they are.  A path can be taken apart again, so that equal
paths have equal parts (`Alternative.path_eq_path_iff`), and what linking knows
about names then leaves three ways to come by equal parts
(`Schema.path_eq_path_cases`): the names of two messages that are the same but for
underscores and the case of letters, the names of two oneofs or of two fields that
do not both begin with a lower-case letter, or a field whose JSON name is not the
usual one.
-/
namespace MessageDump

open Source (Context Step)

/-- A field is named as usual if its name begins with a lower-case letter and its
JSON name is the camel case of it. -/
def Field.IsUsual (field : Field) : Prop :=
  Name.beginsLower field.name = true ∧ field.jsonName = Name.camel field.name

/-- An alternative of a oneof of a message. -/
structure Alternative where
  message : Message
  oneof : Oneof
  field : Field
  deriving DecidableEq

namespace Alternative

/-- An alternative belongs to a schema if its parts are declared there. -/
structure In (schema : Schema) (alternative : Alternative) : Prop where
  message_mem : alternative.message ∈ schema.messages
  oneof_mem : alternative.oneof ∈ alternative.message.oneofs
  field_mem : alternative.field ∈ alternative.message.alternatives alternative.oneof

/-- The enum that holds an alternative. -/
def enumPath (alternative : Alternative) : String :=
  alternative.oneof.enumPath alternative.message

/-- The variant that an alternative is, as the pattern of its arm names it. -/
def path (alternative : Alternative) : String :=
  alternative.enumPath ++ "::" ++ alternative.field.variant

/-- The arm of an alternative, with anything done in it, opens with its path. -/
theorem opening_eq_path (ctx : Context) (alternative : Alternative) (body : List Step) :
    (⟨alternative.field, body⟩ : Arm).opening ctx alternative.message alternative.oneof =
      alternative.path ++ "(" ++ ctx.locals.value ++ ") => \x7b" := rfl

/-- The names of two messages clash if they are the same but for underscores and
the case of letters, and not both are in Pascal case without acronyms. -/
def ModulesClash (a b : Alternative) : Prop :=
  a.message ≠ b.message ∧ Name.folded a.message.name = Name.folded b.message.name ∧
    ¬ (Name.IsPascal a.message.name ∧ Name.IsPascal b.message.name)

/-- The names of two oneofs of a message clash only if one of them does not begin
with a lower-case letter. -/
def EnumsClash (a b : Alternative) : Prop :=
  a.message = b.message ∧ a.oneof ≠ b.oneof ∧
    ¬ (Name.beginsLower a.oneof.name = true ∧ Name.beginsLower b.oneof.name = true)

/-- The names of two alternatives of a oneof clash only if one of the two is not
named as usual. -/
def VariantsClash (a b : Alternative) : Prop :=
  a.message = b.message ∧ a.oneof = b.oneof ∧ a.field ≠ b.field ∧
    ¬ (a.field.IsUsual ∧ b.field.IsUsual)

end Alternative

/-! ## Paths and their parts -/

/-- A path is cut at its first separator. -/
theorem append_colons_inj {a a' b b' : String} (h : ':' ∉ a.toList) (h' : ':' ∉ a'.toList) :
    a ++ "::" ++ b = a' ++ "::" ++ b' ↔ a = a' ∧ b = b' := by
  have hchars : ∀ x y : String, (x ++ "::" ++ y).toList = x.toList ++ ':' :: ':' :: y.toList := by
    intro x y
    simp
  rw [← String.toList_inj, hchars, hchars, Text.append_sep_inj h h', List.cons.injEq,
    String.toList_inj, String.toList_inj]
  exact and_congr_right fun _ => and_iff_right rfl

theorem Name.colon_not_mem_escaped_snake {name : String} (h : Name.isIdentifier name = true) :
    ':' ∉ (Name.escaped (Name.snake name)).toList :=
  Name.not_mem_escaped (Name.isIdentifier_snake h) (by decide) (by decide)

theorem Name.colon_not_mem_pascal {name : String} (h : Name.isIdentifier name = true) :
    ':' ∉ (Name.pascal name).toList :=
  Name.not_mem_pascal h (by decide)

section Linked
variable {messages : List Message} {schema : Schema} {a b : Alternative}

theorem Alternative.In.wellFormed (ha : a.In schema) (hlink : Schema.link messages = .ok schema) :
    a.message.WellFormed (schema.messages.map (·.name)) :=
  Schema.wellFormed_of_link_eq_ok hlink ha.message_mem

theorem Alternative.In.field_mem_fields (ha : a.In schema) : a.field ∈ a.message.fields :=
  (Message.mem_alternatives.mp ha.field_mem).1

/-- An enum is determined by the module and its own name. -/
theorem Alternative.enumPath_eq_enumPath_iff (hlink : Schema.link messages = .ok schema)
    (ha : a.In schema) (hb : b.In schema) :
    a.enumPath = b.enumPath ↔
      Name.escaped (Name.snake a.message.name) = Name.escaped (Name.snake b.message.name) ∧
      Name.pascal a.oneof.name = Name.pascal b.oneof.name :=
  append_colons_inj
    (Name.colon_not_mem_escaped_snake (ha.wellFormed hlink).name_identifier)
    (Name.colon_not_mem_escaped_snake (hb.wellFormed hlink).name_identifier)

/-- A path is determined by the enum and the variant. -/
theorem Alternative.path_eq_path_iff (hlink : Schema.link messages = .ok schema)
    (ha : a.In schema) (hb : b.In schema) :
    a.path = b.path ↔ a.enumPath = b.enumPath ∧ a.field.variant = b.field.variant := by
  have hoa := (ha.wellFormed hlink).oneof_identifier a.oneof ha.oneof_mem
  have hob := (hb.wellFormed hlink).oneof_identifier b.oneof hb.oneof_mem
  rw [Alternative.enumPath_eq_enumPath_iff hlink ha hb, and_assoc,
    ← append_colons_inj (Name.colon_not_mem_pascal hoa) (Name.colon_not_mem_pascal hob),
    ← append_colons_inj
      (Name.colon_not_mem_escaped_snake (ha.wellFormed hlink).name_identifier)
      (Name.colon_not_mem_escaped_snake (hb.wellFormed hlink).name_identifier),
    ← String.append_assoc, ← String.append_assoc, ← String.append_assoc, ← String.append_assoc]
  rfl

/-- The oneofs of a message have different keys, whatever the JSON names of fields. -/
theorem Oneof.eq_of_camel_eq {names : List String} {message : Message} {first second : Oneof}
    (hwell : message.WellFormed names) (hfirst : first ∈ message.oneofs)
    (hsecond : second ∈ message.oneofs) (heq : Name.camel first.name = Name.camel second.name) :
    first = second :=
  List.inj_on_of_nodup_map (List.nodup_append.mp hwell.json_nodup).2.1 hfirst hsecond heq

theorem Field.eq_of_jsonName_eq {names : List String} {message : Message} {first second : Field}
    (hwell : message.WellFormed names) (hfirst : first ∈ message.fields)
    (hsecond : second ∈ message.fields) (heq : first.jsonName = second.jsonName) :
    first = second :=
  List.inj_on_of_nodup_map (List.nodup_append.mp hwell.json_nodup).1 hfirst hsecond heq

/-- Alternatives in one enum are in one oneof, or names clash. -/
theorem Alternative.enumPath_cases (hlink : Schema.link messages = .ok schema)
    (ha : a.In schema) (hb : b.In schema) (heq : a.enumPath = b.enumPath) :
    (a.message = b.message ∧ a.oneof = b.oneof) ∨ a.EnumsClash b ∨ a.ModulesClash b := by
  have hwella := ha.wellFormed hlink
  have hwellb := hb.wellFormed hlink
  obtain ⟨hmodule, henum⟩ := (Alternative.enumPath_eq_enumPath_iff hlink ha hb).mp heq
  by_cases hmessage : a.message = b.message
  · by_cases honeof : a.oneof = b.oneof
    · exact Or.inl ⟨hmessage, honeof⟩
    · refine Or.inr (Or.inl ⟨hmessage, honeof, ?_⟩)
      rintro ⟨hlower, hlower'⟩
      have hmem : b.oneof ∈ a.message.oneofs := hmessage ▸ hb.oneof_mem
      have hcamel := Name.camel_eq_of_pascal_eq (hwella.oneof_identifier _ ha.oneof_mem)
        (hwellb.oneof_identifier _ hb.oneof_mem) hlower hlower' henum
      exact honeof (Oneof.eq_of_camel_eq hwella ha.oneof_mem hmem hcamel)
  · have hid := hwella.name_identifier
    have hid' := hwellb.name_identifier
    refine Or.inr (Or.inr ⟨hmessage, Name.folded_eq_of_escaped_snake_eq hid hid' hmodule, ?_⟩)
    rintro ⟨hpascal, hpascal'⟩
    have hname := Name.eq_of_escaped_snake_eq hid hid' hpascal hpascal' hmodule
    obtain ⟨hlinkable, rfl⟩ := Schema.link_eq_ok_iff.mp hlink
    exact hmessage (List.inj_on_of_nodup_map hlinkable.names_nodup ha.message_mem hb.message_mem hname)

/-- Alternatives of one oneof with one variant are the same, or names clash. -/
theorem Alternative.variantsClash_of_variant_eq (hlink : Schema.link messages = .ok schema)
    (ha : a.In schema) (hb : b.In schema) (hne : a ≠ b) (hmessage : a.message = b.message)
    (honeof : a.oneof = b.oneof) (heq : a.field.variant = b.field.variant) :
    a.VariantsClash b := by
  have hwella := ha.wellFormed hlink
  have hmem : b.field ∈ a.message.fields := hmessage ▸ hb.field_mem_fields
  have hfield : a.field ≠ b.field := by
    intro hfield
    cases a
    cases b
    simp_all
  refine ⟨hmessage, honeof, hfield, ?_⟩
  rintro ⟨⟨hlower, hjson⟩, hlower', hjson'⟩
  have hcamel := Name.camel_eq_of_pascal_eq (hwella.field_identifier _ ha.field_mem_fields)
    (hwella.field_identifier _ hmem) hlower hlower' heq
  apply hfield
  apply Field.eq_of_jsonName_eq hwella ha.field_mem_fields hmem
  rw [hjson, hjson', hcamel]

end Linked

/-- **When two alternatives of a linked schema have one pattern.**  They do exactly
if the modules, the enums and the variants that are made of their names agree.
The enum is shared only by the alternatives of one oneof unless the names of two
oneofs or of two messages clash, and so is the whole pattern by no two alternatives
unless there is such a clash or one of the names of two fields. -/
theorem Schema.path_eq_path_cases {messages : List Message} {schema : Schema} {a b : Alternative}
    (hlink : Schema.link messages = .ok schema) (ha : a.In schema) (hb : b.In schema)
    (hne : a ≠ b) :
    (∀ (ctx : Context) (body body' : List Step),
      (⟨a.field, body⟩ : Arm).opening ctx a.message a.oneof =
        (⟨b.field, body'⟩ : Arm).opening ctx b.message b.oneof ↔ a.path = b.path) ∧
    (a.path = b.path ↔
      Name.escaped (Name.snake a.message.name) = Name.escaped (Name.snake b.message.name) ∧
      Name.pascal a.oneof.name = Name.pascal b.oneof.name ∧
      Name.pascal a.field.name = Name.pascal b.field.name) ∧
    (a.enumPath = b.enumPath →
      (a.message = b.message ∧ a.oneof = b.oneof) ∨ a.EnumsClash b ∨ a.ModulesClash b) ∧
    (a.path = b.path → a.VariantsClash b ∨ a.EnumsClash b ∨ a.ModulesClash b) := by
  refine ⟨fun ctx body body' => ?_, ?_, Alternative.enumPath_cases hlink ha hb, fun hpath => ?_⟩
  · rw [Alternative.opening_eq_path, Alternative.opening_eq_path, String.append_left_inj,
      String.append_left_inj, String.append_left_inj]
  · rw [Alternative.path_eq_path_iff hlink ha hb, Alternative.enumPath_eq_enumPath_iff hlink ha hb,
      and_assoc]
    rfl
  · obtain ⟨henum, hvariant⟩ := (Alternative.path_eq_path_iff hlink ha hb).mp hpath
    rcases Alternative.enumPath_cases hlink ha hb henum with ⟨hmessage, honeof⟩ | hclash
    · exact Or.inl
        (Alternative.variantsClash_of_variant_eq hlink ha hb hne hmessage honeof hvariant)
    · exact Or.inr hclash

namespace Sample

/-- The two alternatives of `post`. -/
def postText : Alternative :=
  ⟨post, ⟨"rich_body"⟩, { Field.ofName "text" (.scalar .string) with oneof := some "rich_body" }⟩

def postPhoto : Alternative :=
  ⟨post, ⟨"rich_body"⟩, { Field.ofName "photo" (.message "Photo") with oneof := some "rich_body" }⟩

theorem postText_in : postText.In ⟨[photo, post]⟩ := ⟨by decide, by decide, by decide⟩

theorem postPhoto_in : postPhoto.In ⟨[photo, post]⟩ := ⟨by decide, by decide, by decide⟩

/-- A message with a oneof whose alternatives have names that only differ in the
case of the first letter. -/
def note : Message where
  name := "Note"
  fields :=
    [{ Field.ofName "text" (.scalar .string) with oneof := some "body" },
     { Field.ofName "Text" (.scalar .string) with oneof := some "body" }]
  oneofs := [⟨"body"⟩]

/-- The alternatives of `note`. -/
def noteText : Alternative :=
  ⟨note, ⟨"body"⟩, { Field.ofName "text" (.scalar .string) with oneof := some "body" }⟩

def noteCapitalText : Alternative :=
  ⟨note, ⟨"body"⟩, { Field.ofName "Text" (.scalar .string) with oneof := some "body" }⟩

theorem link_note : Schema.link [note] = .ok ⟨[note]⟩ := by rfl

theorem noteText_in : noteText.In ⟨[note]⟩ := ⟨by decide, by decide, by decide⟩

theorem noteCapitalText_in : noteCapitalText.In ⟨[note]⟩ := ⟨by decide, by decide, by decide⟩

end Sample

/-- The alternatives of `post` have different patterns, those of `note` do not. -/
theorem Sample.patterns_of_post_and_note :
    (Schema.link [photo, post] = .ok ⟨[photo, post]⟩ ∧ postText.In ⟨[photo, post]⟩ ∧
      postPhoto.In ⟨[photo, post]⟩ ∧ postText ≠ postPhoto ∧ postText.path ≠ postPhoto.path) ∧
    Schema.link [note] = .ok ⟨[note]⟩ ∧ noteText.In ⟨[note]⟩ ∧ noteCapitalText.In ⟨[note]⟩ ∧
      noteText ≠ noteCapitalText ∧ noteText.path = noteCapitalText.path ∧
      (noteText.VariantsClash noteCapitalText ∨ noteText.EnumsClash noteCapitalText ∨
        noteText.ModulesClash noteCapitalText) := by
  have hne : postText ≠ postPhoto := by decide
  have hne' : noteText ≠ noteCapitalText := by decide
  obtain ⟨_, hpost, _, _⟩ := Schema.path_eq_path_cases link_eq_ok postText_in postPhoto_in hne
  obtain ⟨_, hnote, _, hclash⟩ :=
    Schema.path_eq_path_cases link_note noteText_in noteCapitalText_in hne'
  have hpath := hnote.mpr (by decide)
  exact ⟨⟨link_eq_ok, postText_in, postPhoto_in, hne, fun heq => absurd (hpost.mp heq) (by decide)⟩,
    link_note, noteText_in, noteCapitalText_in, hne', hpath, hclash hpath⟩

/-- That linking keeps the names and the JSON names of alternatives apart does not
keep their patterns apart. -/
theorem Sample.not_path_ne :
    ¬ ∀ (messages : List Message) (schema : Schema) (a b : Alternative),
      Schema.link messages = .ok schema → a.In schema → b.In schema → a ≠ b → a.path ≠ b.path := by
  intro h
  exact h [note] ⟨[note]⟩ noteText noteCapitalText link_note noteText_in noteCapitalText_in
    (by decide) (by decide)

end MessageDump
