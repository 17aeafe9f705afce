import MessageDump.Proofs.Name.Legality
import MessageDump.Proofs.Routine.Patterns
/-! # Legal patterns

The pattern of an arm names an enum and one of its variants, each the Pascal case
of a name that linking has found to be an identifier.  The module in front of them
is escaped where it is a keyword; the enum and the variant are not.  They are legal
names all the same unless the name they come from is `self`, or begins with
underscores that no letter follows (`Schema.pattern_legal_iff`).
-/
namespace MessageDump

open Source (Context Step)

section Linked
variable {messages : List Message} {schema : Schema} {a : Alternative}

theorem Alternative.In.isIdentifier_oneof (ha : a.In schema)
    (hlink : Schema.link messages = .ok schema) : Name.isIdentifier a.oneof.name = true :=
  (ha.wellFormed hlink).oneof_identifier a.oneof ha.oneof_mem

theorem Alternative.In.isIdentifier_field (ha : a.In schema)
    (hlink : Schema.link messages = .ok schema) : Name.isIdentifier a.field.name = true :=
  (ha.wellFormed hlink).field_identifier a.field ha.field_mem_fields

end Linked

/-- **When the names in a pattern are legal.**  The enum is an identifier exactly if
the name of the oneof has a letter behind the underscores it begins with, and a
keyword exactly if that name is `self` or `Self` between underscores; and so is the
variant by the name of the alternative. -/
theorem Schema.pattern_legal_iff {messages : List Message} {schema : Schema} {a : Alternative}
    (hlink : Schema.link messages = .ok schema) (ha : a.In schema) :
    (∀ (ctx : Context) (body : List Step),
      (⟨a.field, body⟩ : Arm).opening ctx a.message a.oneof =
        Name.escaped (Name.snake a.message.name) ++ "::" ++ Name.pascal a.oneof.name ++ "::" ++
          a.field.variant ++ "(" ++ ctx.locals.value ++ ") => \x7b") ∧
    ((Name.isIdentifier (Name.pascal a.oneof.name) = true ↔
        Name.leadsToLetter a.oneof.name = true) ∧
      (Name.isKeyword (Name.pascal a.oneof.name) = true ↔ Name.IsSelf a.oneof.name) ∧
      (Name.IsLegal (Name.pascal a.oneof.name) ↔
        Name.leadsToLetter a.oneof.name = true ∧ ¬ Name.IsSelf a.oneof.name)) ∧
    (Name.isIdentifier a.field.variant = true ↔ Name.leadsToLetter a.field.name = true) ∧
    (Name.isKeyword a.field.variant = true ↔ Name.IsSelf a.field.name) ∧
    (Name.IsLegal a.field.variant ↔
      Name.leadsToLetter a.field.name = true ∧ ¬ Name.IsSelf a.field.name) := by
  have honeof := ha.isIdentifier_oneof hlink
  have hfield := ha.isIdentifier_field hlink
  refine ⟨fun ctx body => rfl, ⟨?_, ?_, ?_⟩, ?_, ?_, ?_⟩
  · exact Name.isIdentifier_pascal_iff honeof
  · exact Name.isKeyword_pascal_iff honeof
  · exact Name.isLegal_pascal_iff honeof
  · exact Name.isIdentifier_pascal_iff hfield
  · exact Name.isKeyword_pascal_iff hfield
  · exact Name.isLegal_pascal_iff hfield

namespace Sample

/-- A message that is held by itself or by a user. -/
def lock : Message where
  name := "Lock"
  fields :=
    [{ Field.ofName "self" (.scalar .bool) with oneof := some "holder" },
     { Field.ofName "user" (.scalar .string) with oneof := some "holder" }]
  oneofs := [⟨"holder"⟩]

/-- The alternatives of `lock`. -/
def lockSelf : Alternative :=
  ⟨lock, ⟨"holder"⟩, { Field.ofName "self" (.scalar .bool) with oneof := some "holder" }⟩

def lockUser : Alternative :=
  ⟨lock, ⟨"holder"⟩, { Field.ofName "user" (.scalar .string) with oneof := some "holder" }⟩

theorem link_lock : Schema.link [lock] = .ok ⟨[lock]⟩ := by rfl

theorem lockSelf_in : lockSelf.In ⟨[lock]⟩ := ⟨by decide, by decide, by decide⟩

theorem lockUser_in : lockUser.In ⟨[lock]⟩ := ⟨by decide, by decide, by decide⟩

end Sample

/-- In `lock` the enum and the variant of `user` are legal, and that of `self` is an
identifier but a keyword. -/
theorem Sample.patterns_of_lock :
    Schema.link [lock] = .ok ⟨[lock]⟩ ∧ lockUser.In ⟨[lock]⟩ ∧ lockSelf.In ⟨[lock]⟩ ∧
    Name.IsLegal (Name.pascal "holder") ∧ Name.IsLegal lockUser.field.variant ∧
    Name.isIdentifier lockSelf.field.variant = true ∧
    Name.isKeyword lockSelf.field.variant = true := by
  obtain ⟨_, ⟨hid, hkeyword, _⟩, hid', hkeyword', _⟩ :=
    Schema.pattern_legal_iff link_lock lockUser_in
  obtain ⟨_, _, hselfId, hself, _⟩ := Schema.pattern_legal_iff link_lock lockSelf_in
  refine ⟨link_lock, lockUser_in, lockSelf_in, ⟨hid.mpr (by decide), by decide⟩,
    ⟨hid'.mpr (by decide), by decide⟩, hselfId.mpr (by decide), hself.mpr ?_⟩
  exact ⟨0, 0, "self", Or.inl rfl, rfl⟩

/-- That the names of a linked message are identifiers does not make legal names of
its variants. -/
theorem Sample.not_variant_legal :
    ¬ ∀ (messages : List Message) (schema : Schema) (a : Alternative),
      Schema.link messages = .ok schema → a.In schema →
      Name.IsLegal (Name.pascal a.oneof.name) ∧ Name.IsLegal a.field.variant := by
  intro h
  obtain ⟨_, _, hkeyword⟩ := h [lock] ⟨[lock]⟩ lockSelf link_lock lockSelf_in
  exact absurd hkeyword (by decide)

end MessageDump
