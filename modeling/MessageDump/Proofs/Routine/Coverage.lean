import Mathlib.Data.List.Perm.Basic
import MessageDump.Proofs.Routine.Statements
import MessageDump.Proofs.Schema.Linking
/-! # Every field is handled once

A routine handles a message in blocks: one for each field on its own, then one
for each oneof, with an arm for each alternative.  What such a block reads and
writes is told by `Entry.Emits`.  That no field is missed and none handled twice
does not follow from this alone, since a field might belong to an undeclared
oneof, or two oneofs might share their alternatives.  Linking excludes both, so
that cutting the fields of a linked message by the oneof they belong to is a
rearrangement of them (`Message.subjects_perm`).
`Message.covers_of_generate_eq_ok` puts this together for both routines of a
message.
-/
namespace MessageDump

open Source (Context Operand Step)

/-! ## Cutting a list by a key -/

/-- Collecting, for one key after the other, the items with that key gives every
item once, if no key is repeated and every item has one of the keys. -/
theorem perm_flatMap_filter_eq {α β : Type} [DecidableEq β] {key : α → β} {keys : List β}
    {items : List α} (hkeys : keys.Nodup) (hmem : ∀ item ∈ items, key item ∈ keys) :
    (keys.flatMap fun k => items.filter fun item => key item = k).Perm items := by
  induction keys generalizing items with
  | nil =>
    have hitems : items = [] := List.eq_nil_iff_forall_not_mem.mpr fun item hitem =>
      List.not_mem_nil (hmem item hitem)
    rw [hitems, List.flatMap_nil]
  | cons k rest ih =>
    obtain ⟨hk, hrest⟩ := List.nodup_cons.mp hkeys
    have hkeep : ∀ item ∈ items.filter fun item => !decide (key item = k), key item ∈ rest := by
      intro item hitem
      obtain ⟨hitem, hne⟩ := List.mem_filter.mp hitem
      exact (List.mem_cons.mp (hmem item hitem)).resolve_left (by simpa using hne)
    have hothers := ih hrest hkeep
    -- the items of another key are not affected by leaving out those of `k`
    have hsame : ∀ k' ∈ rest, (items.filter fun item => !decide (key item = k)).filter
        (fun item => key item = k') = items.filter fun item => key item = k' := by
      intro k' hk'
      have hne : k' ≠ k := fun he => hk (he ▸ hk')
      rw [List.filter_filter]
      refine List.filter_congr fun item _ => ?_
      by_cases h : key item = k' <;> simp [h, hne]
    rw [List.flatMap_congr hsame] at hothers
    rw [List.flatMap_cons]
    exact (hothers.append_left _).trans (List.filter_append_perm _ _)

/-! ## The subjects of a linked message -/

section Linked
variable {names : List String} {message : Message}

/-- **The fields that the routines handle are the fields of the message**,
rearranged. -/
theorem Message.subjects_perm (h : message.WellFormed names) :
    message.subjects.Perm message.fields := by
  -- A field on its own has the key `none`, an alternative the name of its oneof.
  have hkeys : (none :: message.oneofs.map fun oneof => some oneof.name).Nodup := by
    have hsome := h.oneof_nodup.map fun _ _ => Option.some.inj
    rw [List.map_map] at hsome
    exact List.nodup_cons.mpr ⟨by simp, hsome⟩
  have hmem : ∀ field ∈ message.fields,
      field.oneof ∈ none :: message.oneofs.map fun oneof => some oneof.name := by
    intro field hfield
    cases hone : field.oneof with
    | none => exact List.mem_cons_self
    | some name =>
      obtain ⟨oneof, honeof, rfl⟩ := h.member_declared field hfield name hone
      exact List.mem_cons_of_mem _ (List.mem_map_of_mem honeof)
  have hperm := perm_flatMap_filter_eq hkeys hmem
  rw [List.flatMap_cons, List.flatMap_map] at hperm
  have hnone : (message.fields.filter fun field => field.oneof = none) = message.standalone :=
    List.filter_congr fun field _ => by cases field.oneof <;> simp
  rw [hnone] at hperm
  exact hperm

theorem Message.fields_nodup (h : message.WellFormed names) : message.fields.Nodup :=
  List.Nodup.of_map _ h.field_nodup

end Linked

/-! ## Blocks and the entries they are for -/

/-- A block is for an entry: it is kept as the block of that entry, and the fields in it
are those of the entry. -/
structure Block.IsFor (message : Message) (entry : Entry) (block : Block) : Prop where
  entry_eq : block.entry = entry
  fields_eq : block.fields = entry.fields message

/-- A routine covers a message if its blocks are for the entries of the message, fields
on their own before oneofs, if their source is what is written for these entries, and if
every field is the subject of one block or one arm and of no other. -/
structure Routine.Covers (ctx : Context) (message : Message) (handling : Handling)
    (routine : Routine) : Prop where
  blocks_for : List.Forall₂ (Block.IsFor message)
    (message.standalone.map .member ++ message.oneofs.map .choice) routine.blocks
  emits : List.Forall₂ (Entry.Emits ctx message handling)
    (message.standalone.map .member ++ message.oneofs.map .choice)
    (routine.blocks.map (Block.steps ctx message))
  /-- The body of the routine is the source of the blocks, with nothing else than what
  stands around all of them. -/
  written : routine.steps ctx message =
    .line routine.summary :: .enter routine.signature ::
      ((if routine.blocks.isEmpty then handling.idle
        else handling.first ++
          .nest (routine.blocks.map fun block => .nest (block.steps ctx message)) ::
          handling.last) ++ [.leave "\x7d"])
  fields_perm : (routine.blocks.flatMap Block.fields).Perm message.fields
  field_once : ∀ field ∈ message.fields, (routine.blocks.flatMap Block.fields).count field = 1
  /-- No block is for an alternative alone. -/
  member_standalone : ∀ field guarded inside, .member field guarded inside ∈ routine.blocks →
    field.oneof = none

section Blocks
variable {names : List String} {ctx : Context} {message : Message}
variable {entries : List Entry} {blocks : List Block}

theorem flatMap_fields_of_isFor (h : List.Forall₂ (Block.IsFor message) entries blocks) :
    blocks.flatMap Block.fields = entries.flatMap (Entry.fields message) := by
  induction h with
  | nil => rfl
  | cons hblock _ ih => rw [List.flatMap_cons, List.flatMap_cons, hblock.fields_eq, ih]

theorem Message.oneof_of_member_mem_entries {field : Field} (h : .member field ∈ message.entries) :
    field.oneof = none := by
  rcases List.mem_append.mp h with h | h
  · obtain ⟨other, hother, heq⟩ := List.mem_map.mp h
    rw [← Entry.member.inj heq]
    exact (Message.mem_standalone.mp hother).2
  · obtain ⟨_, _, heq⟩ := List.mem_map.mp h
    cases heq

/-- In a linked schema it is enough to know the block that is made for each entry. -/
theorem Routine.covers_of_blocks {handling : Handling} {routine : Routine}
    (hwell : message.WellFormed names)
    (hblocks : List.Forall₂ (fun entry block => block.IsFor message entry ∧
      entry.Emits ctx message handling (block.steps ctx message)) message.entries routine.blocks)
    (haround : routine.before = handling.first ∧ routine.after = handling.last ∧
      routine.idle = handling.idle) : routine.Covers ctx message handling := by
  have hfor : List.Forall₂ (Block.IsFor message) message.entries routine.blocks :=
    hblocks.imp fun _ _ => And.left
  have hperm : (routine.blocks.flatMap Block.fields).Perm message.fields := by
    rw [flatMap_fields_of_isFor hfor, Message.entries_flatMap_fields]
    exact Message.subjects_perm hwell
  refine ⟨hfor, ?emits, ?written, hperm, ?once, ?standalone⟩
  case written =>
    obtain ⟨hfirst, hlast, hidle⟩ := haround
    rw [← hfirst, ← hlast, ← hidle]
    rfl
  case emits => exact List.forall₂_map_right_iff.mpr (hblocks.imp fun _ _ => And.right)
  case once =>
    intro field hfield
    rw [hperm.count_eq]
    exact List.count_eq_one_of_mem (Message.fields_nodup hwell) hfield
  case standalone =>
    intro field guarded inside hblock
    obtain ⟨entry, hmem, hentry⟩ := exists_mem_of_forall₂ hfor hblock
    obtain rfl : Entry.member field = entry := hentry.entry_eq
    exact Message.oneof_of_member_mem_entries hmem

end Blocks

/-! ## Both routines cover their message -/

section Generated
variable {names : List String} {ctx : Context} {message : Message} {entry : Entry} {made : Block}
variable {routine : Routine}

theorem Json.isFor_of_block_eq_ok (h : Json.block ctx message entry = .ok made) :
    made.IsFor message entry := by
  cases entry with
  | member field =>
    obtain ⟨_, _, _, _, rfl⟩ := Json.memberBlock_eq_ok_iff.mp h
    exact ⟨rfl, rfl⟩
  | choice oneof =>
    obtain ⟨arms, harms, rfl⟩ := Json.choiceBlock_eq_ok_iff.mp h
    exact ⟨rfl, Oneof.map_alternative_of_arms_eq_ok harms⟩

theorem Literal.isFor_of_block_eq_ok (h : Literal.block ctx message entry = .ok made) :
    made.IsFor message entry := by
  cases entry with
  | member field =>
    obtain ⟨_, _, _, _, rfl⟩ := Literal.memberBlock_eq_ok_iff.mp h
    exact ⟨rfl, rfl⟩
  | choice oneof =>
    obtain ⟨arms, harms, rfl⟩ := Literal.choiceBlock_eq_ok_iff.mp h
    exact ⟨rfl, Oneof.map_alternative_of_arms_eq_ok harms⟩

theorem Json.around_of_routine_eq_ok (h : Json.routine ctx message = .ok routine) :
    routine.before = (Json.handling ctx).first ∧ routine.after = (Json.handling ctx).last ∧
      routine.idle = (Json.handling ctx).idle := by
  obtain ⟨_, _, rfl⟩ := Json.routine_eq_ok_iff.mp h
  exact ⟨rfl, rfl, rfl⟩

theorem Literal.around_of_routine_eq_ok (h : Literal.routine ctx message = .ok routine) :
    routine.before = (Literal.handling ctx).first ∧ routine.after = (Literal.handling ctx).last ∧
      routine.idle = (Literal.handling ctx).idle := by
  obtain ⟨_, _, rfl⟩ := Literal.routine_eq_ok_iff.mp h
  exact ⟨rfl, rfl, rfl⟩

theorem Json.covers_of_routine_eq_ok (hwell : message.WellFormed names)
    (h : Json.routine ctx message = .ok routine) :
    routine.Covers ctx message (Json.handling ctx) :=
  Routine.covers_of_blocks hwell
    ((Json.blocks_of_routine_eq_ok h).imp fun _ _ hmade =>
      ⟨Json.isFor_of_block_eq_ok hmade, Json.emits_of_block_eq_ok hmade⟩)
    (Json.around_of_routine_eq_ok h)

theorem Literal.covers_of_routine_eq_ok (hwell : message.WellFormed names)
    (h : Literal.routine ctx message = .ok routine) :
    routine.Covers ctx message (Literal.handling ctx) :=
  Routine.covers_of_blocks hwell
    ((Literal.blocks_of_routine_eq_ok h).imp fun _ _ hmade =>
      ⟨Literal.isFor_of_block_eq_ok hmade, Literal.emits_of_block_eq_ok hmade⟩)
    (Literal.around_of_routine_eq_ok h)

end Generated

/-- **Every field of a linked message is handled exactly once by each routine.**
Cutting the fields into those on their own and the alternatives of the oneofs
rearranges them, and both routines of a generated message have their blocks and
arms in that order.  What stands in a block or an arm reads the member of its field
or the name that is bound to the value, and writes it under the names of the field. -/
theorem Message.covers_of_generate_eq_ok {messages : List Message} {schema : Schema}
    {message : Message} {settings : Settings} {source : String}
    (hlink : Schema.link messages = .ok schema) (hmem : message ∈ schema.messages)
    (hsource : message.generate settings = .ok source) :
    (message.standalone ++ message.oneofs.flatMap message.alternatives).Perm message.fields ∧
    ∃ json literal : Routine,
      Json.routine { settings } message = .ok json ∧
      Literal.routine { settings } message = .ok literal ∧
      Source.textOf [.enter ("impl " ++ message.name ++ " \x7b"),
        .nest (json.steps { settings } message), .blank,
        .nest (literal.steps { settings } message), .leave "\x7d"] = source ∧
      json.Covers { settings } message (Json.handling { settings }) ∧
      literal.Covers { settings } message (Literal.handling { settings }) := by
  have hwell := Schema.wellFormed_of_link_eq_ok hlink hmem
  obtain ⟨json, literal, hjson, hliteral, htext⟩ := Message.generate_eq_ok_iff.mp hsource
  exact ⟨Message.subjects_perm hwell, json, literal, hjson, hliteral, htext,
    Json.covers_of_routine_eq_ok hwell hjson, Literal.covers_of_routine_eq_ok hwell hliteral⟩

/-- The alternatives of `post` are handled after its other fields. -/
theorem Sample.post_covered :
    ∃ source, Schema.link [photo, post] = .ok ⟨[photo, post]⟩ ∧ post ∈ [photo, post] ∧
      post.generate {} = .ok source ∧
      (post.standalone ++ post.oneofs.flatMap post.alternatives).Perm post.fields ∧
      ∃ json literal : Routine,
        Json.routine {} post = .ok json ∧ Literal.routine {} post = .ok literal ∧
        Source.textOf [.enter "impl Post \x7b", .nest (json.steps {} post), .blank,
          .nest (literal.steps {} post), .leave "\x7d"] = source ∧
        json.Covers {} post (Json.handling {}) ∧ literal.Covers {} post (Literal.handling {}) := by
  obtain ⟨source, hsource⟩ :=
    faultOf?_eq_none_iff.mp (show faultOf? (post.generate {}) = none from rfl)
  have hmem : post ∈ [photo, post] := by simp
  exact ⟨source, link_eq_ok, hmem, hsource,
    Message.covers_of_generate_eq_ok link_eq_ok hmem hsource⟩

end MessageDump
