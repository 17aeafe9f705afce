import MessageDump.Proofs.Routine.Statements
import MessageDump.Proofs.Schema.Linking
/-! # Keys and labels of the entries

What the generated routines write for an entry carries a name: the JSON routine
inserts it into its map under a key, an arm puts the name of its case beside the
value, and the literal routine puts a label before it.  Here each of these names
is read off the text of the emitted lines (`Json.InsertsUnder`, `Json.NamesCase`,
`Literal.LabelledAs`) and found to differ from the others of its sort, so that
nothing a routine writes replaces something else (`Message.keys_nodup`).

The JSON names of fields are free texts, so their keys are different only
because linking compares them, with each other and with the keys of oneofs.
-/
namespace MessageDump

open Source (Context Operand Step)

/-- The key of an entry in the JSON output. -/
def Entry.jsonKey : Entry → String
  | member field => field.jsonName
  | choice oneof => oneof.jsonName

/-- The label of an entry in the literal dump. -/
def Entry.label : Entry → String
  | member field => field.name
  | choice oneof => oneof.name

/-- A block inserts into the map of the JSON routine once, under the given key.
The block of a oneof first makes the map that describes the value. -/
inductive Json.InsertsUnder (ctx : Context) (key : String) : Block → Prop
  | member {field : Field} {guarded : Bool} {value : String} :
      InsertsUnder ctx key
        (.member field guarded
          [.line (ctx.locals.fields ++ ".insert(" ++ Text.quote key ++ ".to_string(), " ++ value ++
            ");")])
  | choice {oneof : Oneof} {arms : List Arm} {value : String} :
      InsertsUnder ctx key
        (.choice oneof
          [.line ("let mut " ++ ctx.locals.entry ++ " = " ++ ctx.settings.jsonCrate ++
            "::Map::new();")]
          arms
          [.line (ctx.locals.fields ++ ".insert(" ++ Text.quote key ++ ".to_string(), " ++ value ++
            ");")])

/-- An arm of the JSON routine writes the given text as the case, beside a value. -/
def Json.NamesCase (ctx : Context) (case : String) (arm : Arm) : Prop :=
  ∃ value, arm.body =
    [.line (ctx.locals.entry ++ ".insert(\"case\".to_string(), " ++ ctx.settings.jsonCrate ++
      "::Value::String(" ++ Text.quote case ++ ".to_string()));"),
     .line (ctx.locals.entry ++ ".insert(\"value\".to_string(), " ++ value ++ ");")]

/-- All that a block of the literal routine writes is under the given label. -/
inductive Literal.LabelledAs (ctx : Context) (label : String) : Block → Prop
  | member {field : Field} {guarded : Bool} {kind : Kind} {value : String} {shown : List Step} :
      Shows ctx.settings ctx.locals.out ctx.locals.indent label "" kind value shown →
      LabelledAs ctx label (.member field guarded [.nest shown])
  | choice {oneof : Oneof} {arms : List Arm} :
      (∀ arm ∈ arms, ∃ wrapper kind value,
        Shows ctx.settings ctx.locals.out ctx.locals.indent label wrapper kind value arm.body) →
      LabelledAs ctx label (.choice oneof [] arms [])

/-! ## The names that are emitted -/

section Emitted
variable {ctx : Context} {message : Message} {entry : Entry} {made : Block}

theorem Message.map_jsonKey_entries :
    message.entries.map Entry.jsonKey =
      message.standalone.map (·.jsonName) ++ message.oneofs.map Oneof.jsonName := by
  rw [Message.entries, List.map_append, List.map_map, List.map_map]
  rfl

theorem Message.map_label_entries :
    message.entries.map Entry.label =
      message.standalone.map (·.name) ++ message.oneofs.map (·.name) := by
  rw [Message.entries, List.map_append, List.map_map, List.map_map]
  rfl

theorem Json.insertsUnder_of_block_eq_ok (h : Json.block ctx message entry = .ok made) :
    Json.InsertsUnder ctx entry.jsonKey made := by
  cases entry with
  | member field =>
    obtain ⟨_, _, _, _, rfl⟩ := Json.memberBlock_eq_ok_iff.mp h
    exact .member
  | choice oneof =>
    obtain ⟨_, _, rfl⟩ := Json.choiceBlock_eq_ok_iff.mp h
    exact .choice

theorem Json.namesCase_of_armBody_eq_ok {arm : Arm} {operand : Operand}
    (h : Json.armBody ctx message arm.alternative operand = .ok arm.body) :
    Json.NamesCase ctx arm.alternative.jsonName arm := by
  obtain ⟨_, value, _, _, hbody⟩ := Json.armBody_eq_ok_iff.mp h
  rw [Json.insertion_case, Json.insertion_value] at hbody
  exact ⟨value, hbody.symm⟩

theorem Literal.labelledAs_of_block_eq_ok (h : Literal.block ctx message entry = .ok made) :
    Literal.LabelledAs ctx entry.label made := by
  cases entry with
  | member field =>
    obtain ⟨_, _, hform, _, rfl⟩ := Literal.memberBlock_eq_ok_iff.mp h
    exact .member (Literal.shows_lines ctx _ _ _ (Literal.form_eq_ok_iff.mp hform).2)
  | choice oneof =>
    obtain ⟨arms, harms, rfl⟩ := Literal.choiceBlock_eq_ok_iff.mp h
    refine .choice fun arm harm => ?_
    obtain ⟨_, _, hform, _, hbody⟩ :=
      Literal.armBody_eq_ok_iff.mp (Oneof.body_of_arms_eq_ok harms harm)
    rw [← hbody]
    exact ⟨_, _, _, Literal.shows_lines ctx _ _ _ (Literal.form_eq_ok_iff.mp hform).2⟩

/-- The blocks of oneofs in a JSON routine are those of the oneofs' entries. -/
theorem Json.arms_of_choice_mem_blocks {routine : Routine}
    (hroutine : Json.routine ctx message = .ok routine) {oneof : Oneof} {before after : List Step}
    {arms : List Arm} (h : .choice oneof before arms after ∈ routine.blocks) :
    oneof.arms ctx message (Json.armBody ctx message) = .ok arms := by
  obtain ⟨entry, _, hentry⟩ := exists_mem_of_forall₂ (Json.blocks_of_routine_eq_ok hroutine) h
  cases entry with
  | member field =>
    obtain ⟨_, _, _, _, heq⟩ := Json.memberBlock_eq_ok_iff.mp hentry
    cases heq
  | choice other =>
    obtain ⟨arms, harms, heq⟩ := Json.choiceBlock_eq_ok_iff.mp hentry
    cases heq
    exact harms

end Emitted

/-! ## The names of a linked message differ -/

section Linked
variable {names : List String} {message : Message}

theorem Message.standalone_sublist : message.standalone.Sublist message.fields :=
  List.filter_sublist

theorem Message.alternatives_sublist {oneof : Oneof} :
    (message.alternatives oneof).Sublist message.fields :=
  List.filter_sublist

theorem Message.jsonKeys_nodup (h : message.WellFormed names) :
    (message.standalone.map (·.jsonName) ++ message.oneofs.map Oneof.jsonName).Nodup :=
  h.json_nodup.sublist ((Message.standalone_sublist.map _).append (List.Sublist.refl _))

theorem Message.cases_nodup (h : message.WellFormed names) {oneof : Oneof} :
    ((message.alternatives oneof).map (·.jsonName)).Nodup :=
  (List.nodup_append.mp h.json_nodup).1.sublist (Message.alternatives_sublist.map _)

theorem Message.labels_nodup (h : message.WellFormed names) :
    (message.standalone.map (·.name) ++ message.oneofs.map (·.name)).Nodup := by
  refine List.nodup_append.mpr
    ⟨h.field_nodup.sublist (Message.standalone_sublist.map _), h.oneof_nodup, ?_⟩
  intro a ha b hb
  obtain ⟨field, hfield, rfl⟩ := List.mem_map.mp ha
  obtain ⟨oneof, honeof, rfl⟩ := List.mem_map.mp hb
  exact h.field_ne_oneof field (Message.standalone_sublist.subset hfield) oneof honeof

end Linked

/-- **No entry that is emitted takes the place of another.**  The blocks of the
JSON routine insert under different keys, the arms of each oneof write different
cases, and the blocks of the literal routine have different labels, whatever
JSON names the fields have been given. -/
theorem Message.keys_nodup {messages : List Message} {schema : Schema} {message : Message}
    {ctx : Context} {json literal : Routine}
    (hlink : Schema.link messages = .ok schema) (hmem : message ∈ schema.messages)
    (hjson : Json.routine ctx message = .ok json)
    (hliteral : Literal.routine ctx message = .ok literal) :
    (List.Forall₂ (Json.InsertsUnder ctx)
        (message.standalone.map (·.jsonName) ++ message.oneofs.map Oneof.jsonName) json.blocks ∧
      (message.standalone.map (·.jsonName) ++ message.oneofs.map Oneof.jsonName).Nodup) ∧
    (∀ oneof before arms after, .choice oneof before arms after ∈ json.blocks →
      List.Forall₂ (Json.NamesCase ctx) ((message.alternatives oneof).map (·.jsonName)) arms) ∧
    (∀ oneof ∈ message.oneofs, ((message.alternatives oneof).map (·.jsonName)).Nodup) ∧
    (List.Forall₂ (Literal.LabelledAs ctx)
        (message.standalone.map (·.name) ++ message.oneofs.map (·.name)) literal.blocks ∧
      (message.standalone.map (·.name) ++ message.oneofs.map (·.name)).Nodup) := by
  have hwell := Schema.wellFormed_of_link_eq_ok hlink hmem
  refine ⟨⟨?_, Message.jsonKeys_nodup hwell⟩, ?_, fun _ _ => Message.cases_nodup hwell,
    ?_, Message.labels_nodup hwell⟩
  · rw [← Message.map_jsonKey_entries, List.forall₂_map_left_iff]
    exact (Json.blocks_of_routine_eq_ok hjson).imp fun _ _ => Json.insertsUnder_of_block_eq_ok
  · intro oneof before arms after hblock
    have harms := Json.arms_of_choice_mem_blocks hjson hblock
    rw [List.forall₂_map_left_iff]
    refine (Oneof.arms_eq_ok_iff.mp harms).imp ?_
    rintro _ arm ⟨hbody, rfl⟩
    exact Json.namesCase_of_armBody_eq_ok hbody
  · rw [← Message.map_label_entries, List.forall₂_map_left_iff]
    exact (Literal.blocks_of_routine_eq_ok hliteral).imp
      fun _ _ => Literal.labelledAs_of_block_eq_ok

/-- In `post` a field has the JSON name `rich_body`, which differs from the key of
the oneof of that name. -/
theorem Sample.post_keys_nodup :
    ∃ json literal : Routine,
      Schema.link [photo, post] = .ok ⟨[photo, post]⟩ ∧ post ∈ [photo, post] ∧
      Json.routine {} post = .ok json ∧ Literal.routine {} post = .ok literal ∧
      List.Forall₂ (Json.InsertsUnder {}) ["id", "rich_body", "coverPhoto", "richBody"]
        json.blocks ∧
      ["id", "rich_body", "coverPhoto", "richBody"].Nodup ∧
      ["text", "photo"].Nodup ∧
      List.Forall₂ (Literal.LabelledAs {}) ["id", "priority", "cover_photo", "rich_body"]
        literal.blocks ∧
      ["id", "priority", "cover_photo", "rich_body"].Nodup := by
  obtain ⟨json, hjson⟩ :=
    faultOf?_eq_none_iff.mp (show faultOf? (Json.routine {} post) = none from rfl)
  obtain ⟨literal, hliteral⟩ :=
    faultOf?_eq_none_iff.mp (show faultOf? (Literal.routine {} post) = none from rfl)
  have hmem : post ∈ [photo, post] := by simp
  obtain ⟨⟨hinserts, hkeys⟩, _, hcases, hlabelled, hlabels⟩ :=
    Message.keys_nodup link_eq_ok hmem hjson hliteral
  exact ⟨json, literal, link_eq_ok, hmem, hjson, hliteral, hinserts, hkeys,
    hcases ⟨"rich_body"⟩ List.mem_cons_self, hlabelled, hlabels⟩

end MessageDump
