import MessageDump.Proofs.Generation.Acceptance
import MessageDump.Proofs.Routine.Layout
import MessageDump.Proofs.Source.Draft
/-! # Routines in every wording

The JSON names of the fields of a message and the unit of indentation are not checked
by anything, and any text may be among them.  Here they are the wording of a routine,
and the routine is drafted without it: its lines have a gap for each of these texts,
and for the keys of the oneofs, which are quoted like them.  No line feed gets into a
line but through a gap (`Message.Steady`), and quoting keeps it out of there.
-/
namespace MessageDump

open Source (Context Operand Step Mark Drafted Worded OneLine fixed gaps)
open Text (NoBreak)

/-- The texts of a message and of the settings that are not checked. -/
structure Wording where
  jsonName : Field → String
  indentUnit : String

/-- A field with the JSON name that a wording gives it. -/
def Field.reworded (field : Field) (w : Wording) : Field :=
  { field with jsonName := w.jsonName field }

/-- A message with the JSON names that a wording gives its fields. -/
def Message.reworded (message : Message) (w : Wording) : Message :=
  { message with fields := message.fields.map (·.reworded w) }

/-- Settings with the unit of indentation of a wording. -/
def Settings.reworded (settings : Settings) (w : Wording) : Settings :=
  { settings with indentUnit := w.indentUnit }

/-- An entry of a message with the JSON name that a wording gives it, if it is a field. -/
def Entry.reworded (w : Wording) : Entry → Entry
  | member field => .member (field.reworded w)
  | choice oneof => .choice oneof

/-- The wording that leaves messages and these settings as they are. -/
def Settings.wording (settings : Settings) : Wording :=
  ⟨fun field => field.jsonName, settings.indentUnit⟩

/-- The texts that stand in the JSON routine between quotes for an entry: the JSON name
of a field, or those of the alternatives of a oneof and then the key of the oneof. -/
def Entry.jsonTexts (message : Message) : Entry → List (Wording → String)
  | member field => [fun w => w.jsonName field]
  | choice oneof =>
    (message.alternatives oneof).map (fun field w => w.jsonName field) ++ [fun _ => oneof.jsonName]

/-- The texts that stand in the literal routine between quotes: the unit of indentation,
once for each field that holds a message. -/
def Field.indentTexts (field : Field) : List (Wording → String) :=
  match field.kind with
  | .message _ => [fun w => w.indentUnit]
  | _ => []

/-- No line feed gets into the source of a message but between quotes. -/
structure Message.Steady (settings : Settings) (message : Message) : Prop where
  jsonMethod : Name.isIdentifier settings.jsonMethod = true
  literalMethod : Name.isIdentifier settings.literalMethod = true
  json : '\n' ∉ settings.jsonCrate.toList
  name : Name.isIdentifier message.name = true
  fields : ∀ field ∈ message.fields, Name.isIdentifier field.name = true
  oneofs : ∀ oneof ∈ message.oneofs, Name.isIdentifier oneof.name = true
  types : ∀ field ∈ message.fields, ∀ type, field.kind = .message type →
    Name.isIdentifier type = true

/-! ## Rewording -/

section
variable (w : Wording) {message : Message} {settings : Settings} {oneof : Oneof} {field : Field}

theorem Message.reworded_wording (message : Message) (settings : Settings) :
    message.reworded settings.wording = message := by
  have hfields : message.fields.map (·.reworded settings.wording) = message.fields :=
    List.map_id' message.fields
  rw [Message.reworded, hfields]

theorem Message.standalone_reworded :
    (message.reworded w).standalone = message.standalone.map (·.reworded w) :=
  List.filter_map

theorem Message.alternatives_reworded :
    (message.reworded w).alternatives oneof = (message.alternatives oneof).map (·.reworded w) :=
  List.filter_map

theorem Message.entries_reworded :
    (message.reworded w).entries = message.entries.map (Entry.reworded w) := by
  rw [Message.entries, Message.entries, Message.standalone_reworded, List.map_append, List.map_map,
    List.map_map, List.map_map]
  rfl

theorem Field.Supported.exists_ofKind? (h : field.Supported) :
    ∃ type, FieldType.ofKind? field.optional field.kind = some type := by
  obtain ⟨_, hkind⟩ := h
  cases hkind' : field.kind with
  | scalar type => cases type <;> exact ⟨_, rfl⟩
  | message type => exact ⟨_, rfl⟩
  | _ =>
    rw [hkind'] at hkind
    cases hkind

end

/-! ## Lines without a line feed -/

theorem Source.oneLine_append {front back : String} (hends : Source.endsLine back.toList = true)
    (h : '\n' ∉ (front ++ back).toList) : OneLine (front ++ back).toList := by
  rw [String.toList_append, List.mem_append, not_or] at h
  rw [String.toList_append]
  exact OneLine.append h.1 ⟨h.2, hends⟩

theorem Source.oneLine_brace : OneLine "\x7d".toList := ⟨by decide, by decide⟩

theorem oneLine_guardLine {name place : String} (hname : '\n' ∉ name.toList)
    (hplace : '\n' ∉ place.toList) : OneLine (guardLine name place).toList :=
  Source.oneLine_append (by decide) (by simp [hname, hplace])

/-! ## Blocks -/

section
variable {settings : Settings} {message : Message} {field : Field} {oneof : Oneof}

theorem Block.exists_drafted_member {inside : Wording → List Step} {ls : List (List (Mark Wording))}
    (h : message.Steady settings) (hfield : field ∈ message.fields) (guarded : Bool)
    (hinside : Drafted inside ls) :
    ∃ ls', Drafted (fun w => (Block.member (field.reworded w) guarded (inside w)).steps
        { settings := settings.reworded w } (message.reworded w)) ls' ∧
      ls'.flatMap gaps = ls.flatMap gaps := by
  cases guarded with
  | false => exact ⟨ls, hinside, rfl⟩
  | true =>
    have hplace : NoBreak (field.place { settings }).toList :=
      Field.noBreak_place rfl (h.fields field hfield)
    have hopening : OneLine (guardLine "value" (field.place { settings })).toList :=
      oneLine_guardLine (by decide) hplace.1
    refine ⟨_, hinside.block hopening Source.oneLine_brace, ?_⟩
    simp [Source.flatMap_gaps_movedMarks]

/-- Arms whose bodies are made in every wording, one for each alternative. -/
theorem Oneof.worded_arms {body : Wording → Field → Operand → Except Unsupported (List Step)}
    {texts : Field → List (Wording → String)} (h : message.Steady settings)
    (honeof : oneof ∈ message.oneofs)
    (hbody : ∀ alternative ∈ message.alternatives oneof,
      Worded (fun w => body w (alternative.reworded w) (.borrowed "value"))
        (fun _ steps => steps) (texts alternative)) :
    Worded (fun w => oneof.arms { settings := settings.reworded w } (message.reworded w) (body w))
      (fun w arms => arms.flatMap fun arm =>
        arm.steps { settings := settings.reworded w } (message.reworded w) oneof)
      ((message.alternatives oneof).flatMap texts) := by
  have harm : ∀ alternative ∈ message.alternatives oneof,
      Worded (fun w => do
          let steps ← body w (alternative.reworded w) (.borrowed "value")
          return (⟨alternative.reworded w, steps⟩ : Arm))
        (fun w arm => arm.steps { settings := settings.reworded w } (message.reworded w) oneof)
        (texts alternative) := by
    intro alternative halternative
    obtain ⟨steps, ls, hsteps, hdrafted, hgaps⟩ := hbody alternative halternative
    have hvariant : '\n' ∉ alternative.variant.toList :=
      (Name.noBreak_pascal (h.fields _ (Message.mem_alternatives.mp halternative).1)).1
    have hpath : '\n' ∉ (oneof.enumPath message).toList :=
      (Oneof.noBreak_enumPath h.name (h.oneofs oneof honeof)).1
    have hopening : OneLine ((⟨alternative, []⟩ : Arm).opening { settings } message oneof).toList :=
      Source.oneLine_append (by decide)
        (by simp [hpath, hvariant, Context.boundValue, Operand.expr])
    refine ⟨fun w => ⟨alternative.reworded w, steps w⟩, _, fun w => ?_,
      hdrafted.nest.block hopening Source.oneLine_brace, ?_⟩
    · exact bind_eq_ok.mpr ⟨steps w, hsteps w, rfl⟩
    · simp [Source.flatMap_gaps_movedMarks, hgaps]
  obtain ⟨arms, ls, harms, hdrafted, hgaps⟩ := Worded.mapM harm
  refine ⟨arms, ls, fun w => ?_, hdrafted, hgaps⟩
  change oneof.arms _ _ _ = _
  rw [Oneof.arms, Message.alternatives_reworded, List.mapM_map]
  exact harms w

theorem Block.exists_drafted_choice {before after : List Step} {arms : Wording → List Arm}
    {ls lsbefore lsafter : List (List (Mark Wording))} (h : message.Steady settings)
    (honeof : oneof ∈ message.oneofs) (hbefore : Drafted (fun _ => before) lsbefore)
    (harms : Drafted (fun w => (arms w).flatMap fun arm =>
      arm.steps { settings := settings.reworded w } (message.reworded w) oneof) ls)
    (hafter : Drafted (fun _ => after) lsafter) :
    ∃ ls', Drafted (fun w => (Block.choice oneof before (arms w) after).steps
        { settings := settings.reworded w } (message.reworded w)) ls' ∧
      ls'.flatMap gaps = lsbefore.flatMap gaps ++ (ls.flatMap gaps ++ lsafter.flatMap gaps) := by
  have hplace : NoBreak (oneof.place { settings }).toList :=
    Oneof.noBreak_place rfl (h.oneofs oneof honeof)
  have hguard : OneLine (oneof.guard { settings }).toList :=
    oneLine_guardLine (show '\n' ∉ "selected".toList by decide) hplace.1
  have hselect : OneLine "match selected \x7b".toList := ⟨by decide, by decide⟩
  have hmatch := (harms.block hselect Source.oneLine_brace).nest
  refine ⟨_, (hbefore.append (hmatch.append hafter)).block hguard Source.oneLine_brace, ?_⟩
  simp only [List.flatMap_append, Source.flatMap_gaps_movedMarks, List.flatMap_singleton,
    Source.gaps_fixed, List.nil_append, List.append_nil]

end

/-! ## Routines -/

/-- The lines of a routine: a comment, a signature, and one level deeper what is inside. -/
def Routine.draft (summary signature : String) (inside : List (List (Mark Wording))) :
    List (List (Mark Wording)) :=
  [fixed summary.toList] ++ ([fixed signature.toList] ++
    (inside.map (Source.movedMarks 1) ++ [fixed "\x7d".toList]))

theorem Routine.flatMap_gaps_draft (summary signature : String)
    (inside : List (List (Mark Wording))) :
    (Routine.draft summary signature inside).flatMap gaps = inside.flatMap gaps := by
  simp [Routine.draft, Source.flatMap_gaps_movedMarks]

/-- Lines without a gap. -/
theorem Source.exists_drafted_lines {steps : List Step}
    (h : ∀ step ∈ steps, ∃ text, step = .line text ∧ OneLine text.toList) :
    ∃ ls : List (List (Mark Wording)), Drafted (fun _ => steps) ls ∧ ls.flatMap gaps = [] := by
  induction steps with
  | nil => exact ⟨[], .nil, rfl⟩
  | cons step rest ih =>
    obtain ⟨⟨text, rfl, htext⟩, hrest⟩ := List.forall_mem_cons.mp h
    obtain ⟨ls, hdrafted, hgaps⟩ := ih hrest
    refine ⟨_, (Drafted.fixedLine htext).append hdrafted, ?_⟩
    rw [List.flatMap_append, hgaps]
    simp

section
variable {settings : Settings} {message : Message}

/-- The blocks of a routine, one for each entry. -/
theorem Routine.worded_blocks {make : Wording → Entry → Except Unsupported Block}
    {texts : Entry → List (Wording → String)}
    (h : ∀ entry ∈ message.entries,
      Worded (fun w => make w (entry.reworded w))
        (fun w block => block.steps { settings := settings.reworded w } (message.reworded w))
        (texts entry)) :
    Worded (fun w => (message.reworded w).entries.mapM (make w))
      (fun w blocks => blocks.flatMap fun block =>
        [.nest (block.steps { settings := settings.reworded w } (message.reworded w))])
      (message.entries.flatMap texts) := by
  have hnested : ∀ entry ∈ message.entries,
      Worded (fun w => make w (entry.reworded w))
        (fun w block =>
          [.nest (block.steps { settings := settings.reworded w } (message.reworded w))])
        (texts entry) := by
    intro entry hentry
    obtain ⟨block, ls, hblock, hdrafted, hgaps⟩ := h entry hentry
    exact ⟨block, ls, hblock, hdrafted.nest, hgaps⟩
  obtain ⟨blocks, ls, hblocks, hdrafted, hgaps⟩ := Worded.mapM hnested
  refine ⟨blocks, ls, fun w => ?_, hdrafted, hgaps⟩
  change (message.reworded w).entries.mapM (make w) = _
  rw [Message.entries_reworded, List.mapM_map]
  exact hblocks w

/-- What holds of the entries of a message: the fields of each are subjects of it. -/
theorem Message.forall_mem_entries {P : Entry → Prop}
    (hmember : ∀ field ∈ message.fields, field ∈ message.subjects → P (.member field))
    (hchoice : ∀ oneof ∈ message.oneofs,
      (∀ alternative ∈ message.alternatives oneof, alternative ∈ message.subjects) →
        P (.choice oneof)) :
    ∀ entry ∈ message.entries, P entry := by
  rw [Message.entries, List.forall_mem_append, List.forall_mem_map, List.forall_mem_map]
  refine ⟨fun field hfield => ?_, fun oneof honeof => hchoice oneof honeof ?_⟩
  · exact hmember field (mem_standalone.mp hfield).1 (List.mem_append_left _ hfield)
  · intro alternative halternative
    exact List.mem_append_right _ (List.mem_flatMap.mpr ⟨oneof, honeof, halternative⟩)

/-- A routine whose blocks are made in every wording, one for each entry, around which
all lines are fixed. -/
theorem Routine.exists_drafted {frame : Routine}
    {make : Wording → Entry → Except Unsupported Block} {texts : Entry → List (Wording → String)}
    (hsummary : OneLine frame.summary.toList) (hsignature : OneLine frame.signature.toList)
    (haround : ∀ step ∈ frame.before ++ frame.after ++ frame.idle,
      ∃ text, step = .line text ∧ OneLine text.toList)
    (hblocks : ∀ entry ∈ message.entries,
      Worded (fun w => make w (entry.reworded w))
        (fun w block => block.steps { settings := settings.reworded w } (message.reworded w))
        (texts entry)) :
    ∃ (blocks : Wording → List Block) (ls : List (List (Mark Wording))),
      (∀ w, (message.reworded w).entries.mapM (make w) = .ok (blocks w)) ∧
      Drafted (fun w => { frame with blocks := blocks w }.steps
          { settings := settings.reworded w } (message.reworded w))
        (Routine.draft frame.summary frame.signature ls) ∧
      ls.flatMap gaps = message.entries.flatMap texts := by
  rw [List.forall_mem_append, List.forall_mem_append] at haround
  obtain ⟨⟨hbefore, hafter⟩, hidle⟩ := haround
  obtain ⟨blocks, lsblocks, hmade, hdrafted, hgaps⟩ := Routine.worded_blocks hblocks
  -- whether a routine is idle does not depend on the wording, and neither do its lines
  have hidling : ∀ w, (blocks w).isEmpty = message.entries.isEmpty := by
    intro w
    have hlength := (mapM_eq_ok_iff.mp (hmade w)).length_eq
    rw [Message.entries_reworded, List.length_map] at hlength
    rw [Bool.eq_iff_iff, List.isEmpty_iff_length_eq_zero, List.isEmpty_iff_length_eq_zero, hlength]
  have hinside : ∃ ls, Drafted (fun w => if (blocks w).isEmpty then frame.idle
      else frame.before ++ .nest ({ frame with blocks := blocks w }.body
        { settings := settings.reworded w } (message.reworded w)) :: frame.after) ls ∧
      ls.flatMap gaps = message.entries.flatMap texts := by
    simp only [hidling]
    cases hentries : message.entries with
    | nil => exact Source.exists_drafted_lines hidle
    | cons entry rest =>
      obtain ⟨lsbefore, hlinesbefore, hnonebefore⟩ := Source.exists_drafted_lines hbefore
      obtain ⟨lsafter, hlinesafter, hnoneafter⟩ := Source.exists_drafted_lines hafter
      have hbody : Drafted (fun w => { frame with blocks := blocks w }.body
          { settings := settings.reworded w } (message.reworded w)) lsblocks := by
        simpa only [Routine.body, ← List.map_eq_flatMap] using hdrafted
      refine ⟨_, hlinesbefore.append (hbody.nest.append hlinesafter), ?_⟩
      rw [List.flatMap_append, List.flatMap_append, hnonebefore, hnoneafter, hgaps, hentries,
        List.append_nil, List.nil_append]
  obtain ⟨ls, hdraftedinside, hgapsinside⟩ := hinside
  exact ⟨blocks, ls, hmade, (Drafted.fixedLine hsummary).append
    (hdraftedinside.block hsignature Source.oneLine_brace), hgapsinside⟩

end

/-! ## The JSON routine -/

namespace Json

/-- The line with the name and the parameters of the routine. -/
def signature (settings : Settings) : String :=
  "pub fn " ++ settings.jsonMethod ++ "(&self) -> " ++ settings.jsonCrate ++ "::Value \x7b"

theorem signature_eq (settings : Settings) :
    "pub fn " ++ settings.jsonMethod ++ "(&" ++ "self" ++ ") -> " ++ settings.jsonCrate ++
      "::Value \x7b" = signature settings := by
  have hreceiver : "(&self) -> " = "(&" ++ "self" ++ ") -> " := rfl
  simp only [signature, hreceiver, String.append_assoc]

variable {settings : Settings} {message : Message} {field : Field} {oneof : Oneof}

theorem exists_node?_of_supported {kind : Kind} (ctx : Context) (operand : Operand)
    (h : kind.Supported) : ∃ value, node? ctx operand kind = some value := by
  cases h with
  | @scalar type htype =>
    cases type with
    | bytes => exact absurd rfl htype
    | _ => exact ⟨_, rfl⟩
  | message type => exact ⟨_, rfl⟩

theorem feed_not_mem_of_node?_eq_some {kind : Kind} {operand : Operand} {value : String}
    (h : message.Steady settings) (hoperand : '\n' ∉ operand.expr.toList)
    (hnode : node? { settings } operand kind = some value) : '\n' ∉ value.toList := by
  have hcopied : '\n' ∉ operand.copied.toList := by
    cases operand with
    | place expr => exact hoperand
    | borrowed expr =>
      rw [Operand.copied, String.toList_append, List.mem_append, not_or]
      exact ⟨by decide, hoperand⟩
  have hjson : '\n' ∉ (Context.json { settings }).toList := h.json
  have hmethod := (Name.noBreak h.jsonMethod).1
  unfold node? scalarNode? at hnode
  -- a scalar, a message, and the kinds without an expression
  split at hnode
  · split at hnode <;> cases hnode <;> simp [hjson, hcopied, hoperand]
  · cases hnode
    simp [hoperand, hmethod]
  all_goals cases hnode

/-- The expression for the node of a value does not depend on the wording. -/
theorem node?_reworded (w : Wording) (operand : Operand) (kind : Kind) :
    node? { settings := settings.reworded w } operand kind = node? { settings } operand kind := by
  cases kind with
  | scalar type => cases type <;> rfl
  | _ => rfl

theorem node_reworded {operand : Operand} {value : String} (w : Wording)
    (h : node? { settings } operand field.kind = some value) :
    node { settings := settings.reworded w } (message.reworded w) (field.reworded w) operand =
      .ok value := by
  have hkind : (field.reworded w).kind = field.kind := rfl
  rw [node, hkind, node?_reworded, h]

/-- An insertion has a gap for its key. -/
theorem drafted_insertion (map value : String) (key : Wording → String) (hmap : '\n' ∉ map.toList)
    (hvalue : '\n' ∉ value.toList) :
    Drafted (fun w => [.line (insertion map (key w) value)])
      [fixed (map ++ ".insert(").toList ++
        .gap key :: fixed (".to_string(), " ++ value ++ ");").toList] :=
  .gapLine key (fun w => by simp only [insertion, String.append_assoc]) (by simp [hmap])
    (Source.oneLine_append (by decide) (by simp [hvalue]))

theorem worded_memberBlock (h : message.Steady settings) (hfield : field ∈ message.fields)
    (hsupported : field.Supported) :
    Worded
      (fun w => memberBlock { settings := settings.reworded w } (message.reworded w)
        (field.reworded w))
      (fun w block => block.steps { settings := settings.reworded w } (message.reworded w))
      [fun w => w.jsonName field] := by
  obtain ⟨type, htype⟩ := hsupported.exists_ofKind?
  obtain ⟨value, hnode⟩ := exists_node?_of_supported { settings }
    (field.operand { settings } (field.isGuarded type)) hsupported.2
  have hoperand : NoBreak (field.operand { settings } (field.isGuarded type)).expr.toList :=
    Field.noBreak_operand rfl (h.fields field hfield) _
  have hvalue := feed_not_mem_of_node?_eq_some h hoperand.1 hnode
  obtain ⟨ls, hdrafted, hgaps⟩ := Block.exists_drafted_member h hfield (field.isGuarded type)
    (drafted_insertion "fields" value (fun w => w.jsonName field) (by decide) hvalue)
  refine ⟨_, ls, fun w => ?_, hdrafted, ?_⟩
  · exact memberBlock_eq_ok_iff.mpr
      ⟨type, value, fieldType_eq_ok_iff.mpr ⟨hsupported.1, htype⟩, node_reworded w hnode, rfl⟩
  · rw [hgaps]
    simp

/-- The line that names an alternative has a gap for the name. -/
theorem exists_drafted_case (h : message.Steady settings) (name : Wording → String) :
    ∃ front back : String, Drafted (fun w => [.line (insertion "entry" "case" (settings.jsonCrate ++
        "::Value::String(" ++ Text.quote (name w) ++ ".to_string())"))])
      [fixed front.toList ++ .gap name :: fixed back.toList] := by
  refine ⟨"entry.insert(" ++ Text.quote "case" ++ ".to_string(), " ++ settings.jsonCrate ++
    "::Value::String(", ".to_string())" ++ ");", .gapLine name (fun w => ?_) ?_ ?_⟩
  · simp only [insertion, String.append_assoc]
    rfl
  · simp [h.json, (Text.noBreak_quote "case").1]
  · exact Source.oneLine_append (by decide) (by decide)

theorem worded_armBody (h : message.Steady settings) (hsupported : field.Supported) :
    Worded
      (fun w => armBody { settings := settings.reworded w } (message.reworded w)
        (field.reworded w) (.borrowed "value"))
      (fun _ steps => steps) [fun w => w.jsonName field] := by
  obtain ⟨type, htype⟩ := hsupported.exists_ofKind?
  obtain ⟨value, hnode⟩ :=
    exists_node?_of_supported { settings } (.borrowed "value") hsupported.2
  have hvalue := feed_not_mem_of_node?_eq_some h (by decide) hnode
  obtain ⟨front, back, hcase⟩ := exists_drafted_case h fun w => w.jsonName field
  have hentry : OneLine (insertion "entry" "value" value).toList :=
    Source.oneLine_append (by decide) (by simp [hvalue, (Text.noBreak_quote "value").1])
  refine ⟨_, _, fun w => ?_, hcase.append (.fixedLine hentry), ?_⟩
  · exact armBody_eq_ok_iff.mpr
      ⟨type, value, fieldType_eq_ok_iff.mpr ⟨hsupported.1, htype⟩, node_reworded w hnode, rfl⟩
  · simp

theorem worded_choiceBlock (h : message.Steady settings) (honeof : oneof ∈ message.oneofs)
    (hsupported : ∀ alternative ∈ message.alternatives oneof, alternative.Supported) :
    Worded
      (fun w => choiceBlock { settings := settings.reworded w } (message.reworded w) oneof)
      (fun w block => block.steps { settings := settings.reworded w } (message.reworded w))
      ((message.alternatives oneof).map (fun field w => w.jsonName field) ++
        [fun _ => oneof.jsonName]) := by
  obtain ⟨arms, lsarms, harms, hdrafted, hgapsarms⟩ := Oneof.worded_arms h honeof
    fun alternative halternative => worded_armBody h (hsupported alternative halternative)
  have hbegin : OneLine ("let mut entry = " ++ settings.jsonCrate ++ "::Map::new();").toList :=
    Source.oneLine_append (by decide) (by simp [h.json])
  have hend := drafted_insertion "fields" (settings.jsonCrate ++ "::Value::Object(" ++ "entry" ++ ")")
    (fun _ => oneof.jsonName) (by decide) (by simp [h.json])
  obtain ⟨ls, hblock, hgaps⟩ := Block.exists_drafted_choice h honeof (.fixedLine hbegin) hdrafted hend
  refine ⟨_, ls, fun w => ?_, hblock, ?_⟩
  · exact choiceBlock_eq_ok_iff.mpr ⟨arms w, harms w, rfl⟩
  · rw [hgaps, hgapsarms, List.map_eq_flatMap]
    simp

theorem worded_block (h : message.Steady settings)
    (hsupported : ∀ field ∈ message.subjects, field.Supported) :
    ∀ entry ∈ message.entries,
      Worded (fun w => block { settings := settings.reworded w } (message.reworded w)
          (entry.reworded w))
        (fun w block => block.steps { settings := settings.reworded w } (message.reworded w))
        (entry.jsonTexts message) := by
  refine Message.forall_mem_entries (fun field hfield hsubject => ?_) fun oneof honeof hsubjects => ?_
  · exact worded_memberBlock h hfield (hsupported field hsubject)
  · exact worded_choiceBlock h honeof fun alternative halternative =>
      hsupported alternative (hsubjects alternative halternative)

/-- **The JSON routine in every wording**: the lines of one draft, between a comment
and a signature without a gap. -/
theorem exists_drafted_steps (h : message.Steady settings)
    (hsupported : ∀ field ∈ message.subjects, field.Supported) :
    ∃ (steps : Wording → List Step) (ls : List (List (Mark Wording))),
      (∀ w, Json.steps { settings := settings.reworded w } (message.reworded w) = .ok (steps w)) ∧
      Drafted steps
        (Routine.draft ("/// Builds the JSON node tree of this `" ++ message.name ++ "`.")
          (signature settings) ls) ∧
      ls.flatMap gaps = message.entries.flatMap (Entry.jsonTexts message) := by
  rw [← signature_eq settings]
  have hjson := h.json
  have hname := (Name.noBreak h.name).1
  have hmethod := (Name.noBreak h.jsonMethod).1
  let frame : Routine := {
    summary := "/// Builds the JSON node tree of this `" ++ message.name ++ "`."
    signature := "pub fn " ++ settings.jsonMethod ++ "(&" ++ "self" ++ ") -> " ++
      settings.jsonCrate ++ "::Value \x7b"
    idle := [.line (settings.jsonCrate ++ "::Value::Object(" ++ settings.jsonCrate ++
      "::Map::new())")]
    before := [.line ("let mut " ++ "fields" ++ " = " ++ settings.jsonCrate ++ "::Map::new();")]
    blocks := []
    after := [.line (settings.jsonCrate ++ "::Value::Object(" ++ "fields" ++ ")")] }
  have hsummary : OneLine frame.summary.toList :=
    Source.oneLine_append (by decide) (by simp [hname])
  have hsignature : OneLine frame.signature.toList :=
    Source.oneLine_append (by decide) (by simp [hmethod, hjson])
  have haround : ∀ step ∈ frame.before ++ frame.after ++ frame.idle,
      ∃ text, step = .line text ∧ OneLine text.toList := by
    simp only [frame, List.forall_mem_append, List.forall_mem_singleton]
    exact ⟨⟨⟨_, rfl, Source.oneLine_append (by decide) (by simp [hjson])⟩,
      ⟨_, rfl, Source.oneLine_append (by decide) (by simp [hjson])⟩⟩,
      ⟨_, rfl, Source.oneLine_append (by decide) (by simp [hjson])⟩⟩
  obtain ⟨blocks, ls, hblocks, hdrafted, hgaps⟩ :=
    Routine.exists_drafted hsummary hsignature haround (worded_block h hsupported)
  refine ⟨_, ls, fun w => ?_, hdrafted, hgaps⟩
  exact steps_eq_ok_iff.mpr ⟨_, bind_eq_ok.mpr ⟨blocks w, hblocks w, rfl⟩, rfl⟩

end Json

/-! ## The literal routine -/

namespace Literal

/-- The line with the name and the parameters of the routine. -/
def signature (settings : Settings) : String :=
  "pub fn " ++ settings.literalMethod ++ "(&self, indent: &str) -> String \x7b"

theorem signature_eq (settings : Settings) :
    "pub fn " ++ settings.literalMethod ++ "(&" ++ "self" ++ ", " ++ "indent" ++
      ": &str) -> String \x7b" = signature settings := by
  have hparameters : "(&self, indent: &str) -> String \x7b" =
      "(&" ++ "self" ++ ", " ++ "indent" ++ ": &str) -> String \x7b" := rfl
  simp only [signature, hparameters, String.append_assoc]

/-- The call that dumps a message one unit deeper. -/
theorem call_eq (settings : Settings) (operand : String) :
    operand ++ "." ++ settings.literalMethod ++ "(&[" ++ "indent" ++ ", " ++
        Text.quote settings.indentUnit ++ "].concat())" =
      operand ++ "." ++ settings.literalMethod ++ "(&[indent, " ++
        Text.quote settings.indentUnit ++ "].concat())" := by
  have hstart : "(&[indent, " = "(&[" ++ "indent" ++ ", " := rfl
  simp only [hstart, String.append_assoc]

variable {settings : Settings} {message : Message} {field : Field} {oneof : Oneof}

theorem exists_form?_of_supported {kind : Kind} (h : kind.Supported) :
    ∃ made, form? kind = some made := by
  cases h with
  | @scalar type htype =>
    cases type with
    | bytes => exact absurd rfl htype
    | _ => exact ⟨_, rfl⟩
  | message type => exact ⟨_, rfl⟩

theorem oneLine_push {text : String} (h : '\n' ∉ text.toList) :
    OneLine ("out" ++ ".push_str(&" ++ text ++ ");").toList :=
  Source.oneLine_append (by decide) (by simp [h])

/-- The texts that stand between quotes in the statements of a form. -/
def Form.indentTexts : Form → List (Wording → String)
  | .value _ => []
  | .nested _ => [fun w => w.indentUnit]

theorem indentTexts_of_form?_eq_some {made : Form} (h : form? field.kind = some made) :
    field.indentTexts = made.indentTexts := by
  unfold Field.indentTexts
  generalize field.kind = kind at h
  cases kind with
  | scalar type =>
    obtain ⟨verb, _, rfl⟩ := Option.map_eq_some_iff.mp h
    rfl
  | message type =>
    obtain rfl := Option.some.inj h
    rfl
  | _ => cases h

/-- The statements that dump a value have a gap for the unit of indentation, if the
value is a message. -/
theorem exists_drafted_lines {label : String} (wrapper : String) (operand : Operand) {made : Form}
    (h : message.Steady settings) (hlabel : NoBreak label.toList) (hwrapper : NoBreak wrapper.toList)
    (hoperand : NoBreak operand.expr.toList) (hfield : field ∈ message.fields)
    (hmade : form? field.kind = some made) :
    ∃ ls, Drafted (fun w => lines { settings := settings.reworded w } label wrapper operand made)
        ls ∧ ls.flatMap gaps = field.indentTexts := by
  have hinserted := noBreak_of_form?_eq_some (h.types field hfield) hmade
  have hopening := noBreak_wrapOpening hwrapper
  rw [indentTexts_of_form?_eq_some hmade]
  cases made with
  | value verb =>
    have htemplate : NoBreak (valueTemplate label wrapper verb).toList := by
      have hverb : NoBreak verb.toList := hinserted
      simp [valueTemplate, hlabel, hopening, noBreak_wrapClosing, hverb]
    have hfilled : NoBreak (filled (valueTemplate label wrapper verb)
        ["indent", operand.expr]).toList :=
      noBreak_filled rfl htemplate (by simp [hoperand])
    exact ⟨_, .fixedLine (oneLine_push hfilled.1), by simp [Form.indentTexts]⟩
  | nested type =>
    have htemplate : NoBreak (openingTemplate label wrapper type).toList := by
      have htype : NoBreak type.toList := hinserted
      simp [openingTemplate, hlabel, hopening, htype]
    have hbegin : NoBreak (filled (openingTemplate label wrapper type) ["indent"]).toList :=
      noBreak_filled rfl htemplate (by decide)
    have hend : NoBreak (filled (closingTemplate wrapper) ["indent"]).toList :=
      noBreak_filled rfl (by simp [closingTemplate, noBreak_wrapClosing]) (by decide)
    have hcall : ∀ w : Wording, "out" ++ ".push_str(&" ++ (operand.expr ++ "." ++
        settings.literalMethod ++ "(&[" ++ "indent" ++ ", " ++ Text.quote w.indentUnit ++
          "].concat())") ++ ");" =
        ("out" ++ ".push_str(&" ++ operand.expr ++ "." ++ settings.literalMethod ++ "(&[" ++
          "indent" ++ ", ") ++ (Text.quote w.indentUnit ++ ("].concat())" ++ ");")) := by
      intro w
      simp only [String.append_assoc]
    have hunit := Drafted.gapLine (fun w : Wording => w.indentUnit) hcall
      (by simp [hoperand.1, (Name.noBreak h.literalMethod).1])
      (Source.oneLine_append (by decide) (by decide))
    exact ⟨_, (Drafted.fixedLine (oneLine_push hbegin.1)).append
      (hunit.append (.fixedLine (oneLine_push hend.1))), by simp [Form.indentTexts]⟩

theorem worded_memberBlock (h : message.Steady settings) (hfield : field ∈ message.fields)
    (hsupported : field.Supported) :
    Worded
      (fun w => memberBlock { settings := settings.reworded w } (message.reworded w)
        (field.reworded w))
      (fun w block => block.steps { settings := settings.reworded w } (message.reworded w))
      field.indentTexts := by
  obtain ⟨type, htype⟩ := hsupported.exists_ofKind?
  obtain ⟨made, hmade⟩ := exists_form?_of_supported hsupported.2
  have hoperand : NoBreak (field.operand { settings } (field.isGuarded type)).expr.toList :=
    Field.noBreak_operand rfl (h.fields field hfield) _
  obtain ⟨lsinside, hinside, hgapsinside⟩ := exists_drafted_lines "" _ h
    (Name.noBreak (h.fields field hfield)) (by decide) hoperand hfield hmade
  obtain ⟨ls, hdrafted, hgaps⟩ :=
    Block.exists_drafted_member h hfield (field.isGuarded type) hinside.nest
  refine ⟨_, ls, fun w => ?_, hdrafted, hgaps.trans hgapsinside⟩
  exact memberBlock_eq_ok_iff.mpr ⟨made, type, form_eq_ok_iff.mpr ⟨hsupported.1, hmade⟩,
    (FieldType.resolve_eq_ok_iff hsupported.1).mpr htype, rfl⟩

theorem worded_choiceBlock (h : message.Steady settings) (honeof : oneof ∈ message.oneofs)
    (hsupported : ∀ alternative ∈ message.alternatives oneof, alternative.Supported) :
    Worded
      (fun w => choiceBlock { settings := settings.reworded w } (message.reworded w) oneof)
      (fun w block => block.steps { settings := settings.reworded w } (message.reworded w))
      ((message.alternatives oneof).flatMap Field.indentTexts) := by
  have hbody : ∀ alternative ∈ message.alternatives oneof,
      Worded (fun w => armBody { settings := settings.reworded w } (message.reworded w) oneof
          (alternative.reworded w) (.borrowed "value"))
        (fun _ steps => steps) alternative.indentTexts := by
    intro alternative halternative
    have hfield := (Message.mem_alternatives.mp halternative).1
    obtain ⟨hweak, hkind⟩ := hsupported alternative halternative
    obtain ⟨type, htype⟩ := (hsupported alternative halternative).exists_ofKind?
    obtain ⟨made, hmade⟩ := exists_form?_of_supported hkind
    obtain ⟨ls, hlines, hgaps⟩ := exists_drafted_lines _ (.borrowed "value") h
      (Name.noBreak (h.oneofs oneof honeof)) (Name.noBreak_pascal (h.fields _ hfield)) (by decide)
      hfield hmade
    refine ⟨_, ls, fun w => ?_, hlines, hgaps⟩
    exact armBody_eq_ok_iff.mpr ⟨made, type, form_eq_ok_iff.mpr ⟨hweak, hmade⟩,
      (FieldType.resolve_eq_ok_iff hweak).mpr htype, rfl⟩
  obtain ⟨arms, lsarms, harms, hdrafted, hgapsarms⟩ := Oneof.worded_arms h honeof hbody
  obtain ⟨ls, hblock, hgaps⟩ := Block.exists_drafted_choice h honeof .nil hdrafted .nil
  refine ⟨_, ls, fun w => ?_, hblock, ?_⟩
  · exact choiceBlock_eq_ok_iff.mpr ⟨arms w, harms w, rfl⟩
  · rw [hgaps, hgapsarms]
    simp

theorem worded_block (h : message.Steady settings)
    (hsupported : ∀ field ∈ message.subjects, field.Supported) :
    ∀ entry ∈ message.entries,
      Worded (fun w => block { settings := settings.reworded w } (message.reworded w)
          (entry.reworded w))
        (fun w block => block.steps { settings := settings.reworded w } (message.reworded w))
        ((entry.fields message).flatMap Field.indentTexts) := by
  refine Message.forall_mem_entries (fun field hfield hsubject => ?_) fun oneof honeof hsubjects => ?_
  · rw [Entry.fields, List.flatMap_singleton]
    exact worded_memberBlock h hfield (hsupported field hsubject)
  · exact worded_choiceBlock h honeof fun alternative halternative =>
      hsupported alternative (hsubjects alternative halternative)

/-- **The literal routine in every wording**: the lines of one draft, between a comment
and a signature without a gap. -/
theorem exists_drafted_steps (h : message.Steady settings)
    (hsupported : ∀ field ∈ message.subjects, field.Supported) :
    ∃ (steps : Wording → List Step) (ls : List (List (Mark Wording))),
      (∀ w, Literal.steps { settings := settings.reworded w } (message.reworded w) =
        .ok (steps w)) ∧
      Drafted steps
        (Routine.draft ("/// Renders this `" ++ message.name ++
          "` as an indented literal, one field per line.") (signature settings) ls) ∧
      ls.flatMap gaps = message.subjects.flatMap Field.indentTexts := by
  rw [← signature_eq settings]
  have hname := (Name.noBreak h.name).1
  have hmethod := (Name.noBreak h.literalMethod).1
  let frame : Routine := {
    summary := "/// Renders this `" ++ message.name ++
      "` as an indented literal, one field per line."
    signature := "pub fn " ++ settings.literalMethod ++ "(&" ++ "self" ++ ", " ++ "indent" ++
      ": &str) -> String \x7b"
    idle := [.line ("let _ = " ++ "indent" ++ ";"), .line "String::new()"]
    before := [.line ("let mut " ++ "out" ++ " = String::new();")]
    blocks := []
    after := [.line "out"] }
  have hsummary : OneLine frame.summary.toList :=
    Source.oneLine_append (by decide) (by simp [hname])
  have hsignature : OneLine frame.signature.toList :=
    Source.oneLine_append (by decide) (by simp [hmethod])
  have haround : ∀ step ∈ frame.before ++ frame.after ++ frame.idle,
      ∃ text, step = .line text ∧ OneLine text.toList := by
    simp only [frame, List.forall_mem_append, List.forall_mem_cons]
    exact ⟨⟨⟨⟨_, rfl, by decide, by decide⟩, nofun⟩, ⟨_, rfl, by decide, by decide⟩, nofun⟩,
      ⟨_, rfl, by decide, by decide⟩, ⟨_, rfl, by decide, by decide⟩, nofun⟩
  obtain ⟨blocks, ls, hblocks, hdrafted, hgaps⟩ :=
    Routine.exists_drafted hsummary hsignature haround (worded_block h hsupported)
  refine ⟨_, ls, fun w => ?_, hdrafted, ?_⟩
  · exact steps_eq_ok_iff.mpr ⟨_, bind_eq_ok.mpr ⟨blocks w, hblocks w, rfl⟩, rfl⟩
  · rw [hgaps, ← Message.entries_flatMap_fields, List.flatMap_assoc]

end Literal

end MessageDump
