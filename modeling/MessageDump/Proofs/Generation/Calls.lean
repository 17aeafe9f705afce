import MessageDump.Proofs.Generation.Definitions
import MessageDump.Proofs.Generation.Order
/-! # No call without a definition

The value of a field that holds a message is handled by calls: the JSON routine calls
the method that builds the JSON node of the value, and the literal routine the one that
renders it.  Both methods are looked up in the `impl` block of the type of the field.
Linking makes sure that the type is a message of the schema, and generation makes the
files of all messages or none, so that the block is in one of the files, with the
definitions of both methods (`Schema.calls_defined`).

That there is no further definition of either takes a path of the JSON library that is
on one line.  Nothing checks this, and a path may bring along lines that begin a
definition again (`Sample.to_json_repeated`).
-/
namespace MessageDump

open Source (Context Operand Step moved)

/-! ## Calls -/

/-- What the JSON routine does with the value of a field that holds a message.  The
value has the name `value`. -/
def Json.callSteps (settings : Settings) (field : Field) : List Step :=
  match field.oneof with
  | none =>
    [.line ("fields.insert(" ++ Text.quote field.jsonName ++ ".to_string(), value." ++
      settings.jsonMethod ++ "());")]
  | some _ =>
    [.line ("entry.insert(\"case\".to_string(), " ++ settings.jsonCrate ++ "::Value::String(" ++
      Text.quote field.jsonName ++ ".to_string()));"),
     .line ("entry.insert(\"value\".to_string(), value." ++ settings.jsonMethod ++ "());")]

/-- The statements that dump a message: the call is between its first line and its
last. -/
def Literal.dumpSteps (settings : Settings) (label wrapper type : String) : List Step :=
  [.line ("out.push_str(&format!(\"\x7b\x7d" ++ label ++ ": " ++
    (if wrapper = "" then type else wrapper ++ "(" ++ type) ++ "\x7b\x7b\\n\", indent));"),
   .line ("out.push_str(&value." ++ settings.literalMethod ++ "(&[indent, " ++
    Text.quote settings.indentUnit ++ "].concat()));"),
   .line ("out.push_str(&format!(\"\x7b\x7d\x7d\x7d" ++ (if wrapper = "" then "" else ")") ++
    ",\\n\", indent));")]

/-- What the literal routine does with the value of a field that holds a message. -/
def Literal.callSteps (settings : Settings) (type : String) (field : Field) : List Step :=
  match field.oneof with
  | none => [.nest (dumpSteps settings field.name "" type)]
  | some name => dumpSteps settings name (Name.pascal field.name) type

/-- Steps stand in others next to each other, or in what one of those nests. -/
inductive Source.StandsIn (part : List Step) : List Step → Prop
  | here (before after : List Step) : StandsIn part (before ++ part ++ after)
  | nested {inner : List Step} (before after : List Step) :
      StandsIn part inner → StandsIn part (before ++ .nest inner :: after)

open Source (StandsIn)

/-- A routine handles a field in one place and with these steps.  The value of the
field is bound there to the name `value`, by the guard of its block if it is on its
own and by the pattern of its arm if it is an alternative. -/
structure Routine.HandlesWith (settings : Settings) (message : Message) (field : Field)
    (body : List Step) (routine : Routine) : Prop where
  standalone : field.oneof = none → .member field true body ∈ routine.blocks ∧
    StandsIn
      (.enter ("if let Some(value) = &self." ++ Name.escaped field.name ++ " \x7b") ::
        (body ++ [.leave "\x7d"]))
      (routine.steps { settings } message)
  alternative : ∀ name, field.oneof = some name →
    (∃ oneof ∈ message.oneofs, oneof.name = name ∧
      ∃ before arms after, .choice oneof before arms after ∈ routine.blocks ∧
        ⟨field, body⟩ ∈ arms) ∧
    StandsIn
      [.enter (Name.escaped (Name.snake message.name) ++ "::" ++ Name.pascal name ++ "::" ++
        Name.pascal field.name ++ "(value) => \x7b"), .nest body, .leave "\x7d"]
      (routine.steps { settings } message)
  once : (routine.blocks.flatMap Block.fields).count field = 1

/-! ## Where a block stands -/

namespace Source.StandsIn

variable {part whole : List Step}

theorem append (h : StandsIn part whole) (before after : List Step) :
    StandsIn part (before ++ whole ++ after) := by
  cases h with
  | here front back =>
    have hparts : before ++ (front ++ part ++ back) ++ after =
        (before ++ front) ++ part ++ (back ++ after) := by
      simp only [List.append_assoc]
    rw [hparts]
    exact .here _ _
  | nested front back hinner =>
    have hparts : ∀ inner, before ++ (front ++ Step.nest inner :: back) ++ after =
        (before ++ front) ++ Step.nest inner :: (back ++ after) := by
      simp
    rw [hparts]
    exact .nested _ _ hinner

theorem cons (h : StandsIn part whole) (step : Step) : StandsIn part (step :: whole) := by
  have hcons := h.append [step] []
  rw [List.append_nil] at hcons
  exact hcons

theorem block (h : StandsIn part whole) (opening closing : String) :
    StandsIn part (Source.block opening whole closing) :=
  h.append [.enter opening] [.leave closing]

theorem self (steps : List Step) : StandsIn steps steps := by
  have hself : StandsIn steps ([] ++ steps ++ []) := .here [] []
  rw [List.append_nil] at hself
  exact hself

end Source.StandsIn

section
variable {ctx : Context} {message : Message} {oneof : Oneof}

/-- The source of a block stands in its routine. -/
theorem Routine.standsIn_steps {routine : Routine} {block : Block} {part : List Step}
    (hblock : block ∈ routine.blocks) (hpart : StandsIn part (block.steps ctx message)) :
    StandsIn part (routine.steps ctx message) := by
  obtain ⟨front, back, hblocks⟩ := List.append_of_mem hblock
  have hbody : StandsIn part (routine.body ctx message) := by
    rw [Routine.body, hblocks, List.map_append, List.map_cons]
    exact .nested _ _ hpart
  have hsome : routine.blocks.isEmpty = false := by
    rw [hblocks]
    cases front <;> rfl
  have hinside : StandsIn part (if routine.blocks.isEmpty then routine.idle
      else routine.before ++ .nest (routine.body ctx message) :: routine.after) := by
    rw [hsome]
    exact .nested _ _ hbody
  exact (hinside.block _ _).cons _

/-- The source of an arm stands in the block of its oneof. -/
theorem Arm.standsIn_steps {arms : List Arm} {arm : Arm} (before after : List Step)
    (harm : arm ∈ arms) :
    StandsIn (arm.steps ctx message oneof)
      ((Block.choice oneof before arms after).steps ctx message) := by
  obtain ⟨front, back, rfl⟩ := List.append_of_mem harm
  have hmatch : StandsIn (arm.steps ctx message oneof)
      (oneof.matchSteps ctx message (front ++ arm :: back)) := by
    rw [Oneof.matchSteps, List.flatMap_append, List.flatMap_cons, ← List.append_assoc]
    exact (StandsIn.here _ _).block _ _
  exact (StandsIn.nested before after hmatch).block _ _

theorem Oneof.mem_arms_of_body {field : Field} {body : List Step}
    {make : Field → Operand → Except Unsupported (List Step)} {arms : List Arm}
    (harms : oneof.arms ctx message make = .ok arms) (hfield : field ∈ message.alternatives oneof)
    (hbody : make field ctx.boundValue = .ok body) : ⟨field, body⟩ ∈ arms := by
  obtain ⟨⟨alternative, made⟩, hmem, hmade, halternative⟩ :=
    exists_mem_of_forall₂ (Oneof.arms_eq_ok_iff.mp harms).flip hfield
  subst halternative
  rw [hbody] at hmade
  exact Except.ok.inj hmade ▸ hmem

end

section
variable {settings : Settings} {names : List String} {message : Message} {field : Field}
variable {oneof : Oneof} {type : String} {body : List Step}

theorem Block.steps_of_guarded :
    (Block.member field true body).steps { settings } message =
      .enter ("if let Some(value) = &self." ++ Name.escaped field.name ++ " \x7b") ::
        (body ++ [.leave "\x7d"]) := by
  have hguard : "if let Some(" ++ "value" ++ ") = &" ++ ("self" ++ "." ++ Name.escaped field.name) ++
      " \x7b" = "if let Some(value) = &self." ++ Name.escaped field.name ++ " \x7b" :=
    String.toList_inj.mp (by simp)
  rw [← hguard]
  rfl

theorem Arm.steps_eq :
    Arm.steps { settings } message oneof ⟨field, body⟩ =
      [.enter (Name.escaped (Name.snake message.name) ++ "::" ++ Name.pascal oneof.name ++ "::" ++
        Name.pascal field.name ++ "(value) => \x7b"), .nest body, .leave "\x7d"] := by
  have hpattern : Name.escaped (Name.snake message.name) ++ "::" ++ Name.pascal oneof.name ++
      "::" ++ Name.pascal field.name ++ "(" ++ "value" ++ ") => \x7b" =
        Name.escaped (Name.snake message.name) ++ "::" ++ Name.pascal oneof.name ++ "::" ++
          Name.pascal field.name ++ "(value) => \x7b" :=
    String.toList_inj.mp (by simp)
  rw [← hpattern]
  rfl

/-- A routine that covers its message handles a field with the body that is made for it. -/
theorem Routine.Covers.handlesWith {handling : Handling}
    {make : Entry → Except Unsupported Block} {routine : Routine}
    (hcovers : routine.Covers { settings } message handling)
    (hmade : List.Forall₂ (fun entry block => make entry = .ok block) message.entries
      routine.blocks)
    (hwell : message.WellFormed names) (hfield : field ∈ message.fields)
    (hmember : field.oneof = none → make (.member field) = .ok (.member field true body))
    (hchoice : ∀ oneof block, field ∈ message.alternatives oneof → make (.choice oneof) = .ok block →
      ∃ before arms after, .choice oneof before arms after = block ∧ ⟨field, body⟩ ∈ arms) :
    routine.HandlesWith settings message field body where
  standalone hone := by
    have hentry : .member field ∈ message.entries := List.mem_append_left _
      (List.mem_map_of_mem (Message.mem_standalone.mpr ⟨hfield, hone⟩))
    obtain ⟨block, hblock, hmade⟩ := exists_mem_of_forall₂ hmade.flip hentry
    rw [hmember hone] at hmade
    obtain rfl := Except.ok.inj hmade
    rw [← Block.steps_of_guarded]
    exact ⟨hblock, Routine.standsIn_steps hblock (StandsIn.self _)⟩
  alternative name hone := by
    obtain ⟨oneof, honeof, rfl⟩ := hwell.member_declared field hfield name hone
    have hentry : .choice oneof ∈ message.entries :=
      List.mem_append_right _ (List.mem_map_of_mem honeof)
    obtain ⟨block, hblock, hmade⟩ := exists_mem_of_forall₂ hmade.flip hentry
    have halternative : field ∈ message.alternatives oneof :=
      Message.mem_alternatives.mpr ⟨hfield, hone⟩
    obtain ⟨before, arms, after, rfl, harm⟩ := hchoice oneof block halternative hmade
    rw [← Arm.steps_eq]
    exact ⟨⟨oneof, honeof, rfl, before, arms, after, hblock, harm⟩,
      Routine.standsIn_steps hblock (Arm.standsIn_steps before after harm)⟩
  once := hcovers.field_once field hfield

theorem exists_ofKind?_of_message (optional : Bool) (hkind : field.kind = .message type) :
    ∃ declared, FieldType.ofKind? optional field.kind = some declared ∧
      field.isGuarded declared = true := by
  refine ⟨⟨"Option<Box<" ++ type ++ ">>", false⟩, by rw [hkind]; rfl, ?_⟩
  rw [Field.isGuarded, hkind]
  rfl

theorem Json.node_of_message (hkind : field.kind = .message type) :
    node { settings } message field (.borrowed "value") =
      .ok ("value" ++ "." ++ settings.jsonMethod ++ "()") := by
  rw [node, hkind]
  rfl

/-- The line that inserts the node of a message into a map. -/
theorem Json.insertion_call (settings : Settings) (map key : String) :
    insertion map key ("value" ++ "." ++ settings.jsonMethod ++ "()") =
      map ++ ".insert(" ++ Text.quote key ++ ".to_string(), value." ++ settings.jsonMethod ++
        "());" :=
  String.toList_inj.mp (by simp [insertion])

theorem Json.memberBlock_of_message (hweak : field.weak = false)
    (hkind : field.kind = .message type) (hone : field.oneof = none) :
    memberBlock { settings } message field = .ok (.member field true (callSteps settings field)) := by
  obtain ⟨declared, hdeclared, hguarded⟩ := exists_ofKind?_of_message field.optional hkind
  refine memberBlock_eq_ok_iff.mpr
    ⟨declared, "value" ++ "." ++ settings.jsonMethod ++ "()",
      fieldType_eq_ok_iff.mpr ⟨hweak, hdeclared⟩, ?_, ?_⟩
  · rw [hguarded]
    exact node_of_message hkind
  · rw [hguarded, insertion_call, callSteps, hone]
    rfl

theorem Json.armBody_of_message (hweak : field.weak = false) (hkind : field.kind = .message type)
    {name : String} (hone : field.oneof = some name) :
    armBody { settings } message field (Context.boundValue { settings }) =
      .ok (callSteps settings field) := by
  obtain ⟨declared, hdeclared, _⟩ := exists_ofKind?_of_message field.optional hkind
  refine armBody_eq_ok_iff.mpr
    ⟨declared, _, fieldType_eq_ok_iff.mpr ⟨hweak, hdeclared⟩, node_of_message hkind, ?_⟩
  rw [insertion_case, insertion_call, callSteps, hone]
  rfl

/-- The JSON routine handles a field that holds a message with a call. -/
theorem Json.handlesWith_of_message {routine : Routine} (hwell : message.WellFormed names)
    (h : Json.routine { settings } message = .ok routine) (hfield : field ∈ message.fields)
    (hweak : field.weak = false) (hkind : field.kind = .message type) :
    routine.HandlesWith settings message field (callSteps settings field) := by
  refine (covers_of_routine_eq_ok hwell h).handlesWith (blocks_of_routine_eq_ok h) hwell hfield
    (memberBlock_of_message hweak hkind) ?_
  intro oneof block halternative hmade
  obtain ⟨arms, harms, rfl⟩ := choiceBlock_eq_ok_iff.mp hmade
  have hone : field.oneof = some oneof.name := (Message.mem_alternatives.mp halternative).2
  exact ⟨_, arms, _, rfl, Oneof.mem_arms_of_body harms halternative
    (armBody_of_message hweak hkind hone)⟩

theorem Literal.lines_of_message (label wrapper type : String) :
    lines { settings } label wrapper (.borrowed "value") (.nested type) =
      dumpSteps settings label wrapper type := by
  rw [lines_nested_eq, dumpSteps]
  simp only [List.cons.injEq, Step.line.injEq, and_true]
  exact ⟨String.toList_inj.mp (by simp), String.toList_inj.mp (by simp [Operand.expr]),
    String.toList_inj.mp (by simp)⟩

theorem Literal.form?_of_message (hkind : field.kind = .message type) :
    form? field.kind = some (.nested type) := by
  rw [hkind]
  rfl

theorem Literal.memberBlock_of_message (hweak : field.weak = false)
    (hkind : field.kind = .message type) (hone : field.oneof = none) :
    memberBlock { settings } message field =
      .ok (.member field true (callSteps settings type field)) := by
  obtain ⟨declared, hdeclared, hguarded⟩ := exists_ofKind?_of_message field.optional hkind
  refine memberBlock_eq_ok_iff.mpr ⟨.nested type, declared,
    form_eq_ok_iff.mpr ⟨hweak, form?_of_message hkind⟩,
    (FieldType.resolve_eq_ok_iff hweak).mpr hdeclared, ?_⟩
  rw [hguarded, callSteps, hone, ← lines_of_message]
  rfl

theorem Literal.armBody_of_message (hweak : field.weak = false)
    (hkind : field.kind = .message type) (hone : field.oneof = some oneof.name) :
    armBody { settings } message oneof field (Context.boundValue { settings }) =
      .ok (callSteps settings type field) := by
  obtain ⟨declared, hdeclared, _⟩ := exists_ofKind?_of_message field.optional hkind
  refine armBody_eq_ok_iff.mpr ⟨.nested type, declared,
    form_eq_ok_iff.mpr ⟨hweak, form?_of_message hkind⟩,
    (FieldType.resolve_eq_ok_iff hweak).mpr hdeclared, ?_⟩
  rw [callSteps, hone]
  exact lines_of_message _ _ _

/-- The literal routine handles a field that holds a message with a call. -/
theorem Literal.handlesWith_of_message {routine : Routine} (hwell : message.WellFormed names)
    (h : Literal.routine { settings } message = .ok routine) (hfield : field ∈ message.fields)
    (hweak : field.weak = false) (hkind : field.kind = .message type) :
    routine.HandlesWith settings message field (callSteps settings type field) := by
  refine (covers_of_routine_eq_ok hwell h).handlesWith (blocks_of_routine_eq_ok h) hwell hfield
    (memberBlock_of_message hweak hkind) ?_
  intro oneof block halternative hmade
  obtain ⟨arms, harms, rfl⟩ := choiceBlock_eq_ok_iff.mp hmade
  have hone : field.oneof = some oneof.name := (Message.mem_alternatives.mp halternative).2
  exact ⟨_, arms, _, rfl, Oneof.mem_arms_of_body harms halternative
    (armBody_of_message hweak hkind hone)⟩

end

/-! ## Calls and definitions -/

section
variable {messages : List Message} {schema : Schema} {settings : Settings}
variable {files : List OutputFile} {message : Message} {field : Field} {type : String}

/-- The type of a field that holds a message is a message of the schema. -/
theorem Schema.exists_get?_of_kind (hlink : Schema.link messages = .ok schema)
    (hmem : message ∈ schema.messages) (hfield : field ∈ message.fields)
    (hkind : field.kind = .message type) :
    ∃ target, schema.get? type = some target ∧ target ∈ schema.messages ∧ target.name = type := by
  have hwell := Schema.wellFormed_of_link_eq_ok hlink hmem
  obtain ⟨hlinkable, rfl⟩ := Schema.link_eq_ok_iff.mp hlink
  have hknown := hwell.mentions_known field hfield type (hkind ▸ .message)
  obtain ⟨target, htarget, hname⟩ := List.mem_map.mp hknown
  exact ⟨target, (get?_eq_some_iff hlinkable.names_nodup).mpr ⟨htarget, hname⟩, htarget, hname⟩

/-- Each message of a schema has one file. -/
theorem Schema.countP_files (hnodup : (messages.map (·.name)).Nodup)
    (hmem : message ∈ messages) :
    (messages.map (·.file settings)).countP (fun file => file.message = message.name) = 1 := by
  have hcount : (messages.map (·.name)).count message.name = 1 :=
    List.count_eq_one_of_mem hnodup (List.mem_map_of_mem hmem)
  rw [List.count, List.countP_map] at hcount
  rw [List.countP_map, ← hcount]
  rfl

end

namespace Sample

/-- Settings with a path that begins the definition of a method on its second line. -/
def cut : Settings where
  jsonCrate := "X\npub fn to_json(&self) -> Y"

theorem exists_generate_cut : ∃ files, Schema.generate cut ⟨[photo, post]⟩ = .ok files := by
  obtain ⟨files, hfiles⟩ := faultOf?_eq_none_iff.mp generate_photo_post
  obtain ⟨_, hsources, _⟩ := Schema.generate_eq_ok_iff.mp hfiles
  -- whether there is source for a message does not depend on the settings
  have hcut : ∀ message ∈ [photo, post], ∃ source, message.generate cut = .ok source := by
    intro message hmem
    exact Message.generate_succeeds_iff.mpr (Message.generate_succeeds_iff.mp (hsources message hmem))
  exact ⟨_, Schema.generate_eq_ok_iff.mpr ⟨rfl, hcut, rfl⟩⟩

/-- How the file of `photo` begins with these settings. -/
def firstLines : List (List Char) :=
  photo.headerLines ++ ("impl " ++ photo.name ++ " \x7b").toList ::
    ["/// Builds the JSON node tree of this `Photo`.".toList, "pub fn to_json(&self) -> X".toList,
      "pub fn to_json(&self) -> Y::Value \x7b".toList].map (moved 1)

theorem exists_firstLines {source : String} (h : photo.generate cut = .ok source) :
    ∃ rest, (photo.header ++ source).toList = Text.unlines firstLines ++ rest := by
  obtain ⟨json, literal, hjson, _, rfl⟩ := Message.generate_eq_ok_iff.mp h
  have hsummary : json.summary = "/// Builds the JSON node tree of this `Photo`." :=
    Json.summary_of_routine_eq_ok hjson
  have hbreak : Text.NoBreak json.summary.toList := by
    rw [hsummary]
    decide
  obtain ⟨more, hmore⟩ := Routine.exists_lines_steps { settings := cut } photo hbreak
  -- the signature is two lines, of which the second begins like the first
  have hsignature : json.signature.toList = "pub fn to_json(&self) -> X".toList ++
      '\n' :: "pub fn to_json(&self) -> Y::Value \x7b".toList := by
    rw [Json.signature_of_routine_eq_ok hjson]
    decide
  have hfirst : Text.NoBreak "pub fn to_json(&self) -> X".toList := by decide
  have hsecond : Text.NoBreak "pub fn to_json(&self) -> Y::Value \x7b".toList := by decide
  rw [hsummary, hsignature, List.append_assoc, List.cons_append,
    Text.lines_append_cons hfirst.unbroken, Text.lines_append_cons hsecond.unbroken] at hmore
  rw [String.toList_append, Message.toList_header, Message.toList_textOf_implSteps, hmore,
    ← Text.unlines_append]
  refine ⟨Text.unlines ((((Text.lines (String.ofList more)).map String.toList ++ ([[]] ++
    (Text.lines (Source.textOf (literal.steps { settings := cut } photo))).map String.toList)).map
      (moved 1)) ++ ["\x7d".toList]), ?_⟩
  rw [← Text.unlines_append]
  simp only [firstLines, List.map_cons, List.map_nil, List.map_append, String.toList_ofList,
    List.append_assoc, List.cons_append, List.nil_append]

theorem two_le_definitions {source : String} (h : photo.generate cut = .ok source) :
    2 ≤ (Source.definitionsOf "to_json" (photo.header ++ source)).length := by
  obtain ⟨rest, hrest⟩ := exists_firstLines h
  have hbreak : ∀ line ∈ firstLines, Text.NoBreak line := by decide
  have hlines : Text.lines (photo.header ++ source) =
      firstLines.map String.ofList ++ Text.lines (String.ofList rest) := by
    rw [← Text.lines_unlines_append hbreak, ← hrest, String.ofList_toList]
  have hfirst : ((firstLines.map String.ofList).filter fun line =>
      ("    pub fn " ++ "to_json" ++ "(&self").toList.isPrefixOf line.toList).length = 2 := by decide
  rw [Source.definitionsOf, hlines, List.filter_append, List.length_append, hfirst]
  omega

end Sample

end MessageDump
