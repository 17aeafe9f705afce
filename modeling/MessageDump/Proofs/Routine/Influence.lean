import MessageDump.Proofs.Routine.Wording
/-! # What has an influence on which routine

The two routines of a message are made with the same settings, the same local names and
the same message, but each reads only a part of these.  The JSON routine takes its own
name and the path of the JSON library from the settings, the literal routine its own name
and the unit of indentation, and the JSON names of the fields stand in the JSON routine
alone.  So a change to what only one routine reads leaves the other as it was.  Whether a
routine can be made at all depends on neither, but on the kinds of the fields
(`Message.routines_do_not_interfere`).

Messages that differ in their JSON names are compared by what is left of them without
these: the blocks made for them still differ in the fields that they handle, and have the
same steps.
-/
namespace MessageDump

open Source (Context Locals Operand Step)

/-- The JSON name is all in which two fields differ. -/
def Field.SameButJsonName (field other : Field) : Prop :=
  other = { field with jsonName := other.jsonName }

/-- The JSON names of the fields are all in which two messages differ.  Any of the fields
may have another one, and fields that were the same need not stay so. -/
structure Message.SameButJsonNames (message other : Message) : Prop where
  name : other.name = message.name
  oneofs : other.oneofs = message.oneofs
  fields : List.Forall₂ Field.SameButJsonName message.fields other.fields

/-- The wording without JSON names. -/
def Wording.blank : Wording := ⟨fun _ => "", ""⟩

section
variable {α β γ φ : Type}

/-- Making a list of results and then changing each is changing each as it is made. -/
theorem map_mapM {f : α → Except φ β} {g : β → γ} {items : List α} :
    List.map g <$> items.mapM f = items.mapM fun item => g <$> f item := by
  induction items with
  | nil => rfl
  | cons item rest ih =>
    rw [List.mapM_cons, List.mapM_cons, ← ih]
    simp only [map_bind, map_pure, bind_map_left, List.map_cons]

/-- Results that agree in one respect agree in any other that follows from it. -/
theorem map_eq_map_of_map_eq {δ : Type} {x : Except φ α} {y : Except φ β} {g : α → γ} {g' : β → γ}
    {f : α → δ} {f' : β → δ} (h : g <$> x = g' <$> y) (hf : ∀ a b, g a = g' b → f a = f' b) :
    f <$> x = f' <$> y := by
  cases x with
  | error fault =>
    cases y with
    | error fault' =>
      cases h
      rfl
    | ok b => cases h
  | ok a =>
    cases y with
    | error fault => cases h
    | ok b => exact congrArg Except.ok (hf a b (Except.ok.inj h))

end

/-! ## The settings -/

section
variable {ctx ctx' : Context} {message : Message}

/-- The JSON routine reads two of the settings. -/
theorem Json.steps_congr (hmethod : ctx.settings.jsonMethod = ctx'.settings.jsonMethod)
    (hcrate : ctx.settings.jsonCrate = ctx'.settings.jsonCrate) (hlocals : ctx.locals = ctx'.locals) :
    Json.steps ctx message = Json.steps ctx' message := by
  obtain ⟨⟨method, _, _, crate⟩, locals⟩ := ctx
  obtain ⟨⟨method', _, _, crate'⟩, locals'⟩ := ctx'
  obtain rfl : method = method' := hmethod
  obtain rfl : crate = crate' := hcrate
  obtain rfl : locals = locals' := hlocals
  rfl

/-- The literal routine reads the other two. -/
theorem Literal.steps_congr (hmethod : ctx.settings.literalMethod = ctx'.settings.literalMethod)
    (hunit : ctx.settings.indentUnit = ctx'.settings.indentUnit)
    (hlocals : ctx.locals = ctx'.locals) :
    Literal.steps ctx message = Literal.steps ctx' message := by
  obtain ⟨⟨_, method, unit, _⟩, locals⟩ := ctx
  obtain ⟨⟨_, method', unit', _⟩, locals'⟩ := ctx'
  obtain rfl : method = method' := hmethod
  obtain rfl : unit = unit' := hunit
  obtain rfl : locals = locals' := hlocals
  rfl

/-- No setting and no local name decides whether a message is generated. -/
theorem Message.generate_eq_error_congr (settings settings' : Settings) (fault : Unsupported) :
    message.generate settings = .error fault ↔ message.generate settings' = .error fault := by
  rw [← faultOf?_eq_some_iff, ← faultOf?_eq_some_iff, Message.faultOf?_generate,
    Message.faultOf?_generate, Json.faultOf?_steps, Json.faultOf?_steps]

end

/-! ## The JSON names -/

section
variable {ctx : Context} {message : Message} {field : Field} {oneof : Oneof} (w : Wording)

theorem Message.SameButJsonNames.reworded_eq {other : Message} (h : message.SameButJsonNames other) :
    other.reworded .blank = message.reworded .blank := by
  have hfields : message.fields.map (·.reworded .blank) = other.fields.map (·.reworded .blank) := by
    refine map_eq_map_of_forall₂ h.fields fun field other hsame => ?_
    rw [hsame]
    rfl
  rw [Message.reworded, Message.reworded, h.name, h.oneofs, hfields]

theorem Message.subjects_reworded :
    (message.reworded w).subjects = message.subjects.map (·.reworded w) := by
  rw [Message.subjects, Message.subjects, Message.standalone_reworded, List.map_append,
    List.map_flatMap]
  exact congrArg _ (List.flatMap_congr fun oneof _ => Message.alternatives_reworded w)

/-- A field is rejected whatever its JSON name is. -/
theorem Message.findSome?_rejection?_reworded (refusal? : Kind → Option Stage) :
    (message.reworded w).subjects.findSome? (Field.rejection? refusal? (message.reworded w)) =
      message.subjects.findSome? (Field.rejection? refusal? message) := by
  rw [Message.subjects_reworded, List.findSome?_map]
  rfl

/-- The steps of the block of a oneof are made of those of its arms. -/
theorem Block.steps_choice_congr {message' : Message} {before after : List Step}
    {arms arms' : List Arm}
    (harms : arms'.map (Arm.steps ctx message' oneof) = arms.map (Arm.steps ctx message oneof)) :
    (Block.choice oneof before arms' after).steps ctx message' =
      (Block.choice oneof before arms after).steps ctx message := by
  simp only [Block.steps, Oneof.matchSteps, List.flatMap_def, harms]

/-- The steps of a routine are made of those of its blocks. -/
theorem Routine.steps_congr {message' : Message} {routine routine' : Routine}
    (hframe : { routine with blocks := routine'.blocks } = routine')
    (hblocks : routine'.blocks.map (Block.steps ctx message') =
      routine.blocks.map (Block.steps ctx message)) :
    routine'.steps ctx message' = routine.steps ctx message := by
  have hempty : routine'.blocks.isEmpty = routine.blocks.isEmpty := by
    simpa using congrArg List.isEmpty hblocks
  have hbody : routine'.body ctx message' = routine.body ctx message := by
    simpa [body, Function.comp_def] using congrArg (List.map Step.nest) hblocks
  rw [steps, steps, hempty, hbody, ← hframe]

namespace Literal

theorem steps_memberBlock_reworded :
    Block.steps ctx (message.reworded w) <$>
        memberBlock ctx (message.reworded w) (field.reworded w) =
      Block.steps ctx message <$> memberBlock ctx message field := by
  simp only [memberBlock, map_bind, map_pure]
  rfl

theorem steps_arms_reworded :
    List.map (Arm.steps ctx (message.reworded w) oneof) <$>
        oneof.arms ctx (message.reworded w) (armBody ctx (message.reworded w) oneof) =
      List.map (Arm.steps ctx message oneof) <$>
        oneof.arms ctx message (armBody ctx message oneof) := by
  rw [Oneof.arms, Oneof.arms, Message.alternatives_reworded, List.mapM_map, map_mapM, map_mapM]
  simp only [armBody, map_bind, map_pure, bind_assoc, Function.comp_def]
  rfl

theorem steps_choiceBlock_reworded :
    Block.steps ctx (message.reworded w) <$> choiceBlock ctx (message.reworded w) oneof =
      Block.steps ctx message <$> choiceBlock ctx message oneof := by
  simp only [choiceBlock, bind_pure_comp, Functor.map_map]
  exact map_eq_map_of_map_eq (steps_arms_reworded w) fun _ _ => Block.steps_choice_congr

theorem steps_blocks_reworded :
    List.map (Block.steps ctx (message.reworded w)) <$>
        (message.reworded w).entries.mapM (block ctx (message.reworded w)) =
      List.map (Block.steps ctx message) <$> message.entries.mapM (block ctx message) := by
  rw [Message.entries_reworded, List.mapM_map, map_mapM, map_mapM]
  refine congrArg (List.mapM · message.entries) (funext fun entry => ?_)
  cases entry with
  | member field => exact steps_memberBlock_reworded w
  | choice oneof => exact steps_choiceBlock_reworded w

/-- **The literal routine does not read the JSON names.** -/
theorem steps_reworded : Literal.steps ctx (message.reworded w) = Literal.steps ctx message := by
  simp only [Literal.steps, routine, bind_pure_comp, Functor.map_map]
  refine map_eq_map_of_map_eq (steps_blocks_reworded w) fun made blocks hblocks => ?_
  exact Routine.steps_congr rfl hblocks

end Literal
end

/-- **What only one routine reads has no influence on the other, and neither on whether
the routines can be made.**  For any local names, the JSON routine comes out the same with
all settings that agree on its name and on the path of the JSON library, and the literal
routine with all that agree on its name and on the unit of indentation; other JSON names
leave the literal routine as it is.  A message is generated under all settings or fails
under all with the same fault, and both routines succeed or fail whatever the JSON names
are. -/
theorem Message.routines_do_not_interfere (message : Message) (locals : Locals) :
    (∀ (settings settings' : Settings) (fault : Unsupported),
      message.generate settings = .error fault ↔ message.generate settings' = .error fault) ∧
    (∀ settings settings' : Settings, settings.jsonMethod = settings'.jsonMethod →
      settings.jsonCrate = settings'.jsonCrate →
      Json.steps { settings, locals } message =
        Json.steps { settings := settings', locals } message) ∧
    (∀ settings settings' : Settings, settings.literalMethod = settings'.literalMethod →
      settings.indentUnit = settings'.indentUnit →
      Literal.steps { settings, locals } message =
        Literal.steps { settings := settings', locals } message) ∧
    ∀ (settings : Settings) (other : Message), message.SameButJsonNames other →
      Literal.steps { settings, locals } other = Literal.steps { settings, locals } message ∧
      faultOf? (Json.steps { settings, locals } other) =
        faultOf? (Json.steps { settings, locals } message) := by
  refine ⟨Message.generate_eq_error_congr, ?_, ?_, ?_⟩
  · intro settings settings' hmethod hcrate
    exact Json.steps_congr hmethod hcrate rfl
  · intro settings settings' hmethod hunit
    exact Literal.steps_congr hmethod hunit rfl
  · intro settings other hsame
    have hblank := hsame.reworded_eq
    constructor
    · rw [← Literal.steps_reworded .blank, hblank, Literal.steps_reworded]
    · rw [Json.faultOf?_steps, Json.faultOf?_steps,
        ← other.findSome?_rejection?_reworded .blank, hblank,
        Message.findSome?_rejection?_reworded]

namespace Sample

/-- The message `photo` with another JSON name. -/
def renamedPhoto : Message :=
  { photo with fields := [{ Field.ofName "url" (.scalar .string) with jsonName := "link" }] }

end Sample

/-- Settings of the literal routine leave the JSON routine of `photo` as it is, and the
other way round; and so does another JSON name with the literal routine. -/
theorem Sample.photo_undisturbed :
    Json.steps {} photo =
      Json.steps { settings := { literalMethod := "render", indentUnit := "  " } } photo ∧
    Literal.steps {} photo =
      Literal.steps { settings := { jsonMethod := "to_node", jsonCrate := "json" } } photo ∧
    photo.SameButJsonNames renamedPhoto ∧ renamedPhoto ≠ photo ∧
    Literal.steps {} renamedPhoto = Literal.steps {} photo := by
  have hsame : photo.SameButJsonNames renamedPhoto := ⟨rfl, rfl, .cons rfl .nil⟩
  obtain ⟨_, hjson, hliteral, hnames⟩ := Message.routines_do_not_interfere photo {}
  exact ⟨hjson {} { literalMethod := "render", indentUnit := "  " } rfl rfl,
    hliteral {} { jsonMethod := "to_node", jsonCrate := "json" } rfl rfl, hsame, by decide,
    (hnames {} renamedPhoto hsame).1⟩

end MessageDump
