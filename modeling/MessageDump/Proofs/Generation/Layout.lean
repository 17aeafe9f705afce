import MessageDump.Proofs.Generation.Files
import MessageDump.Proofs.Routine.Layout
/-! # Generated source is well indented

Every generated file is well indented, for all messages of a linked schema: at each
of its lines the indentation agrees with the blocks that are open there, as far as
these can be told from the lines themselves (`Schema.generate_wellIndented`).  JSON
names do not matter for this, nor do the texts of the settings, with one exception:
the path of the JSON library stands at the start of some lines, so that it must not
hold white space or braces.  The writers behind the files close each block that they
open, and nothing else, whatever the names are.
-/
namespace MessageDump

open Source (Context Operand Step Nested Part Closed Layout WellIndented)

section
variable {ctx : Context} {message : Message} {settings : Settings}

/-- The lines at the head of a file. -/
def Message.headerLines (message : Message) : List (List Char) :=
  ["// @generated by protodump. Do not edit.".toList, ("// Message: " ++ message.name).toList, []]

theorem toList_headerStart :
    "// @generated by protodump. Do not edit.\n// Message: ".toList =
      "// @generated by protodump. Do not edit.".toList ++ '\n' :: "// Message: ".toList := by
  simp

theorem Message.toList_header : message.header.toList = Text.unlines message.headerLines := by
  have hback : "\n\n".toList = ['\n', '\n'] := by simp
  unfold header headerLines
  rw [String.toList_append, String.toList_append, toList_headerStart, hback]
  simp only [String.toList_append, Text.unlines_cons, Text.unlines_nil, List.append_assoc,
    List.cons_append, List.nil_append]

theorem Message.headerLines_layout (h : Name.isIdentifier message.name = true) :
    Layout [.line "// @generated by protodump. Do not edit.", .line ("// Message: " ++ message.name),
      .blank] message.headerLines := by
  have hend : Source.endsPlain message.name.toList = true := by
    cases hlast : message.name.toList.getLast? with
    | none =>
      have hempty := String.toList_eq_nil_iff.mp (List.getLast?_eq_none_iff.mp hlast)
      exact absurd hempty (Name.ne_empty_of_isIdentifier h)
    | some last =>
      have hpart := Name.isPart_of_mem h (List.mem_of_getLast? hlast)
      have hne : last ≠ '\x7b' := by
        rintro rfl
        exact absurd hpart (by decide)
      simp [Source.endsPlain, hlast, hne]
  have hfirst : (Step.line "// @generated by protodump. Do not edit.").Faithful :=
    ⟨'/', '.', ⟨by decide, rfl, rfl⟩, by decide, by decide, by decide⟩
  have hsecond : (Step.line ("// Message: " ++ message.name)).Faithful :=
    Source.Step.faithful_line (by decide) hend (by simp [Name.noBreak h])
  exact (Layout.line hfirst).append ((Layout.line hsecond).append Layout.blank)

theorem Message.implSteps_nested {json literal : List Step}
    (hjson : Nested (message.Writable ctx) json) (hliteral : Nested (message.Writable ctx) literal) :
    Nested (message.Writable ctx) (message.implSteps json literal) := by
  refine block_nested (fun h => ?_) (.nest hjson (.blank (.nest hliteral .nil)))
  exact Source.Step.faithful_enter (by simp) (by decide) (by simp [Name.noBreak h.name])

/-- **The file of a message is well indented**, if the names are in order. -/
theorem Message.wellIndented_of_generate (h : message.Orderly { settings }) {source : String}
    (hsource : message.generate settings = .ok source) :
    WellIndented (message.header ++ source) := by
  obtain ⟨json, literal, hjson, hliteral, rfl⟩ := generate_eq_ok_iff.mp hsource
  have hnested := message.implSteps_nested
    (Json.steps_nested (Json.steps_eq_ok_iff.mpr ⟨json, hjson, rfl⟩))
    (Literal.steps_nested (Literal.steps_eq_ok_iff.mpr ⟨literal, hliteral, rfl⟩))
  obtain ⟨ls, hlayout⟩ := (hnested.imp fun _ hstep => hstep h).exists_layout
  refine ((headerLines_layout h.name).append hlayout).wellIndented ?_
  rw [String.toList_append, toList_header, hlayout.writes.toList_textOf, Text.unlines_append]

end

/-! ## Messages of a linked schema -/

section
variable {messages : List Message} {schema : Schema} {settings : Settings} {message : Message}

theorem Settings.isIdentifier_of_validate (h : settings.validate = .ok ()) :
    Name.isIdentifier settings.jsonMethod = true ∧ Name.isIdentifier settings.literalMethod = true ∧
      settings.jsonCrate ≠ "" := by
  obtain ⟨hfaults, _⟩ := unlessFaulty_eq_ok.mp h
  simp only [faults, nameFaults, List.append_eq_nil_iff, faultIf_eq_nil, Bool.not_eq_eq_eq_not,
    Bool.not_false] at hfaults
  obtain ⟨⟨⟨⟨⟨hjson, _⟩, hliteral, _⟩, _⟩, _⟩, hcrate⟩ := hfaults
  refine ⟨hjson, hliteral, fun hempty => ?_⟩
  rw [hempty] at hcrate
  exact absurd hcrate (by decide)

theorem Schema.isIdentifier_of_kind_eq_message (hlink : Schema.link messages = .ok schema)
    (hmem : message ∈ schema.messages) :
    ∀ field ∈ message.fields, ∀ type, field.kind = .message type →
      Name.isIdentifier type = true := by
  intro field hfield type hkind
  have hwell := Schema.wellFormed_of_link_eq_ok hlink hmem
  have hknown := hwell.mentions_known field hfield type (hkind ▸ .message)
  obtain ⟨other, hother, rfl⟩ := List.mem_map.mp hknown
  exact (Schema.wellFormed_of_link_eq_ok hlink hother).name_identifier

theorem Schema.orderly_of_link (hlink : Schema.link messages = .ok schema)
    (hvalid : settings.validate = .ok ())
    (hcrate : ∀ c ∈ settings.jsonCrate.toList, Text.isBlank c = false ∧ c ≠ '\x7b' ∧ c ≠ '\x7d')
    (hmem : message ∈ schema.messages) : message.Orderly { settings } := by
  have hwell := Schema.wellFormed_of_link_eq_ok hlink hmem
  obtain ⟨hjson, hliteral, hempty⟩ := Settings.isIdentifier_of_validate hvalid
  exact ⟨rfl, hjson, hliteral, hempty, hcrate, hwell.name_identifier, hwell.field_identifier,
    hwell.oneof_identifier, Schema.isIdentifier_of_kind_eq_message hlink hmem⟩

end

/-! ## All writers -/

/-- The `match` over a oneof is closed, whatever its arms hold. -/
theorem Oneof.matchSteps_closed (ctx : Context) (message : Message) (oneof : Oneof)
    (arms : List Arm) : Closed (oneof.matchSteps ctx message arms) := by
  exact .block _ _ (.flatMap fun arm _ => .block _ _ (.nest arm.body))

/-- **Generated source is well indented**, for every schema that is linked and all
settings that pass their check, if the path of the JSON library holds no white space
and no brace.  And every writer closes the blocks that it opens and no others: the
one of a message and those of its routines, with all writers whose texts they nest,
and that of the `match` over a oneof with any arms. -/
theorem Schema.generate_wellIndented :
    (∀ (messages : List Message) (schema : Schema) (settings : Settings) (files : List OutputFile),
      Schema.link messages = .ok schema → settings.validate = .ok () →
      (∀ c ∈ settings.jsonCrate.toList, Text.isBlank c = false ∧ c ≠ '\x7b' ∧ c ≠ '\x7d') →
      schema.generate settings = .ok files → ∀ file ∈ files, WellIndented file.content) ∧
    (∀ (ctx : Context) (message : Message) (json : List Step), Json.steps ctx message = .ok json →
      ∀ part, Part part json → Closed part) ∧
    (∀ (ctx : Context) (message : Message) (literal : List Step),
      Literal.steps ctx message = .ok literal → ∀ part, Part part literal → Closed part) ∧
    (∀ (ctx : Context) (message : Message) (json literal : List Step),
      Json.steps ctx message = .ok json → Literal.steps ctx message = .ok literal →
      ∀ part, Part part (message.implSteps json literal) → Closed part) ∧
    ∀ (ctx : Context) (message : Message) (oneof : Oneof)
      (body : Field → Operand → Except Unsupported (List Step)) (steps : List Step),
      oneof.dispatch ctx message body = .ok steps → Closed steps := by
  refine ⟨?files, ?json, ?literal, ?message, ?dispatch⟩
  case files =>
    intro messages schema settings files hlink hvalid hcrate hfiles file hfile
    obtain ⟨message, hmem, source, hsource, rfl⟩ := exists_mem_of_forall₂
      (outputFiles_eq_ok_iff.mp (outputFiles_of_generate hfiles)) hfile
    exact Message.wellIndented_of_generate (orderly_of_link hlink hvalid hcrate hmem) hsource
  case json =>
    intro ctx message json hjson part hpart
    exact ((Json.steps_nested hjson).of_part hpart).closed
  case literal =>
    intro ctx message literal hliteral part hpart
    exact ((Literal.steps_nested hliteral).of_part hpart).closed
  case message =>
    intro ctx message json literal hjson hliteral part hpart
    have hnested := message.implSteps_nested (Json.steps_nested hjson)
      (Literal.steps_nested hliteral)
    exact (hnested.of_part hpart).closed
  case dispatch =>
    intro ctx message oneof body steps hsteps
    obtain ⟨arms, _, hmade⟩ := bind_eq_ok.mp hsteps
    obtain rfl := pure_eq_ok.mp hmade
    exact oneof.matchSteps_closed ctx message arms

namespace Sample

theorem generate_photo_post : faultOf? (Schema.generate {} ⟨[photo, post]⟩) = none := by rfl

theorem steps_post : faultOf? (Json.steps {} post) = none ∧ faultOf? (Literal.steps {} post) = none :=
  ⟨rfl, rfl⟩

theorem jsonCrate_default : ∀ c ∈ ({} : Settings).jsonCrate.toList,
    Text.isBlank c = false ∧ c ≠ '\x7b' ∧ c ≠ '\x7d' := by
  have hall : (({} : Settings).jsonCrate.toList.all fun c =>
    !Text.isBlank c && c ≠ '\x7b' && c ≠ '\x7d') = true := rfl
  simpa [and_assoc] using hall

/-- Arms that open a block and do not close it. -/
def openArm (_ : Field) (_ : Operand) : Except Unsupported (List Step) := .ok [.enter "\x7b"]

end Sample

/-- The files of `photo` and `post` are well indented, and the `match` over the oneof
of `post` is closed even around arms that are not. -/
theorem Sample.photo_post_wellIndented :
    (∃ files, Schema.link [photo, post] = .ok ⟨[photo, post]⟩ ∧ Settings.validate {} = .ok () ∧
      Schema.generate {} ⟨[photo, post]⟩ = .ok files ∧ ∀ file ∈ files, WellIndented file.content) ∧
    (∃ json literal, Json.steps {} post = .ok json ∧ Literal.steps {} post = .ok literal ∧
      Closed json ∧ Closed literal ∧
      ∀ part, Part part (post.implSteps json literal) → Closed part) ∧
    ∃ steps, Oneof.dispatch {} post ⟨"rich_body"⟩ openArm = .ok steps ∧ Closed steps := by
  obtain ⟨hfiles, hjson, hliteral, hmessage, hdispatch⟩ := Schema.generate_wellIndented
  refine ⟨?files, ?writers, ?dispatch⟩
  case files =>
    obtain ⟨files, hgenerate⟩ := faultOf?_eq_none_iff.mp generate_photo_post
    refine ⟨files, link_eq_ok, validate_default, hgenerate, ?_⟩
    exact hfiles _ _ {} files link_eq_ok validate_default jsonCrate_default hgenerate
  case writers =>
    obtain ⟨json, hmadejson⟩ := faultOf?_eq_none_iff.mp steps_post.1
    obtain ⟨literal, hmadeliteral⟩ := faultOf?_eq_none_iff.mp steps_post.2
    exact ⟨json, literal, hmadejson, hmadeliteral, hjson _ _ json hmadejson _ (.self _),
      hliteral _ _ literal hmadeliteral _ (.self _),
      hmessage _ _ json literal hmadejson hmadeliteral⟩
  case dispatch =>
    obtain ⟨steps, hsteps⟩ := faultOf?_eq_none_iff.mp
      (show faultOf? (Oneof.dispatch {} post ⟨"rich_body"⟩ openArm) = none from rfl)
    exact ⟨steps, hsteps, hdispatch _ _ _ openArm steps hsteps⟩

end MessageDump
