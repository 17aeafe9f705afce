import MessageDump.Proofs.Name.Casing
import MessageDump.Proofs.Routine.Blocks
import MessageDump.Proofs.Source.Indentation
import MessageDump.Proofs.Text.Quoted
/-! # The lines of a routine

A routine is put together from lines and whole blocks, whatever the message is and
whatever the names are.  What these lines look like does depend on the names: a line
feed in one would break its line, a brace at its end would open a block.  Both are
said at once here: a routine is nested, and each of its lines opens or closes a
block just if its step does, provided that the names are in order
(`Message.Orderly`).  Keys of JSON output need not be, since they are quoted.
-/
namespace MessageDump

open Source (Context Operand Step Nested)
open Text (NoBreak)

/-- The names that get into the source of a message are identifiers, and the path of
the JSON library can stand at the start of a line. -/
structure Message.Orderly (ctx : Context) (message : Message) : Prop where
  locals : ctx.locals = {}
  jsonMethod : Name.isIdentifier ctx.settings.jsonMethod = true
  literalMethod : Name.isIdentifier ctx.settings.literalMethod = true
  json_ne_empty : ctx.json ≠ ""
  json_chars : ∀ c ∈ ctx.json.toList, Text.isBlank c = false ∧ c ≠ '\x7b' ∧ c ≠ '\x7d'
  name : Name.isIdentifier message.name = true
  fields : ∀ field ∈ message.fields, Name.isIdentifier field.name = true
  oneofs : ∀ oneof ∈ message.oneofs, Name.isIdentifier oneof.name = true
  /-- A field that holds a message names its type. -/
  types : ∀ field ∈ message.fields, ∀ type, field.kind = .message type →
    Name.isIdentifier type = true

/-- A step of a routine is faithful, provided that the names are in order. -/
def Message.Writable (ctx : Context) (message : Message) (step : Step) : Prop :=
  message.Orderly ctx → step.Faithful

/-! ## Names in a line -/

section Names
variable {name : String}

theorem Name.noBreak (h : Name.isIdentifier name = true) : NoBreak name.toList :=
  ⟨Name.not_mem_of_isIdentifier h (by decide), Name.not_mem_of_isIdentifier h (by decide)⟩

theorem Name.noBreak_escaped (h : Name.isIdentifier name = true) :
    NoBreak (Name.escaped name).toList :=
  ⟨Name.not_mem_escaped h (by decide) (by decide), Name.not_mem_escaped h (by decide) (by decide)⟩

theorem Name.noBreak_pascal (h : Name.isIdentifier name = true) :
    NoBreak (Name.pascal name).toList :=
  ⟨Name.not_mem_pascal h (by decide), Name.not_mem_pascal h (by decide)⟩

end Names

section Places
variable {ctx : Context} {message : Message} {field : Field} {oneof : Oneof}

theorem Field.noBreak_place (hlocals : ctx.locals = {})
    (h : Name.isIdentifier field.name = true) : NoBreak (field.place ctx).toList := by
  simp [place, Context.member, hlocals, Name.noBreak_escaped h]

theorem Field.noBreak_operand (hlocals : ctx.locals = {})
    (h : Name.isIdentifier field.name = true) (guarded : Bool) :
    NoBreak (field.operand ctx guarded).expr.toList := by
  cases guarded with
  | true => simp [operand, Context.boundValue, Operand.expr, hlocals]
  | false => exact noBreak_place hlocals h

theorem Oneof.noBreak_place (hlocals : ctx.locals = {})
    (h : Name.isIdentifier oneof.name = true) : NoBreak (oneof.place ctx).toList := by
  simp [place, Context.member, hlocals, Name.noBreak_escaped h]

theorem Oneof.noBreak_enumPath (hmessage : Name.isIdentifier message.name = true)
    (h : Name.isIdentifier oneof.name = true) : NoBreak (oneof.enumPath message).toList := by
  simp [enumPath, Name.noBreak_escaped (Name.isIdentifier_snake hmessage), Name.noBreak_pascal h]

end Places

theorem Message.Orderly.noBreak_json {ctx : Context} {message : Message}
    (h : message.Orderly ctx) : NoBreak ctx.json.toList :=
  ⟨fun hmem => absurd (h.json_chars _ hmem).1 (by decide),
    fun hmem => absurd (h.json_chars _ hmem).1 (by decide)⟩

/-! ## Lines between a fixed start and a fixed end -/

namespace Source

/-- The first character of a line neither indents it nor closes a block. -/
def startsPlain (line : List Char) : Bool := line.head?.any fun c => c ≠ ' ' && c ≠ '\x7d'

/-- The last character of a line does not open a block. -/
def endsPlain (line : List Char) : Bool := line.getLast?.any (· ≠ '\x7b')

@[simp] theorem startsPlain_cons (c : Char) (rest : List Char) :
    startsPlain (c :: rest) = (c ≠ ' ' && c ≠ '\x7d' : Bool) := rfl

theorem startsPlain_append {front : String} (h : startsPlain front.toList = true) (back : String) :
    startsPlain (front ++ back).toList = true := by
  rw [String.toList_append]
  cases hfront : front.toList with
  | nil => rw [hfront] at h; cases h
  | cons c rest => rwa [hfront] at h

theorem startsPlain_of_forall_mem {line : List Char} (hne : line ≠ [])
    (h : ∀ c ∈ line, c ≠ ' ' ∧ c ≠ '\x7d') : startsPlain line = true := by
  cases line with
  | nil => exact absurd rfl hne
  | cons c rest => simpa using h c List.mem_cons_self

section
variable {front back : String}

theorem exists_head_of_startsPlain (h : startsPlain front.toList = true) (back : String) :
    ∃ first, (front ++ back).toList.head? = some first ∧ first ≠ ' ' ∧ first ≠ '\x7d' := by
  obtain ⟨first, hfirst, hplain⟩ := (Option.any_eq_true _ _).mp h
  simp only [Bool.and_eq_true, decide_eq_true_eq] at hplain
  refine ⟨first, ?_, hplain⟩
  rw [String.toList_append, List.head?_append, hfirst]
  rfl

theorem Step.faithful_line (hstart : startsPlain front.toList = true)
    (hend : endsPlain back.toList = true) (hbreak : NoBreak (front ++ back).toList) :
    (Step.line (front ++ back)).Faithful := by
  obtain ⟨first, hfirst, hspace, hclose⟩ := exists_head_of_startsPlain hstart back
  obtain ⟨last, hlast, hopen⟩ := (Option.any_eq_true _ _).mp hend
  refine ⟨first, last, ⟨hbreak, hfirst, ?_⟩, hspace, hclose, by simpa using hopen⟩
  rw [String.toList_append, List.getLast?_append, hlast]
  rfl

theorem Step.faithful_enter (hstart : startsPlain front.toList = true)
    (hend : opensBlock back.toList = true) (hbreak : NoBreak (front ++ back).toList) :
    (Step.enter (front ++ back)).Faithful := by
  obtain ⟨first, hfirst, hspace, hclose⟩ := exists_head_of_startsPlain hstart back
  refine ⟨first, ⟨hbreak, hfirst, ?_⟩, hspace, hclose⟩
  rw [String.toList_append, List.getLast?_append, of_decide_eq_true hend]
  rfl

theorem Step.faithful_brace : (Step.leave "\x7d").Faithful :=
  ⟨'\x7d', ⟨by decide, rfl, rfl⟩, by decide⟩

end
end Source

/-! ## Blocks -/

section
variable {ctx : Context} {message : Message} {field : Field} {oneof : Oneof}

namespace Message.Orderly

theorem startsPlain_json (h : message.Orderly ctx) : Source.startsPlain ctx.json.toList = true := by
  refine Source.startsPlain_of_forall_mem (mt String.toList_eq_nil_iff.mp h.json_ne_empty) ?_
  intro c hc
  obtain ⟨hblank, _, hclose⟩ := h.json_chars c hc
  refine ⟨?_, hclose⟩
  rintro rfl
  exact absurd hblank (by decide)

/-- The name of a module is an identifier, or the raw form of one. -/
theorem startsPlain_module (h : message.Orderly ctx) :
    Source.startsPlain (Name.escaped (Name.snake message.name) ++ "::").toList = true := by
  refine Source.startsPlain_of_forall_mem (by simp) fun c hc => ?_
  have hsnake := Name.isIdentifier_snake h.name
  rw [String.toList_append, List.mem_append] at hc
  constructor
  · rintro rfl
    exact hc.elim (Name.not_mem_escaped hsnake (by decide) (by decide)) (by decide)
  · rintro rfl
    exact hc.elim (Name.not_mem_escaped hsnake (by decide) (by decide)) (by decide)

end Message.Orderly

/-- All blocks of a routine end in the same line. -/
theorem Message.block_nested {opening : String} {inside : List Step}
    (hopening : message.Writable ctx (.enter opening))
    (hinside : Nested (message.Writable ctx) inside) :
    Nested (message.Writable ctx) (Source.block opening inside "\x7d") :=
  .wrapped hopening hinside fun _ => Source.Step.faithful_brace

theorem writable_guardLine {name place : String}
    (h : message.Orderly ctx → NoBreak name.toList ∧ NoBreak place.toList) :
    message.Writable ctx (.enter (guardLine name place)) := by
  intro horderly
  obtain ⟨hname, hplace⟩ := h horderly
  exact Source.Step.faithful_enter (by simp) (by decide) (by simp [hname, hplace])

theorem Arm.writable_opening (arm : Arm) (honeof : oneof ∈ message.oneofs)
    (halternative : arm.alternative ∈ message.fields) :
    message.Writable ctx (.enter (arm.opening ctx message oneof)) := by
  intro h
  have hbreak := Oneof.noBreak_enumPath h.name (h.oneofs oneof honeof)
  have hname : NoBreak arm.alternative.variant.toList :=
    Name.noBreak_pascal (h.fields _ halternative)
  refine Source.Step.faithful_enter ?_ (by decide) ?_
  · have hpath : Source.startsPlain (oneof.enumPath message).toList = true :=
      Source.startsPlain_append h.startsPlain_module _
    have hvariant := Source.startsPlain_append (Source.startsPlain_append hpath "::")
      arm.alternative.variant
    exact Source.startsPlain_append (Source.startsPlain_append hvariant "(") _
  · simp [hbreak, hname, Context.boundValue, Operand.expr, h.locals]

theorem Oneof.matchSteps_nested {arms : List Arm} (honeof : oneof ∈ message.oneofs)
    (harms : ∀ arm ∈ arms, arm.alternative ∈ message.fields ∧
      Nested (message.Writable ctx) arm.body) :
    Nested (message.Writable ctx) (oneof.matchSteps ctx message arms) := by
  refine Message.block_nested ?_ (.flatMap fun arm harm => ?_)
  · intro h
    exact Source.Step.faithful_enter (by simp) (by decide) (by simp [h.locals])
  · obtain ⟨halternative, hbody⟩ := harms arm harm
    exact Message.block_nested (arm.writable_opening honeof halternative) (.nest hbody .nil)

theorem Block.member_nested {guarded : Bool} {inside : List Step} (hfield : field ∈ message.fields)
    (hinside : Nested (message.Writable ctx) inside) :
    Nested (message.Writable ctx) ((Block.member field guarded inside).steps ctx message) := by
  cases guarded with
  | false => exact hinside
  | true =>
    refine Message.block_nested (writable_guardLine fun h =>
      ⟨?_, Field.noBreak_place h.locals (h.fields field hfield)⟩) hinside
    rw [h.locals]
    decide

theorem Block.choice_nested {before after : List Step} {arms : List Arm}
    (honeof : oneof ∈ message.oneofs) (hbefore : Nested (message.Writable ctx) before)
    (harms : ∀ arm ∈ arms, arm.alternative ∈ message.fields ∧
      Nested (message.Writable ctx) arm.body) (hafter : Nested (message.Writable ctx) after) :
    Nested (message.Writable ctx) ((Block.choice oneof before arms after).steps ctx message) := by
  refine Message.block_nested (writable_guardLine fun h =>
    ⟨?_, Oneof.noBreak_place h.locals (h.oneofs oneof honeof)⟩) ?_
  · rw [h.locals]
    decide
  · exact hbefore.append (.nest (Oneof.matchSteps_nested honeof harms) hafter)

theorem Routine.steps_nested {routine : Routine}
    (hsummary : message.Writable ctx (.line routine.summary))
    (hsignature : message.Writable ctx (.enter routine.signature))
    (hidle : Nested (message.Writable ctx) routine.idle)
    (hbefore : Nested (message.Writable ctx) routine.before)
    (hblocks : ∀ block ∈ routine.blocks, Nested (message.Writable ctx) (block.steps ctx message))
    (hafter : Nested (message.Writable ctx) routine.after) :
    Nested (message.Writable ctx) (routine.steps ctx message) := by
  refine .line hsummary (Message.block_nested hsignature ?_)
  split
  · exact hidle
  · exact hbefore.append (.nest (.map_nest hblocks) hafter)

/-- Arms whose bodies are nested, one for each alternative. -/
theorem Oneof.arms_nested {arms : List Arm} {body : Field → Operand → Except Unsupported (List Step)}
    (harms : oneof.arms ctx message body = .ok arms)
    (hbody : ∀ alternative ∈ message.fields, ∀ steps,
      body alternative ctx.boundValue = .ok steps → Nested (message.Writable ctx) steps) :
    ∀ arm ∈ arms, arm.alternative ∈ message.fields ∧ Nested (message.Writable ctx) arm.body := by
  intro arm harm
  have halternative : arm.alternative ∈ message.fields := by
    have hmem : arm.alternative ∈ arms.map (·.alternative) := List.mem_map_of_mem harm
    rw [Oneof.map_alternative_of_arms_eq_ok harms] at hmem
    exact (Message.mem_alternatives.mp hmem).1
  exact ⟨halternative, hbody _ halternative _ (Oneof.body_of_arms_eq_ok harms harm)⟩

/-- What holds of the blocks of all entries of a message holds of those of a routine. -/
theorem Message.nested_of_entries {make : Entry → Except Unsupported Block} {blocks : List Block}
    (hblocks : List.Forall₂ (fun entry made => make entry = .ok made) message.entries blocks)
    (hmember : ∀ field ∈ message.fields, ∀ made, make (.member field) = .ok made →
      Nested (message.Writable ctx) (made.steps ctx message))
    (hchoice : ∀ oneof ∈ message.oneofs, ∀ made, make (.choice oneof) = .ok made →
      Nested (message.Writable ctx) (made.steps ctx message)) :
    ∀ block ∈ blocks, Nested (message.Writable ctx) (block.steps ctx message) := by
  intro block hblock
  obtain ⟨entry, hentry, hmade⟩ := exists_mem_of_forall₂ hblocks hblock
  rcases List.mem_append.mp hentry with hentry | hentry
  · obtain ⟨field, hfield, rfl⟩ := List.mem_map.mp hentry
    exact hmember field (mem_standalone.mp hfield).1 block hmade
  · obtain ⟨oneof, honeof, rfl⟩ := List.mem_map.mp hentry
    exact hchoice oneof honeof block hmade

end

/-! ## The JSON routine -/

namespace Json
variable {ctx : Context} {message : Message} {field : Field} {oneof : Oneof}

theorem faithful_insertion {map key value : String} (hmap : map = "fields" ∨ map = "entry")
    (hvalue : NoBreak value.toList) : (Step.line (insertion map key value)).Faithful := by
  have hkey := Text.noBreak_quote key
  rcases hmap with rfl | rfl
  · exact Source.Step.faithful_line (by simp) (by decide) (by simp [hkey, hvalue])
  · exact Source.Step.faithful_line (by simp) (by decide) (by simp [hkey, hvalue])

/-- An expression for a node that holds a map. -/
theorem faithful_object {inside back : String} (h : message.Orderly ctx)
    (hend : Source.endsPlain back.toList = true) (hinside : NoBreak inside.toList)
    (hback : NoBreak back.toList) :
    (Step.line (ctx.json ++ "::Value::Object(" ++ inside ++ back)).Faithful := by
  have hstart := Source.startsPlain_append h.startsPlain_json "::Value::Object("
  exact Source.Step.faithful_line (Source.startsPlain_append hstart inside) hend
    (by simp [h.noBreak_json, hinside, hback])

theorem noBreak_node {operand : Operand} {value : String} (h : message.Orderly ctx)
    (hoperand : NoBreak operand.expr.toList) (hnode : node ctx message field operand = .ok value) :
    NoBreak value.toList := by
  have hcopied : NoBreak operand.copied.toList := by
    cases operand with
    | place expr => exact hoperand
    | borrowed expr =>
      rw [Operand.copied, String.toList_append]
      exact Text.noBreak_append.mpr ⟨by decide, hoperand⟩
  have hjson := h.noBreak_json
  have hmethod := Name.noBreak h.jsonMethod
  have hexpr := node_eq_ok_iff.mp hnode
  unfold node? scalarNode? at hexpr
  -- a scalar, a message, and the kinds without an expression
  split at hexpr
  · split at hexpr <;> cases hexpr <;> simp [hjson, hcopied, hoperand]
  · cases hexpr
    simp [hoperand, hmethod]
  all_goals cases hexpr

theorem memberBlock_nested {block : Block} (hfield : field ∈ message.fields)
    (h : memberBlock ctx message field = .ok block) :
    Nested (message.Writable ctx) (block.steps ctx message) := by
  obtain ⟨type, value, _, hvalue, rfl⟩ := memberBlock_eq_ok_iff.mp h
  refine Block.member_nested hfield (.single fun h => ?_)
  have hoperand := Field.noBreak_operand h.locals (h.fields field hfield) (field.isGuarded type)
  exact faithful_insertion (.inl (by rw [h.locals])) (noBreak_node h hoperand hvalue)

theorem choiceBlock_nested {block : Block} (honeof : oneof ∈ message.oneofs)
    (h : choiceBlock ctx message oneof = .ok block) :
    Nested (message.Writable ctx) (block.steps ctx message) := by
  obtain ⟨arms, harms, rfl⟩ := choiceBlock_eq_ok_iff.mp h
  refine Block.choice_nested honeof (.single fun h => ?_) (Oneof.arms_nested harms ?_)
    (.single fun h => ?_)
  · exact Source.Step.faithful_line (by simp) (by decide) (by simp [h.noBreak_json, h.locals])
  · intro alternative halternative steps hsteps
    obtain ⟨type, value, _, hvalue, rfl⟩ := armBody_eq_ok_iff.mp hsteps
    refine .line (fun h => ?_) (.single fun h => ?_)
    · refine faithful_insertion (.inr (by rw [h.locals])) ?_
      simp [h.noBreak_json, Text.noBreak_quote]
    · refine faithful_insertion (.inr (by rw [h.locals])) (noBreak_node h ?_ hvalue)
      exact Field.noBreak_operand h.locals (h.fields alternative halternative) true
  · refine faithful_insertion (.inl (by rw [h.locals])) ?_
    simp [h.noBreak_json, h.locals]

/-- **The JSON routine is nested**, and faithful if the names are in order. -/
theorem steps_nested {steps : List Step} (h : Json.steps ctx message = .ok steps) :
    Nested (message.Writable ctx) steps := by
  obtain ⟨routine, hroutine, rfl⟩ := steps_eq_ok_iff.mp h
  have hblocks := Message.nested_of_entries (blocks_of_routine_eq_ok hroutine)
    (fun _ hfield _ => memberBlock_nested hfield) (fun _ honeof _ => choiceBlock_nested honeof)
  obtain ⟨blocks, _, hmade⟩ := bind_eq_ok.mp hroutine
  obtain rfl := pure_eq_ok.mp hmade
  refine Routine.steps_nested ?_ ?_ (.single ?_) (.single ?_) hblocks (.single ?_)
  · intro h
    exact Source.Step.faithful_line (by simp) (by decide) (by simp [Name.noBreak h.name])
  · intro h
    have hmethod := Name.noBreak h.jsonMethod
    exact Source.Step.faithful_enter (by simp) (by decide)
      (by simp [hmethod, h.noBreak_json, h.locals])
  · intro h
    exact faithful_object h (by decide) h.noBreak_json (by decide)
  · intro h
    exact Source.Step.faithful_line (by simp) (by decide) (by simp [h.noBreak_json, h.locals])
  · intro h
    refine faithful_object h (by decide) ?_ (by decide)
    rw [h.locals]
    decide

end Json

/-! ## The literal routine -/

namespace Literal
variable {ctx : Context} {message : Message} {field : Field} {oneof : Oneof}

theorem faithful_push {text : String} (h : message.Orderly ctx) (htext : NoBreak text.toList) :
    (push ctx text).Faithful := by
  rw [push, h.locals]
  exact Source.Step.faithful_line (by simp) (by decide) (by simp [htext])

/-- What a form puts into a template. -/
def Form.inserted : Form → String
  | .value verb => verb
  | .nested type => type

theorem noBreak_of_form?_eq_some {kind : Kind} {made : Form}
    (htype : ∀ type, kind = .message type → Name.isIdentifier type = true)
    (hform : form? kind = some made) : NoBreak made.inserted.toList := by
  unfold form? at hform
  split at hform
  · next type =>
    obtain ⟨verb, hverb, rfl⟩ := Option.map_eq_some_iff.mp hform
    unfold scalarVerb? at hverb
    split at hverb <;> cases hverb <;> decide
  · next type =>
    obtain rfl := Option.some.inj hform
    exact Name.noBreak (htype type rfl)
  all_goals cases hform

theorem noBreak_inserted {made : Form} (h : message.Orderly ctx) (hfield : field ∈ message.fields)
    (hform : form message field = .ok made) : NoBreak made.inserted.toList :=
  noBreak_of_form?_eq_some (h.types field hfield) (form_eq_ok_iff.mp hform).2

theorem noBreak_wrapOpening {wrapper : String} (h : NoBreak wrapper.toList) :
    NoBreak (wrapOpening wrapper).toList := by
  rw [wrapOpening]
  split
  · decide
  · rw [String.toList_append]
    exact Text.noBreak_append.mpr ⟨h, by decide⟩

theorem noBreak_wrapClosing (wrapper : String) : NoBreak (wrapClosing wrapper).toList := by
  rw [wrapClosing]
  split <;> decide

theorem noBreak_filled {template joined : String} {arguments : List String}
    (hjoined : ", ".intercalate arguments = joined) (htemplate : NoBreak template.toList)
    (harguments : NoBreak joined.toList) : NoBreak (filled template arguments).toList := by
  rw [filled, hjoined]
  simp [htemplate, harguments]

theorem lines_nested {label wrapper : String} {operand : Operand} {made : Form}
    (h : message.Orderly ctx → NoBreak label.toList ∧ NoBreak wrapper.toList ∧
      NoBreak operand.expr.toList ∧ NoBreak made.inserted.toList) :
    Nested (message.Writable ctx) (lines ctx label wrapper operand made) := by
  cases made with
  | value verb =>
    refine .single fun horderly => faithful_push horderly ?_
    obtain ⟨hlabel, hwrapper, hoperand, hverb⟩ := h horderly
    have hverb : NoBreak verb.toList := hverb
    refine noBreak_filled rfl ?_ ?_
    · simp [valueTemplate, hlabel, noBreak_wrapOpening hwrapper, noBreak_wrapClosing, hverb]
    · simp [horderly.locals, hoperand]
  | nested type =>
    refine .line (fun horderly => ?_) (.line (fun horderly => ?_) (.single fun horderly => ?_))
    · obtain ⟨hlabel, hwrapper, _, htype⟩ := h horderly
      have htype : NoBreak type.toList := htype
      refine faithful_push horderly (noBreak_filled rfl ?_ ?_)
      · simp [openingTemplate, hlabel, noBreak_wrapOpening hwrapper, htype]
      · rw [horderly.locals]
        decide
    · obtain ⟨_, _, hoperand, _⟩ := h horderly
      have hmethod := Name.noBreak horderly.literalMethod
      have hunit := Text.noBreak_quote ctx.settings.indentUnit
      exact faithful_push horderly (by simp [hoperand, hmethod, hunit, horderly.locals])
    · refine faithful_push horderly (noBreak_filled rfl ?_ ?_)
      · simp [closingTemplate, noBreak_wrapClosing]
      · rw [horderly.locals]
        decide

theorem memberBlock_nested {block : Block} (hfield : field ∈ message.fields)
    (h : memberBlock ctx message field = .ok block) :
    Nested (message.Writable ctx) (block.steps ctx message) := by
  obtain ⟨form, type, hform, _, rfl⟩ := memberBlock_eq_ok_iff.mp h
  refine Block.member_nested hfield (.nest (lines_nested fun h => ?_) .nil)
  exact ⟨Name.noBreak (h.fields field hfield), by decide,
    Field.noBreak_operand h.locals (h.fields field hfield) _, noBreak_inserted h hfield hform⟩

theorem choiceBlock_nested {block : Block} (honeof : oneof ∈ message.oneofs)
    (h : choiceBlock ctx message oneof = .ok block) :
    Nested (message.Writable ctx) (block.steps ctx message) := by
  obtain ⟨arms, harms, rfl⟩ := choiceBlock_eq_ok_iff.mp h
  refine Block.choice_nested honeof .nil (Oneof.arms_nested harms ?_) .nil
  intro alternative halternative steps hsteps
  obtain ⟨form, type, hform, _, rfl⟩ := armBody_eq_ok_iff.mp hsteps
  refine lines_nested fun h => ⟨Name.noBreak (h.oneofs oneof honeof), ?_,
    Field.noBreak_operand h.locals (h.fields alternative halternative) true,
    noBreak_inserted h halternative hform⟩
  exact Name.noBreak_pascal (h.fields alternative halternative)

/-- **The literal routine is nested**, and faithful if the names are in order. -/
theorem steps_nested {steps : List Step} (h : Literal.steps ctx message = .ok steps) :
    Nested (message.Writable ctx) steps := by
  obtain ⟨routine, hroutine, rfl⟩ := steps_eq_ok_iff.mp h
  have hblocks := Message.nested_of_entries (blocks_of_routine_eq_ok hroutine)
    (fun _ hfield _ => memberBlock_nested hfield) (fun _ honeof _ => choiceBlock_nested honeof)
  obtain ⟨blocks, _, hmade⟩ := bind_eq_ok.mp hroutine
  obtain rfl := pure_eq_ok.mp hmade
  refine Routine.steps_nested ?_ ?_ (.line ?_ (.single ?_)) (.single ?_) hblocks (.single ?_)
  · intro h
    exact Source.Step.faithful_line (by simp) (by decide) (by simp [Name.noBreak h.name])
  · intro h
    have hmethod := Name.noBreak h.literalMethod
    exact Source.Step.faithful_enter (by simp) (by decide) (by simp [hmethod, h.locals])
  · intro h
    exact Source.Step.faithful_line (by simp) (by decide) (by simp [h.locals])
  · intro h
    exact ⟨'S', ')', ⟨by decide, rfl, rfl⟩, by decide, by decide, by decide⟩
  · intro h
    exact Source.Step.faithful_line (by simp) (by decide) (by simp [h.locals])
  · intro h
    rw [h.locals]
    exact ⟨'o', 't', ⟨by decide, rfl, rfl⟩, by decide, by decide, by decide⟩

end Literal

end MessageDump
