import MessageDump.Proofs.Generation.Wording
import MessageDump.Proofs.Routine.Coverage
/-! # What a generated file defines

The file of a message has one `impl` block, and in it the definitions of two methods,
which are those of the two routines (`Message.Defines`).  The path of the JSON library
stands in the first line of one of them and is not checked; a line of its own that it
brings along may look like one more definition, and then these are not all
(`Sample.to_json_repeated`).
-/
namespace MessageDump

open Source (Closed Context Mark Step Writes fixed moved movedMarks spell)

/-! ## Lines that open blocks -/

namespace Source

mutual

/-- The lines with which a step opens blocks, also in what it nests. -/
def Step.openings : Step → List String
  | .enter text => [text]
  | .nest steps => openings steps
  | .line _ | .blank | .leave _ => []

/-- The lines with which steps open blocks, also in what they nest. -/
def openings : List Step → List String
  | [] => []
  | step :: rest => step.openings ++ openings rest

end

@[simp] theorem openings_nil : openings [] = [] := by rw [openings]

@[simp] theorem openings_cons (step : Step) (rest : List Step) :
    openings (step :: rest) = step.openings ++ openings rest := by
  rw [openings]

@[simp] theorem Step.openings_line (text : String) : (Step.line text).openings = [] := by
  rw [Step.openings]

@[simp] theorem Step.openings_blank : Step.blank.openings = [] := by rw [Step.openings]

@[simp] theorem Step.openings_enter (text : String) : (Step.enter text).openings = [text] := by
  rw [Step.openings]

@[simp] theorem Step.openings_leave (text : String) : (Step.leave text).openings = [] := by
  rw [Step.openings]

@[simp] theorem Step.openings_nest (steps : List Step) :
    (Step.nest steps).openings = Source.openings steps := by
  rw [Step.openings]

theorem openings_append (first second : List Step) :
    openings (first ++ second) = openings first ++ openings second := by
  induction first with
  | nil => rw [List.nil_append, openings_nil, List.nil_append]
  | cons step rest ih => rw [List.cons_append, openings_cons, openings_cons, ih, List.append_assoc]

theorem openings_block (opening closing : String) (inside : List Step) :
    openings (block opening inside closing) = opening :: openings inside := by
  simp [block, openings_append]

theorem openings_flatMap {α : Type} (items : List α) (f : α → List Step) :
    openings (items.flatMap f) = items.flatMap fun item => openings (f item) := by
  induction items with
  | nil => simp
  | cons item rest ih => rw [List.flatMap_cons, openings_append, ih, List.flatMap_cons]

theorem openings_flatten (parts : List (List Step)) :
    openings parts.flatten = parts.flatMap openings := by
  rw [← List.flatMap_id', openings_flatMap]

/-- Whether a line begins the definition of a public function. -/
def isDefinition (text : String) : Bool := "pub fn ".toList.isPrefixOf text.toList

end Source

open Source (isDefinition openings)

section
variable {ctx : Context} {message : Message} {oneof : Oneof} {entry : Entry} {block : Block}

theorem not_isDefinition_guard (name place : String) :
    isDefinition ("if let Some(" ++ name ++ ") = &" ++ place ++ " \x7b") = false := by
  simp [isDefinition, List.isPrefixOf]

/-- A text with a colon before its first space does not begin a definition. -/
theorem not_isDefinition_of_colon {front : List Char} (hspace : ' ' ∉ front) (rest : List Char) :
    "pub fn ".toList.isPrefixOf (front ++ ':' :: rest) = false := by
  rw [Bool.eq_false_iff, ne_eq, List.isPrefixOf_iff_prefix]
  rintro ⟨after, heq⟩
  have hstart : "pub fn ".toList ++ after = "pub".toList ++ ' ' :: ("fn ".toList ++ after) := rfl
  rw [hstart] at heq
  -- either the front reaches over the space of the prefix, or the prefix over the colon
  rcases List.append_eq_append_iff.mp heq with ⟨middle, rfl, hmiddle⟩ | ⟨middle, hpub, hmiddle⟩
  · cases middle with
    | nil => exact absurd (List.cons.inj hmiddle).1 (by decide)
    | cons c middle =>
      obtain ⟨rfl, _⟩ := List.cons.inj hmiddle
      exact hspace (List.mem_append_right _ List.mem_cons_self)
  · cases middle with
    | nil => exact absurd (List.cons.inj hmiddle).1 (by decide)
    | cons c middle =>
      obtain ⟨rfl, _⟩ := List.cons.inj hmiddle
      have hmem : ':' ∈ "pub".toList := by
        rw [hpub]
        exact List.mem_append_right _ List.mem_cons_self
      exact absurd hmem (by decide)

/-- The pattern of an arm begins with the name of a module, which is followed by a colon. -/
theorem Message.not_isDefinition_pattern (h : Name.isIdentifier message.name = true)
    (oneof variant value : String) :
    isDefinition (Name.escaped (Name.snake message.name) ++ "::" ++ oneof ++ "::" ++ variant ++
      "(" ++ value ++ ") => \x7b") = false := by
  have hspace : ' ' ∉ (Name.escaped (Name.snake message.name)).toList :=
    Name.not_mem_escaped (Name.isIdentifier_snake h) (by decide) (by decide)
  simp only [isDefinition, String.toList_append, List.append_assoc]
  exact not_isDefinition_of_colon hspace _

/-- Nothing that is written for a value, or around that, opens a block. -/
structure Handling.OpensNothing (handling : Handling) : Prop where
  alone : ∀ {field value inside}, handling.alone field value inside → openings inside = []
  inArm : ∀ {oneof alternative value body}, handling.inArm oneof alternative value body →
    openings body = []
  before : openings handling.before = []
  after : ∀ oneof, openings (handling.after oneof) = []
  first : openings handling.first = []
  last : openings handling.last = []
  idle : openings handling.idle = []

theorem Json.opensNothing (ctx : Context) : (Json.handling ctx).OpensNothing where
  alone := by
    rintro field value inside ⟨node, _, rfl⟩
    simp
  inArm := by
    rintro oneof alternative value body ⟨inserted, ⟨node, _, rfl⟩, rfl⟩
    simp
  before := by simp [handling]
  after := by simp [handling]
  first := by simp [handling]
  last := by simp [handling]
  idle := by simp [handling]

theorem Literal.Shows.openings_eq_nil {settings : Settings}
    {out indent label wrapper value : String} {kind : Kind} {steps : List Step}
    (h : Shows settings out indent label wrapper kind value steps) : openings steps = [] := by
  cases h <;> simp

theorem Literal.opensNothing (ctx : Context) : (Literal.handling ctx).OpensNothing where
  alone := by
    rintro field value inside ⟨shown, rfl, hshown⟩
    rw [Source.openings_cons, Source.Step.openings_nest, hshown.openings_eq_nil,
      Source.openings_nil, List.nil_append]
  inArm := Shows.openings_eq_nil
  before := Source.openings_nil
  after _ := Source.openings_nil
  first := by simp [handling]
  last := by simp [handling]
  idle := by simp [handling]

/-- No block of a routine defines a function. -/
theorem Entry.Emits.not_isDefinition {handling : Handling} {steps : List Step}
    (h : entry.Emits ctx message handling steps) (hhandling : handling.OpensNothing)
    (hname : Name.isIdentifier message.name = true) :
    ∀ text ∈ openings steps, isDefinition text = false := by
  cases h with
  | bare hinside =>
    rw [hhandling.alone hinside]
    exact nofun
  | guarded hinside =>
    rw [← Source.block, Source.openings_block, hhandling.alone hinside, List.forall_mem_singleton]
    exact not_isDefinition_guard _ _
  | @choice oneof arms harms =>
    have harm : ∀ arm ∈ arms, ∀ text ∈ openings arm, isDefinition text = false := by
      intro arm hmem
      obtain ⟨alternative, _, body, hbody, rfl⟩ := exists_mem_of_forall₂ harms hmem
      simp only [Source.openings_cons, Source.Step.openings_enter, Source.Step.openings_nest,
        hhandling.inArm hbody, Source.Step.openings_leave, Source.openings_nil, List.append_nil,
        List.forall_mem_singleton]
      exact message.not_isDefinition_pattern hname _ _ _
    have hmatch : isDefinition ("match " ++ ctx.locals.selected ++ " \x7b") = false := by
      simp [isDefinition, List.isPrefixOf]
    rw [← Source.block, ← Source.block, Source.openings_block, Source.openings_append,
      Source.openings_cons, hhandling.before, hhandling.after, Source.Step.openings_nest,
      Source.openings_block, Source.openings_flatten, List.nil_append, List.append_nil,
      List.forall_mem_cons, List.forall_mem_cons]
    refine ⟨not_isDefinition_guard _ _, hmatch, fun text htext => ?_⟩
    obtain ⟨arm, hmem, htext⟩ := List.mem_flatMap.mp htext
    exact harm arm hmem text htext

/-- A routine defines nothing but what its signature says. -/
theorem Routine.filter_openings (ctx : Context) {entries : List Entry} {handling : Handling}
    {routine : Routine} (hname : Name.isIdentifier message.name = true)
    (hhandling : handling.OpensNothing)
    (hemits : List.Forall₂ (fun entry block =>
      entry.Emits ctx message handling (block.steps ctx message)) entries routine.blocks)
    (haround : routine.before = handling.first ∧ routine.after = handling.last ∧
      routine.idle = handling.idle) :
    (openings (routine.steps ctx message)).filter isDefinition =
      [routine.signature].filter isDefinition := by
  obtain ⟨hfirst, hlast, hidle⟩ := haround
  have hblocks : ∀ text ∈ openings (routine.body ctx message), isDefinition text = false := by
    intro text htext
    rw [Routine.body, List.map_eq_flatMap, Source.openings_flatMap] at htext
    obtain ⟨block, hblock, htext⟩ := List.mem_flatMap.mp htext
    rw [Source.openings_cons, Source.openings_nil, List.append_nil, Source.Step.openings_nest] at htext
    obtain ⟨entry, _, hentry⟩ := exists_mem_of_forall₂ hemits hblock
    exact hentry.not_isDefinition hhandling hname text htext
  rw [Routine.steps, Source.openings_cons, Source.Step.openings_line, List.nil_append,
    Source.openings_block, ← List.singleton_append, List.filter_append]
  have hinside : (openings (if routine.blocks.isEmpty then routine.idle
      else routine.before ++ .nest (routine.body ctx message) :: routine.after)).filter
        isDefinition = [] := by
    split
    · rw [hidle, hhandling.idle, List.filter_nil]
    · rw [hfirst, hlast, Source.openings_append, Source.openings_cons, hhandling.first,
        hhandling.last, Source.Step.openings_nest, List.nil_append, List.append_nil]
      refine List.filter_eq_nil_iff.mpr fun text htext => ?_
      rw [hblocks text htext]
      exact Bool.false_ne_true
  rw [hinside, List.append_nil]

theorem Json.summary_of_routine_eq_ok {routine : Routine}
    (h : Json.routine ctx message = .ok routine) :
    routine.summary = "/// Builds the JSON node tree of this `" ++ message.name ++ "`." := by
  obtain ⟨_, _, rfl⟩ := Json.routine_eq_ok_iff.mp h
  rfl

theorem Literal.summary_of_routine_eq_ok {routine : Routine}
    (h : Literal.routine ctx message = .ok routine) :
    routine.summary = "/// Renders this `" ++ message.name ++
      "` as an indented literal, one field per line." := by
  obtain ⟨_, _, rfl⟩ := Literal.routine_eq_ok_iff.mp h
  rfl

theorem Json.signature_of_routine_eq_ok {settings : Settings} {routine : Routine}
    (h : Json.routine { settings } message = .ok routine) :
    routine.signature = Json.signature settings := by
  obtain ⟨_, _, rfl⟩ := Json.routine_eq_ok_iff.mp h
  exact Json.signature_eq settings

theorem Literal.signature_of_routine_eq_ok {settings : Settings} {routine : Routine}
    (h : Literal.routine { settings } message = .ok routine) :
    routine.signature = Literal.signature settings := by
  obtain ⟨_, _, rfl⟩ := Literal.routine_eq_ok_iff.mp h
  exact Literal.signature_eq settings

theorem Json.isDefinition_signature (settings : Settings) :
    isDefinition (Json.signature settings) = true := by
  simp [isDefinition, Json.signature, List.isPrefixOf]

theorem Literal.isDefinition_signature (settings : Settings) :
    isDefinition (Literal.signature settings) = true := by
  simp [isDefinition, Literal.signature, List.isPrefixOf]

/-- **The file of a message defines its two methods and nothing else**, whatever the
path of the JSON library is. -/
theorem Message.filter_openings {settings : Settings} {json literal : Routine}
    (hname : Name.isIdentifier message.name = true)
    (hjson : Json.routine { settings } message = .ok json)
    (hliteral : Literal.routine { settings } message = .ok literal) :
    (openings (message.implSteps (json.steps { settings } message)
      (literal.steps { settings } message))).filter isDefinition =
      [Json.signature settings, Literal.signature settings] := by
  have hjsondefs := Routine.filter_openings { settings } hname (Json.opensNothing { settings })
    ((Json.blocks_of_routine_eq_ok hjson).imp fun _ _ => Json.emits_of_block_eq_ok)
    (Json.around_of_routine_eq_ok hjson)
  have hliteraldefs := Routine.filter_openings { settings } hname
    (Literal.opensNothing { settings })
    ((Literal.blocks_of_routine_eq_ok hliteral).imp fun _ _ => Literal.emits_of_block_eq_ok)
    (Literal.around_of_routine_eq_ok hliteral)
  have himpl : isDefinition ("impl " ++ message.name ++ " \x7b") = false := by
    simp [isDefinition, List.isPrefixOf]
  rw [implSteps, Source.openings_block, Source.openings_cons, Source.openings_cons,
    Source.openings_cons, Source.openings_nil, Source.Step.openings_nest,
    Source.Step.openings_nest, Source.Step.openings_blank, List.filter_cons_of_neg (by simp [himpl]),
    List.nil_append, List.append_nil, List.filter_append, hjsondefs, hliteraldefs,
    Json.signature_of_routine_eq_ok hjson, Literal.signature_of_routine_eq_ok hliteral]
  simp [Json.isDefinition_signature, Literal.isDefinition_signature]

end

/-! ## Text -/

namespace Source

/-- A line and an opening line are the start of what is written. -/
theorem exists_toList_textOf_line_enter (text opening : String) (rest : List Step) :
    ∃ more, (textOf (.line text :: .enter opening :: rest)).toList =
      text.toList ++ '\n' :: (opening.toList ++ '\n' :: more) := by
  obtain ⟨ls, hls⟩ := ((({} : Writer).line text).enter opening).exists_written_performAll rest
  refine ⟨Text.unlines ls, ?_⟩
  rw [textOf, Writer.performAll_cons, Writer.performAll_cons, Writer.perform_line,
    Writer.perform_enter, hls]
  simp [Writer.line, Writer.enter, Writer.indentation]

end Source

section
variable {settings : Settings} {message : Message}

/-- The lines of a message's source, whatever its two routines write. -/
theorem Message.toList_textOf_implSteps (message : Message) (json literal : List Step) :
    (Source.textOf (message.implSteps json literal)).toList =
      Text.unlines ([("impl " ++ message.name ++ " \x7b").toList] ++
        ((((Text.lines (Source.textOf json)).map String.toList ++
          ([[]] ++ (Text.lines (Source.textOf literal)).map String.toList)).map (moved 1)) ++
            ["\x7d".toList])) := by
  have hinside := (Writes.nest_lines json).append (.nest json)
    (Writes.blank.append .blank (Writes.nest_lines literal))
  have hclosed := (Closed.nest json).append (Closed.blank.append (.nest literal))
  exact (hinside.block (by simp) (by simp) hclosed).toList_textOf

/-- The lines of a routine begin with its comment, and then come those of its signature. -/
theorem Routine.exists_lines_steps (ctx : Context) (message : Message) {routine : Routine}
    (hsummary : Text.NoBreak routine.summary.toList) :
    ∃ more, Text.lines (Source.textOf (routine.steps ctx message)) =
      routine.summary :: Text.lines (String.ofList (routine.signature.toList ++ '\n' :: more)) := by
  obtain ⟨more, hmore⟩ : ∃ more, (Source.textOf (routine.steps ctx message)).toList = _ :=
    Source.exists_toList_textOf_line_enter routine.summary routine.signature _
  have htext := congrArg String.ofList hmore
  rw [String.ofList_toList] at htext
  refine ⟨more, ?_⟩
  rw [htext, Text.lines_append_cons hsummary.unbroken, String.ofList_toList]

/-- The JSON routine begins with its comment and its signature, up to the path of the
JSON library. -/
theorem Json.exists_lines_steps {routine : Routine} (hname : Name.isIdentifier message.name = true)
    (hmethod : Name.isIdentifier settings.jsonMethod = true)
    (h : Json.routine { settings } message = .ok routine) :
    ∃ back later, Text.lines (Source.textOf (routine.steps { settings } message)) =
      ("/// Builds the JSON node tree of this `" ++ message.name ++ "`.") ::
        ("pub fn " ++ settings.jsonMethod ++ "(&self) -> " ++ back) :: later := by
  have hsummary := Json.summary_of_routine_eq_ok h
  have hbreak : Text.NoBreak routine.summary.toList := by
    rw [hsummary]
    simp [Name.noBreak hname]
  have hstart : Text.NoBreak ("pub fn " ++ settings.jsonMethod ++ "(&self) -> ").toList := by
    simp [Name.noBreak hmethod]
  obtain ⟨more, hmore⟩ := Routine.exists_lines_steps { settings } message hbreak
  obtain ⟨back, later, hlines⟩ := Text.exists_line_of_start hstart (by simp)
    ((settings.jsonCrate ++ "::Value \x7b").toList ++ '\n' :: more)
  have hsignature : Json.signature settings = "pub fn " ++ settings.jsonMethod ++ "(&self) -> " ++
      (settings.jsonCrate ++ "::Value \x7b") := String.append_assoc
  refine ⟨String.ofList back, later, ?_⟩
  rw [hmore, hsummary, Json.signature_of_routine_eq_ok h, hsignature, String.toList_append,
    List.append_assoc, hlines, String.ofList_append, String.ofList_toList]

/-- The literal routine begins with its comment and its signature. -/
theorem Literal.exists_lines_steps {routine : Routine}
    (hname : Name.isIdentifier message.name = true)
    (hmethod : Name.isIdentifier settings.literalMethod = true)
    (h : Literal.routine { settings } message = .ok routine) :
    ∃ later, Text.lines (Source.textOf (routine.steps { settings } message)) =
      ("/// Renders this `" ++ message.name ++ "` as an indented literal, one field per line.") ::
        Literal.signature settings :: later := by
  have hsummary := Literal.summary_of_routine_eq_ok h
  have hbreak : Text.NoBreak routine.summary.toList := by
    rw [hsummary]
    simp [Name.noBreak hname]
  have hsignature : Text.NoBreak (Literal.signature settings).toList := by
    simp [Literal.signature, Name.noBreak hmethod]
  obtain ⟨more, hmore⟩ := Routine.exists_lines_steps { settings } message hbreak
  refine ⟨Text.lines (String.ofList more), ?_⟩
  rw [hmore, hsummary, Literal.signature_of_routine_eq_ok h,
    Text.lines_append_cons hsignature.unbroken, String.ofList_toList]

end

/-! ## Lines -/

/-- Whether a line begins the definition of a method in an `impl` block. -/
def Source.isMethodLine (line : List Char) : Bool := "    pub fn ".toList.isPrefixOf line

/-- The lines of a text that begin the definition of a method of the given name, which
takes the message that it is called on. -/
def Source.definitionsOf (method content : String) : List String :=
  (Text.lines content).filter fun line =>
    ("    pub fn " ++ method ++ "(&self").toList.isPrefixOf line.toList

theorem Source.definitionsOf_eq (method content : String) :
    definitionsOf method content =
      ((Text.lines content).filter fun line => isMethodLine line.toList).filter fun line =>
        ("    pub fn " ++ method ++ "(&self").toList.isPrefixOf line.toList := by
  rw [definitionsOf, List.filter_filter]
  refine List.filter_congr fun line _ => ?_
  rw [Bool.eq_iff_iff, Bool.and_eq_true]
  refine (and_iff_left_of_imp fun hline => ?_).symm
  have hstart : "    pub fn ".toList <+: ("    pub fn " ++ method ++ "(&self").toList := by
    rw [String.append_assoc, String.toList_append]
    exact List.prefix_append _ _
  rw [List.isPrefixOf_iff_prefix] at hline
  exact List.isPrefixOf_iff_prefix.mpr (hstart.trans hline)

/-- Only the definition of a method begins with its name. -/
theorem Source.isPrefixOf_definition {method other : String} (rest : String)
    (hmethod : '(' ∉ method.toList) (hother : '(' ∉ other.toList) :
    ("    pub fn " ++ method ++ "(&self").toList.isPrefixOf
      ("    pub fn " ++ other ++ "(&self" ++ rest).toList = decide (method = other) := by
  rw [Bool.eq_iff_iff, List.isPrefixOf_iff_prefix, decide_eq_true_iff]
  constructor
  · rintro ⟨after, heq⟩
    simp only [String.toList_append, List.append_assoc] at heq
    have hnames := List.append_cancel_left heq
    exact String.toList_inj.mp ((Text.append_sep_inj hmethod hother).mp hnames).1
  · rintro rfl
    exact ⟨rest.toList, String.toList_append.symm⟩

/-- Of the lines of a routine in its block, only the signature begins a definition. -/
theorem Routine.filter_draft (w : Wording) (summary signature : String)
    (hsummary : Source.isMethodLine (moved 1 summary.toList) = false)
    (hsignature : Source.isMethodLine (moved 1 signature.toList) = true)
    (inside : List (List (Mark Wording))) :
    (((Routine.draft summary signature inside).map (movedMarks 1)).map (spell w)).filter
      Source.isMethodLine = [moved 1 signature.toList] := by
  -- what is inside is moved twice, past the place where a definition begins
  have hinside : (((inside.map (spell w)).map (moved 1)).map (moved 1)).filter
      Source.isMethodLine = [] := by
    refine List.filter_eq_nil_iff.mpr ?_
    rw [List.forall_mem_map, List.forall_mem_map]
    intro line _
    rw [Source.moved_moved]
    by_cases hline : line = []
    · subst hline
      decide
    · rw [Source.moved_of_ne_nil hline]
      exact Bool.false_ne_true
  rw [Source.map_spell_movedMarks, draft]
  simp only [List.map_append, Source.map_spell_movedMarks, List.filter_append, hinside]
  simp only [List.map_cons, List.map_nil, Source.spell_fixed, List.filter_cons_of_pos hsignature,
    List.filter_cons_of_neg (Bool.eq_false_iff.mp hsummary), List.filter_nil]
  rfl

theorem Message.filter_draft (w : Wording) (settings : Settings) (message : Message)
    (json literal : List (List (Mark Wording))) :
    ((message.draft settings json literal).map (spell w)).filter Source.isMethodLine =
      [moved 1 (Json.signature settings).toList, moved 1 (Literal.signature settings).toList] := by
  have hjson := Routine.filter_draft w ("/// Builds the JSON node tree of this `" ++ message.name ++ "`.")
    (Json.signature settings)
    (by simp [moved, Source.isMethodLine, List.isPrefixOf])
    (by simp [moved, Source.isMethodLine, Json.signature, List.isPrefixOf]) json
  have hliteral := Routine.filter_draft w
    ("/// Renders this `" ++ message.name ++ "` as an indented literal, one field per line.")
    (Literal.signature settings)
    (by simp [moved, Source.isMethodLine, List.isPrefixOf])
    (by simp [moved, Source.isMethodLine, Literal.signature, List.isPrefixOf]) literal
  simp only [draft, List.map_append, List.filter_append, hjson, hliteral]
  simp [headerLines, Source.isMethodLine, List.isPrefixOf, movedMarks]

/-! ## The file of a message -/

theorem Settings.methods_ne_of_validate {settings : Settings} (h : settings.validate = .ok ()) :
    settings.jsonMethod ≠ settings.literalMethod := by
  obtain ⟨hfaults, _⟩ := unlessFaulty_eq_ok.mp h
  simp only [faults, List.append_eq_nil_iff, faultIf_eq_nil] at hfaults
  obtain ⟨⟨⟨_, hsame⟩, _⟩, _⟩ := hfaults
  simpa using hsame

/-- The file of a message defines its two methods, each taking the message and the
second an indentation as well. -/
structure Message.Defines (settings : Settings) (message : Message) (content : String) : Prop where
  /-- The file is a header and one block for the message, in which each method has its
  definition under its comment.  Everything else in the block is as deep or deeper. -/
  text : ∃ (type : String) (json literal : List (List Char)), content.toList =
    Text.unlines (message.headerLines ++ ([("impl " ++ message.name ++ " \x7b").toList] ++
      (((("/// Builds the JSON node tree of this `" ++ message.name ++ "`.").toList ::
          ("pub fn " ++ settings.jsonMethod ++ "(&self) -> " ++ type).toList :: json) ++
        ([[]] ++ ("/// Renders this `" ++ message.name ++
            "` as an indented literal, one field per line.").toList ::
          ("pub fn " ++ settings.literalMethod ++ "(&self, indent: &str) -> String \x7b").toList ::
            literal)).map (moved 1) ++ ["\x7d".toList])))
  /-- The file is written from two routines, in which no other line that opens a block
  begins a definition. -/
  written : ∃ json literal, Json.routine { settings } message = .ok json ∧
    Literal.routine { settings } message = .ok literal ∧
    content = message.header ++ Source.textOf [.enter ("impl " ++ message.name ++ " \x7b"),
      .nest (json.steps { settings } message), .blank,
      .nest (literal.steps { settings } message), .leave "\x7d"] ∧
    (openings [.enter ("impl " ++ message.name ++ " \x7b"),
        .nest (json.steps { settings } message), .blank,
        .nest (literal.steps { settings } message), .leave "\x7d"]).filter isDefinition =
      ["pub fn " ++ settings.jsonMethod ++ "(&self) -> " ++ settings.jsonCrate ++ "::Value \x7b",
       "pub fn " ++ settings.literalMethod ++ "(&self, indent: &str) -> String \x7b"]
  /-- If the path of the JSON library does not break a line, one line of the file begins a
  definition of the first method. -/
  json_once : '\n' ∉ settings.jsonCrate.toList →
    Source.definitionsOf settings.jsonMethod content =
      ["    pub fn " ++ settings.jsonMethod ++ "(&self) -> " ++ settings.jsonCrate ++ "::Value \x7b"]
  /-- One line of such a file begins a definition of the second method. -/
  literal_once : '\n' ∉ settings.jsonCrate.toList →
    Source.definitionsOf settings.literalMethod content =
      ["    pub fn " ++ settings.literalMethod ++ "(&self, indent: &str) -> String \x7b"]
  /-- No line of such a file begins a definition of anything else. -/
  nothing_else : '\n' ∉ settings.jsonCrate.toList →
    ((Text.lines content).filter fun line => Source.isMethodLine line.toList).length = 2

section
variable {settings : Settings} {message : Message} {source : String}

/-- In every file that is generated without a broken line, two lines begin definitions. -/
theorem Message.filter_lines (h : message.Steady settings)
    (hsource : message.generate settings = .ok source) :
    (Text.lines (message.header ++ source)).filter (fun line => Source.isMethodLine line.toList) =
      ["    " ++ Json.signature settings, "    " ++ Literal.signature settings] := by
  obtain ⟨json, literal, _, _, _, _, hlines⟩ := exists_draft_of_generate h hsource
  have hchars : (fun line : String => Source.isMethodLine line.toList) ∘ String.ofList =
      Source.isMethodLine := funext fun line => congrArg _ String.toList_ofList
  have hdraft : Text.lines (message.header ++ source) =
      ((message.draft settings json literal).map (spell settings.wording)).map String.ofList := by
    rw [hlines, List.map_map]
    rfl
  have hmoved : ∀ {signature : String}, signature.toList ≠ [] →
      String.ofList (moved 1 signature.toList) = "    " ++ signature := by
    intro signature hne
    rw [Source.moved_of_ne_nil hne, String.ofList_append, String.ofList_toList]
    rfl
  rw [hdraft, List.filter_map, hchars, filter_draft, List.map_cons, List.map_singleton,
    hmoved (by simp [Json.signature]), hmoved (by simp [Literal.signature])]

/-- In such a file each method is defined once. -/
theorem Message.definitionsOf_file (h : message.Steady settings)
    (hmethods : settings.jsonMethod ≠ settings.literalMethod)
    (hsource : message.generate settings = .ok source) :
    Source.definitionsOf settings.jsonMethod (message.header ++ source) =
      ["    " ++ Json.signature settings] ∧
    Source.definitionsOf settings.literalMethod (message.header ++ source) =
      ["    " ++ Literal.signature settings] := by
  have hjson : '(' ∉ settings.jsonMethod.toList := Name.not_mem_of_isIdentifier h.jsonMethod rfl
  have hliteral : '(' ∉ settings.literalMethod.toList :=
    Name.not_mem_of_isIdentifier h.literalMethod rfl
  have hfirst : "    " ++ Json.signature settings = "    pub fn " ++ settings.jsonMethod ++
      "(&self" ++ (") -> " ++ settings.jsonCrate ++ "::Value \x7b") :=
    String.toList_inj.mp (by simp [Json.signature])
  have hsecond : "    " ++ Literal.signature settings = "    pub fn " ++ settings.literalMethod ++
      "(&self" ++ ", indent: &str) -> String \x7b" :=
    String.toList_inj.mp (by simp [Literal.signature])
  rw [Source.definitionsOf_eq, Source.definitionsOf_eq, filter_lines h hsource, hfirst, hsecond]
  constructor
  · rw [List.filter_cons, List.filter_cons, Source.isPrefixOf_definition _ hjson hjson,
      Source.isPrefixOf_definition _ hjson hliteral, decide_eq_true rfl, decide_eq_false hmethods]
    rfl
  · rw [List.filter_cons, List.filter_cons, Source.isPrefixOf_definition _ hliteral hjson,
      Source.isPrefixOf_definition _ hliteral hliteral, decide_eq_true rfl,
      decide_eq_false hmethods.symm]
    rfl

theorem Message.defines_of_generate (hname : Name.isIdentifier message.name = true)
    (hvalid : settings.validate = .ok ())
    (hsteady : '\n' ∉ settings.jsonCrate.toList → message.Steady settings)
    (hsource : message.generate settings = .ok source) :
    message.Defines settings (message.header ++ source) := by
  obtain ⟨hjsonMethod, hliteralMethod, _⟩ := Settings.isIdentifier_of_validate hvalid
  have hmethods := Settings.methods_ne_of_validate hvalid
  have hjsonline : "    pub fn " ++ settings.jsonMethod ++ "(&self) -> " ++ settings.jsonCrate ++
      "::Value \x7b" = "    " ++ Json.signature settings :=
    String.toList_inj.mp (by simp [Json.signature])
  have hliteralline : "    pub fn " ++ settings.literalMethod ++ "(&self, indent: &str) -> String \x7b" =
      "    " ++ Literal.signature settings :=
    String.toList_inj.mp (by simp [Literal.signature])
  obtain ⟨json, literal, hjson, hliteral, rfl⟩ := generate_eq_ok_iff.mp hsource
  refine ⟨?text, ⟨json, literal, hjson, hliteral, rfl, ?openings⟩, fun hcrate => ?json,
    fun hcrate => ?literal, fun hcrate => ?others⟩
  case text =>
    obtain ⟨type, laterjson, hlinesjson⟩ := Json.exists_lines_steps hname hjsonMethod hjson
    obtain ⟨laterliteral, hlinesliteral⟩ :=
      Literal.exists_lines_steps hname hliteralMethod hliteral
    refine ⟨type, laterjson.map String.toList, laterliteral.map String.toList, ?_⟩
    rw [String.toList_append, toList_header, toList_textOf_implSteps, hlinesjson, hlinesliteral,
      ← Text.unlines_append]
    rfl
  case openings => exact filter_openings hname hjson hliteral
  case json =>
    rw [hjsonline]
    exact (definitionsOf_file (hsteady hcrate) hmethods hsource).1
  case literal =>
    rw [hliteralline]
    exact (definitionsOf_file (hsteady hcrate) hmethods hsource).2
  case others =>
    have hlines := filter_lines (hsteady hcrate) hsource
    exact congrArg List.length hlines

end
end MessageDump
