import MessageDump.Proofs.Generation.Layout
import MessageDump.Proofs.Name.Legality
import MessageDump.Proofs.Routine.Wording
import MessageDump.Proofs.Text.Template
/-! # What the templates of the literal routine mean

The literal routine writes each value through templates into which names are put as
they are.  Read by the grammar of templates, these say what the dump of the value looks
like (`Literal.Dumps`), since linking leaves no character in a name that this
grammar treats in a special way.  What encloses the value of an alternative is made of
the name of its variant, and an alternative of underscores alone has none
(`Literal.templates_read_back`).
-/
namespace MessageDump

open Source (Context Operand Step)
open Text (IsFormat IsTemplate Item Placeholder)

/-! ## Names in a template -/

/-- A character that stands for itself in the literal of a template. -/
def Text.isPlain (c : Char) : Bool :=
  c ≠ '"' && c ≠ '\\' && c ≠ '\r' && c ≠ '\x7b' && c ≠ '\x7d'

/-- A text whose characters stand for themselves in the literal of a template. -/
def Text.Plain (text : String) : Prop := text.toList.all Text.isPlain = true

theorem Text.plain_iff {text : String} :
    Text.Plain text ↔ ∀ c ∈ text.toList, Text.isPlain c = true := List.all_eq_true

theorem Text.plain_append {a b : String} :
    Text.Plain (a ++ b) ↔ Text.Plain a ∧ Text.Plain b := by
  simp only [Text.plain_iff, String.toList_append, List.forall_mem_append]

theorem Name.plain_of_isPart {text : String} (h : ∀ c ∈ text.toList, Name.isPart c = true) :
    Text.Plain text := by
  refine Text.plain_iff.mpr fun c hc => ?_
  have hne : ∀ d, Name.isPart d = false → c ≠ d := by
    rintro d hd rfl
    rw [h c hc] at hd
    cases hd
  simp [Text.isPlain, hne '"' rfl, hne '\\' rfl, hne '\r' rfl, hne '\x7b' rfl, hne '\x7d' rfl]

theorem Name.plain {name : String} (h : Name.isIdentifier name = true) : Text.Plain name :=
  Name.plain_of_isPart fun _ => Name.isPart_of_mem h

theorem Name.plain_pascal {name : String} (h : Name.isIdentifier name = true) :
    Text.Plain (Name.pascal name) :=
  Name.plain_of_isPart fun _ => Name.isPart_of_mem_pascal h

/-- A name of underscores alone has no Pascal case. -/
theorem Name.pascal_eq_empty_iff {name : String} (h : Name.isIdentifier name = true) :
    Name.pascal name = "" ↔ ∃ n, name.toList = List.replicate n '_' := by
  rw [← String.toList_eq_nil_iff, Name.toList_pascal h]
  constructor
  · exact Name.exists_replicate_of_camelChars_eq_nil
  · rintro ⟨n, hname⟩
    rw [hname, Name.camelChars_replicate]

namespace Literal

/-- The statements that dump a value under a label, between what precedes and what
follows it.  A scalar has one line, with a placeholder for the indentation and one for
the value, which is quoted if it is a text.  A message has a line that opens it and one
that closes it, each with a placeholder for the indentation. -/
inductive Dumps (settings : Settings) (label opening closing operand : String) :
    Kind → List Step → Prop
  | scalar {type : Scalar} {call : String} : type ≠ .bytes →
      IsFormat call
        (.hole .display :: Item.ofText (label ++ ": " ++ opening) ++
          .hole (if type = .string then .debug else .display) :: Item.ofText (closing ++ ",") ++
          [.char '\n'])
        ["indent", operand] →
      Dumps settings label opening closing operand (.scalar type) [push { settings } call]
  | message {type begin finish : String} :
      IsFormat begin
        (.hole .display :: Item.ofText (label ++ ": " ++ opening ++ type ++ "\x7b") ++ [.char '\n'])
        ["indent"] →
      IsFormat finish
        (.hole .display :: Item.ofText ("\x7d" ++ closing ++ ",") ++ [.char '\n']) ["indent"] →
      Dumps settings label opening closing operand (.message type)
        [push { settings } begin,
         push { settings } (operand ++ "." ++ settings.literalMethod ++ "(&[indent, " ++
           Text.quote settings.indentUnit ++ "].concat())"),
         push { settings } finish]

/-! ## Templates -/

/-- Items that are spelled without a character that a literal escapes. -/
def Bare (items : List Item) : Prop :=
  ∀ c ∈ items.flatMap Item.chars, c ≠ '"' ∧ c ≠ '\\' ∧ c ≠ '\r'

theorem bare_append {first second : List Item} (hfirst : Bare first) (hsecond : Bare second) :
    Bare (first ++ second) := by
  rw [Bare, List.flatMap_append, List.forall_mem_append]
  exact ⟨hfirst, hsecond⟩

theorem bare_hole (placeholder : Placeholder) : Bare [.hole placeholder] := by
  cases placeholder <;> simp [Bare, Item.chars]

theorem bare_openingBrace : Bare (Item.ofText "\x7b") := by
  simp [Bare, Item.ofText, Item.chars]

theorem bare_closingBrace : Bare (Item.ofText "\x7d") := by
  simp [Bare, Item.ofText, Item.chars]

section
variable {text template : String} {front : List Item} {arguments : List String}

theorem flatMap_chars_of_plain (h : Text.Plain text) :
    (Item.ofText text).flatMap Item.chars = text.toList := by
  refine Text.flatMap_chars_ofText fun c hc => ?_
  have hplain := Text.plain_iff.mp h c hc
  simp only [Text.isPlain, Bool.and_eq_true, decide_eq_true_eq] at hplain
  exact ⟨hplain.1.2, hplain.2⟩

theorem bare_ofText (h : Text.Plain text) : Bare (Item.ofText text) := by
  rw [Bare, flatMap_chars_of_plain h]
  intro c hc
  have hplain := Text.plain_iff.mp h c hc
  simp only [Text.isPlain, Bool.and_eq_true, decide_eq_true_eq] at hplain
  exact ⟨hplain.1.1.1.1, hplain.1.1.1.2, hplain.1.1.2⟩

theorem countP_ofText (text : String) : (Item.ofText text).countP Item.isHole = 0 := by
  rw [Item.ofText, List.countP_map]
  exact List.countP_eq_zero.mpr fun _ _ => Bool.false_ne_true

theorem ofText_append (a b : String) : Item.ofText (a ++ b) = Item.ofText a ++ Item.ofText b := by
  rw [Item.ofText, String.toList_append, List.map_append]
  rfl

/-- A template that is spelled out of items and ends in the escape of a line feed. -/
theorem isFormat_filled (hbare : Bare front)
    (htemplate : template.toList = front.flatMap Item.chars ++ ['\\', 'n'])
    (hcount : front.countP Item.isHole = arguments.length) :
    IsFormat (filled template arguments) (front ++ [.char '\n']) arguments := by
  have hopening : "format!(\"" = "format!(" ++ "\"" := rfl
  have hclosing : "\", " = "\"" ++ ", " := rfl
  have hliteral : IsTemplate ("\"" ++ template ++ "\"") (front ++ [.char '\n']) := by
    refine Text.isTemplate_of_plain hbare ?_
    rw [String.toList_append, String.toList_append, htemplate]
    simp
  refine ⟨⟨_, hliteral, ?_⟩, ?_⟩
  · simp only [filled, hopening, hclosing, String.append_assoc]
  · rw [List.countP_append, hcount]
    rfl

end

section
variable {label wrapper type verb indent operand : String} {placeholder : Placeholder}
  (hlabel : Text.Plain label) (hwrapper : Text.Plain wrapper)
include hwrapper

theorem plain_wrapOpening : Text.Plain (wrapOpening wrapper) := by
  unfold wrapOpening
  split
  · rfl
  · exact Text.plain_append.mpr ⟨hwrapper, rfl⟩

omit hwrapper in
theorem plain_wrapClosing (wrapper : String) : Text.Plain (wrapClosing wrapper) := by
  unfold wrapClosing
  split <;> rfl

include hlabel

theorem plain_before_value : Text.Plain (label ++ ": " ++ wrapOpening wrapper) :=
  Text.plain_append.mpr ⟨Text.plain_append.mpr ⟨hlabel, rfl⟩, plain_wrapOpening hwrapper⟩

theorem isFormat_value (hverb : verb.toList = (Item.hole placeholder).chars) :
    IsFormat (filled (valueTemplate label wrapper verb) [indent, operand])
      (.hole .display :: Item.ofText (label ++ ": " ++ wrapOpening wrapper) ++
        .hole placeholder :: Item.ofText (wrapClosing wrapper ++ ",") ++ [.char '\n'])
      [indent, operand] := by
  have hbefore := plain_before_value hlabel hwrapper
  have hafter : Text.Plain (wrapClosing wrapper ++ ",") :=
    Text.plain_append.mpr ⟨plain_wrapClosing wrapper, rfl⟩
  refine isFormat_filled ?_ ?_ ?_
  · exact bare_append (bare_append (bare_hole _) (bare_ofText hbefore))
      (bare_append (bare_hole placeholder) (bare_ofText hafter))
  · rw [List.cons_append, List.flatMap_cons, List.flatMap_append, List.flatMap_cons,
      flatMap_chars_of_plain hbefore, flatMap_chars_of_plain hafter, ← hverb]
    simp [valueTemplate, Item.chars]
  · rw [List.countP_append, List.countP_cons, List.countP_cons, countP_ofText, countP_ofText]
    rfl

theorem isFormat_opening (htype : Text.Plain type) :
    IsFormat (filled (openingTemplate label wrapper type) [indent])
      (.hole .display :: Item.ofText (label ++ ": " ++ wrapOpening wrapper ++ type ++ "\x7b") ++
        [.char '\n']) [indent] := by
  have hbefore : Text.Plain (label ++ ": " ++ wrapOpening wrapper ++ type) :=
    Text.plain_append.mpr ⟨plain_before_value hlabel hwrapper, htype⟩
  rw [ofText_append]
  refine isFormat_filled ?_ ?_ ?_
  · exact bare_append (bare_hole _) (bare_append (bare_ofText hbefore) bare_openingBrace)
  · rw [List.flatMap_cons, List.flatMap_append, flatMap_chars_of_plain hbefore]
    simp [openingTemplate, Item.chars, Item.ofText]
  · rw [List.countP_cons, List.countP_append, countP_ofText, countP_ofText]
    rfl

omit hlabel hwrapper in
theorem isFormat_closing (wrapper : String) :
    IsFormat (filled (closingTemplate wrapper) [indent])
      (.hole .display :: Item.ofText ("\x7d" ++ wrapClosing wrapper ++ ",") ++ [.char '\n'])
      [indent] := by
  have hafter : Text.Plain (wrapClosing wrapper ++ ",") :=
    Text.plain_append.mpr ⟨plain_wrapClosing wrapper, rfl⟩
  rw [String.append_assoc, ofText_append]
  refine isFormat_filled ?_ ?_ ?_
  · exact bare_append (bare_hole _) (bare_append bare_closingBrace (bare_ofText hafter))
  · rw [List.flatMap_cons, List.flatMap_append, flatMap_chars_of_plain hafter]
    simp [closingTemplate, Item.chars, Item.ofText]
  · rw [List.countP_cons, List.countP_append, countP_ofText, countP_ofText]
    rfl

end

/-! ## The statements for a value -/

section
variable {settings : Settings} {label wrapper : String} {kind : Kind} {made : Form}

/-- The placeholder of a scalar quotes texts and nothing else. -/
theorem toList_of_scalarVerb?_eq_some {type : Scalar} {verb : String}
    (h : scalarVerb? type = some verb) :
    verb.toList = (Item.hole (if type = .string then .debug else .display)).chars := by
  cases type <;> cases h <;> rfl

theorem dumps_lines (operand : Operand) (hlabel : Text.Plain label) (hwrapper : Text.Plain wrapper)
    (htype : ∀ type, kind = .message type → Name.isIdentifier type = true)
    (hform : form? kind = some made) :
    Dumps settings label (wrapOpening wrapper) (wrapClosing wrapper) operand.expr kind
      (lines { settings } label wrapper operand made) := by
  cases kind with
  | scalar type =>
    obtain ⟨verb, hverb, rfl⟩ := Option.map_eq_some_iff.mp hform
    refine .scalar ?_ (isFormat_value hlabel hwrapper (toList_of_scalarVerb?_eq_some hverb))
    rintro rfl
    cases hverb
  | message type =>
    obtain rfl := Option.some.inj hform
    have hplain := Name.plain (htype type rfl)
    have hdumps : Dumps settings label (wrapOpening wrapper) (wrapClosing wrapper) operand.expr
      (.message type) _ := .message (isFormat_opening hlabel hwrapper hplain) (isFormat_closing wrapper)
    rwa [← call_eq] at hdumps
  -- the other kinds have no form
  | _ => cases hform

theorem push_injective {ctx : Context} {first second : String}
    (h : push ctx first = push ctx second) : first = second := by
  have htexts := congrArg String.toList (Step.line.inj h)
  simp only [String.toList_append, List.append_assoc] at htexts
  exact String.toList_injective
    (List.append_cancel_right (List.append_cancel_left (List.append_cancel_left htexts)))

/-- Statements dump a scalar in one way only. -/
theorem Dumps.items_eq {opening opening' closing closing' operand : String} {type : Scalar}
    {steps : List Step} (h : Dumps settings label opening closing operand (.scalar type) steps)
    (h' : Dumps settings label opening' closing' operand (.scalar type) steps) :
    Item.ofText (label ++ ": " ++ opening) ++
        .hole (if type = .string then .debug else .display) :: Item.ofText (closing ++ ",") =
      Item.ofText (label ++ ": " ++ opening') ++
        .hole (if type = .string then .debug else .display) :: Item.ofText (closing' ++ ",") := by
  -- the call is taken out first: a case split on both dumps would not unify their texts
  have hcall : ∀ {opening closing : String} {steps : List Step},
      Dumps settings label opening closing operand (.scalar type) steps → ∃ call,
        steps = [push { settings } call] ∧ IsFormat call
          (.hole .display :: Item.ofText (label ++ ": " ++ opening) ++
            .hole (if type = .string then .debug else .display) :: Item.ofText (closing ++ ",") ++
            [.char '\n']) ["indent", operand] := by
    intro _ _ _ hdumps
    cases hdumps with
    | scalar _ hformat => exact ⟨_, rfl, hformat⟩
  obtain ⟨call, hsteps, hformat⟩ := hcall h
  obtain ⟨call', hsteps', hformat'⟩ := hcall h'
  obtain rfl := push_injective (List.singleton_inj.mp (hsteps.symm.trans hsteps'))
  have hitems := hformat.items_eq hformat'
  exact List.tail_eq_of_cons_eq (List.append_cancel_right hitems)

end

/-! ## Fields and alternatives -/

section
variable {messages : List Message} {schema : Schema} {settings : Settings} {message : Message}
  {field : Field} {oneof : Oneof}

theorem form_of_weak (h : field.weak = true) :
    form message field = .error (.weak message.name field.name) := by
  rw [form, h]
  rfl

theorem exists_form_and_type (message : Message) (hweak : field.weak = false)
    (hkind : field.kind.Supported) :
    ∃ made type, form? field.kind = some made ∧ form message field = .ok made ∧
      FieldType.resolve message field = .ok type := by
  obtain ⟨type, htype⟩ := Field.Supported.exists_ofKind? ⟨hweak, hkind⟩
  obtain ⟨made, hmade⟩ := exists_form?_of_supported hkind
  exact ⟨made, type, hmade, form_eq_ok_iff.mpr ⟨hweak, hmade⟩,
    (FieldType.resolve_eq_ok_iff hweak).mpr htype⟩

/-- **The templates of the literal routine mean what a dump looks like.**  For each
field on its own and each alternative of a supported kind, in a message of a linked
schema, the statements that dump it have templates that are read without a fault, with
a placeholder for each argument: the label is the name of the field or of the oneof,
and the value of an alternative is enclosed by the name of its variant and brackets.
The one exception is an alternative whose name is made of underscores, which has no
variant name: its value is not enclosed.  A weak field has no statements. -/
theorem templates_read_back (settings : Settings) (hlink : Schema.link messages = .ok schema)
    (hmem : message ∈ schema.messages) :
    (∀ field ∈ message.standalone, field.kind.Supported →
      if field.weak then
        memberBlock { settings } message field = .error (.weak message.name field.name)
      else ∃ guarded steps,
        memberBlock { settings } message field = .ok (.member field guarded [.nest steps]) ∧
        Dumps settings field.name "" "" (field.operand { settings } guarded).expr field.kind
          steps) ∧
    ∀ oneof ∈ message.oneofs, ∀ alternative ∈ message.alternatives oneof,
      alternative.kind.Supported →
      (alternative.variant = "" ↔ ∃ n, alternative.name.toList = List.replicate n '_') ∧
      if alternative.weak then
        armBody { settings } message oneof alternative (Context.boundValue { settings }) =
          .error (.weak message.name alternative.name)
      else ∃ steps,
        armBody { settings } message oneof alternative (Context.boundValue { settings }) =
          .ok steps ∧
        if alternative.variant = "" then
          Dumps settings oneof.name "" "" "value" alternative.kind steps
        else
          Dumps settings oneof.name (alternative.variant ++ "(") ")" "value" alternative.kind
            steps := by
  have hwell := Schema.wellFormed_of_link_eq_ok hlink hmem
  have htypes := Schema.isIdentifier_of_kind_eq_message hlink hmem
  refine ⟨fun field hstandalone hkind => ?member, fun oneof honeof alternative hmember hkind => ?arm⟩
  case member =>
    have hfield := (Message.mem_standalone.mp hstandalone).1
    cases hweak : field.weak with
    | true =>
      rw [if_pos rfl, memberBlock, form_of_weak hweak]
      rfl
    | false =>
      obtain ⟨made, type, hmade, hform, htype⟩ := exists_form_and_type message hweak hkind
      rw [if_neg Bool.false_ne_true]
      refine ⟨_, _, memberBlock_eq_ok_iff.mpr ⟨made, type, hform, htype, rfl⟩, ?_⟩
      have hempty : Text.Plain "" := rfl
      exact dumps_lines _ (Name.plain (hwell.field_identifier field hfield)) hempty
        (htypes field hfield) hmade
  case arm =>
    have hfield := (Message.mem_alternatives.mp hmember).1
    have hname := hwell.field_identifier alternative hfield
    refine ⟨Name.pascal_eq_empty_iff hname, ?_⟩
    cases hweak : alternative.weak with
    | true =>
      rw [if_pos rfl, armBody, form_of_weak hweak]
      rfl
    | false =>
      obtain ⟨made, type, hmade, hform, htype⟩ := exists_form_and_type message hweak hkind
      rw [if_neg Bool.false_ne_true]
      refine ⟨_, armBody_eq_ok_iff.mpr ⟨made, type, hform, htype, rfl⟩, ?_⟩
      have hdumps : Dumps settings oneof.name (wrapOpening alternative.variant)
          (wrapClosing alternative.variant) "value" alternative.kind _ :=
        dumps_lines (Context.boundValue { settings }) (Name.plain (hwell.oneof_identifier oneof honeof))
          (Name.plain_pascal hname) (htypes alternative hfield) hmade
      split
      · next hvariant =>
        rwa [wrapOpening, wrapClosing, if_pos hvariant, if_pos hvariant] at hdumps
      · next hvariant =>
        rwa [wrapOpening, wrapClosing, if_neg hvariant, if_neg hvariant] at hdumps

end

end Literal

namespace Sample

/-- An alternative whose name has no letter. -/
def unnamed : Field := { Field.ofName "__" (.scalar .string) with oneof := some "body" }

/-- A message with such an alternative beside a usual one. -/
def remark : Message where
  name := "Note"
  fields := [unnamed, { Field.ofName "text" (.scalar .string) with oneof := some "body" }]
  oneofs := [⟨"body"⟩]

theorem link_remark : Schema.link [remark] = .ok ⟨[remark]⟩ := by rfl

end Sample

/-- The photos of `post`, one on its own and one as an alternative. -/
theorem Sample.templates_of_post :
    (∃ guarded steps,
      Literal.memberBlock {} post (Field.ofName "cover_photo" (.message "Photo")) =
        .ok (.member (Field.ofName "cover_photo" (.message "Photo")) guarded [.nest steps]) ∧
      Literal.Dumps {} "cover_photo" "" ""
        ((Field.ofName "cover_photo" (.message "Photo")).operand {} guarded).expr
        (.message "Photo") steps) ∧
    ∃ steps,
      Literal.armBody {} post ⟨"rich_body"⟩
        { Field.ofName "photo" (.message "Photo") with oneof := some "rich_body" }
        (Context.boundValue {}) = .ok steps ∧
      Literal.Dumps {} "rich_body" "Photo(" ")" "value" (.message "Photo") steps := by
  have hpost : post ∈ (⟨[photo, post]⟩ : Schema).messages := by simp
  obtain ⟨hmembers, harms⟩ := Literal.templates_read_back {} link_eq_ok hpost
  constructor
  · exact hmembers (Field.ofName "cover_photo" (.message "Photo"))
      (by simp [post, Message.standalone, Field.ofName]) (.message "Photo")
  · exact (harms ⟨"rich_body"⟩ (by simp [post])
      { Field.ofName "photo" (.message "Photo") with oneof := some "rich_body" }
      (by simp [post, Message.alternatives, Field.ofName]) (.message "Photo")).2

/-- The value of an alternative without a letter is not enclosed in brackets. -/
theorem Sample.not_enclosed :
    Schema.link [remark] = .ok ⟨[remark]⟩ ∧ unnamed ∈ remark.alternatives ⟨"body"⟩ ∧
      unnamed.Supported ∧
      ∃ steps,
        Literal.armBody {} remark ⟨"body"⟩ unnamed (Context.boundValue {}) = .ok steps ∧
        ¬ Literal.Dumps {} "body" (unnamed.variant ++ "(") ")" "value" unnamed.kind steps := by
  refine ⟨link_remark, by decide, ⟨rfl, .scalar (by decide)⟩, _, rfl, ?_⟩
  intro h
  have hlabel : Text.Plain "body" := rfl
  have hvariant : Text.Plain unnamed.variant := rfl
  have htype : ∀ type, Kind.scalar .string = .message type → Name.isIdentifier type = true := nofun
  have hown : Literal.Dumps {} "body" "" "" "value" (.scalar .string) _ :=
    Literal.dumps_lines (Context.boundValue {}) hlabel hvariant htype rfl
  have hitems := Literal.Dumps.items_eq h hown
  revert hitems
  decide

end MessageDump
