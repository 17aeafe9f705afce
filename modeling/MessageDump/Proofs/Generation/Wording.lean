import MessageDump.Proofs.Generation.Layout
import MessageDump.Proofs.Routine.Wording
import MessageDump.Proofs.Text.Literal
/-! # Unchecked texts survive between quotes

Nothing checks the JSON names of fields and the unit of indentation.  They get into a
generated file only between quotes, so that the file of a message is one draft, spelled
out in the wording that the message and the settings have
(`Message.exists_draft`).  Each of its gaps is read as the text that was put into
it, up to the closing quote of its own, and never reaches over the end of a line
(`Message.quoted_texts_survive`).
-/
namespace MessageDump

open Source (Drafted Mark OneLine fixed gaps joined movedMarks spell)
open Text (NoBreak)

section
variable {settings : Settings} {message : Message}

/-- The lines of the file of a message, with what is inside its two routines. -/
def Message.draft (settings : Settings) (message : Message)
    (json literal : List (List (Mark Wording))) : List (List (Mark Wording)) :=
  message.headerLines.map fixed ++ ([fixed ("impl " ++ message.name ++ " \x7b").toList] ++
    ((Routine.draft ("/// Builds the JSON node tree of this `" ++ message.name ++ "`.")
        (Json.signature settings) json ++ ([[]] ++
      Routine.draft ("/// Renders this `" ++ message.name ++
        "` as an indented literal, one field per line.") (Literal.signature settings) literal)).map
      (movedMarks 1) ++ [fixed "\x7d".toList]))

theorem Message.flatMap_gaps_draft (json literal : List (List (Mark Wording))) :
    (message.draft settings json literal).flatMap gaps =
      json.flatMap gaps ++ literal.flatMap gaps := by
  simp only [draft, List.flatMap_append, Source.flatMap_gaps_movedMarks, Routine.flatMap_gaps_draft,
    Source.gaps_fixed, Source.gaps_nil, List.nil_append, List.append_nil, headerLines, List.map_cons,
    List.map_nil, List.flatMap_cons, List.flatMap_nil]

theorem Message.unbroken_headerLines (h : Name.isIdentifier message.name = true) :
    ∀ line ∈ message.headerLines, Text.Unbroken line := by
  intro line hline
  exact ((headerLines_layout h).clean line hline).unbroken

/-- In the given wording of its unchecked texts a message is generated, and its file has
the lines of this draft. -/
def Message.Spells (settings : Settings) (message : Message) (w : Wording)
    (lines : List (List (Mark Wording))) : Prop :=
  ∃ source, (message.reworded w).generate (settings.reworded w) = .ok source ∧
    ((message.reworded w).header ++ source).toList = spell w (joined lines) ∧
    Text.lines ((message.reworded w).header ++ source) =
      lines.map fun line => String.ofList (spell w line)

/-- **The file of a message in every wording**: the lines of one draft. -/
theorem Message.exists_draft (h : message.Steady settings)
    (hsupported : ∀ field ∈ message.subjects, field.Supported) :
    ∃ json literal : List (List (Mark Wording)),
      json.flatMap gaps = message.entries.flatMap (Entry.jsonTexts message) ∧
      literal.flatMap gaps = message.subjects.flatMap Field.indentTexts ∧
      ∀ w, message.Spells settings w (message.draft settings json literal) := by
  obtain ⟨json, lsjson, hjson, hdraftedjson, hgapsjson⟩ := Json.exists_drafted_steps h hsupported
  obtain ⟨literal, lsliteral, hliteral, hdraftedliteral, hgapsliteral⟩ :=
    Literal.exists_drafted_steps h hsupported
  have hopening : OneLine ("impl " ++ message.name ++ " \x7b").toList :=
    Source.oneLine_append (by decide) (by simp [(Name.noBreak h.name).1])
  have himpl := (hdraftedjson.nest.append (Drafted.blank.append hdraftedliteral.nest)).block
    hopening Source.oneLine_brace
  refine ⟨lsjson, lsliteral, hgapsjson, hgapsliteral, fun w => ?_⟩
  have hheader : (message.headerLines.map fixed).map (spell w) = message.headerLines := by
    rw [List.map_map]
    exact List.map_id'' (Source.spell_fixed w) _
  have hgenerate : (message.reworded w).generate (settings.reworded w) =
      .ok (Source.textOf (message.implSteps (json w) (literal w))) :=
    bind_eq_ok.mpr ⟨_, hjson w, bind_eq_ok.mpr ⟨_, hliteral w, rfl⟩⟩
  have hcontent : (message.header ++ Source.textOf (message.implSteps (json w) (literal w))).toList =
      Text.unlines ((message.draft settings lsjson lsliteral).map (spell w)) := by
    rw [String.toList_append, toList_header, draft, List.map_append, hheader, Text.unlines_append]
    exact congrArg _ (himpl.writes w).toList_textOf
  refine ⟨_, hgenerate, hcontent.trans (Source.spell_joined w).symm, ?_⟩
  refine (Text.lines_of_toList_eq_unlines hcontent ?_).trans (List.map_map ..)
  rw [draft, List.map_append, hheader, List.forall_mem_append]
  refine ⟨unbroken_headerLines h.name, List.forall_mem_map.mpr ?_⟩
  exact himpl.unbroken w

/-- The file as it is generated is its draft in its own wording. -/
theorem Message.exists_draft_of_generate {source : String} (h : message.Steady settings)
    (hsource : message.generate settings = .ok source) :
    ∃ json literal : List (List (Mark Wording)),
      json.flatMap gaps = message.entries.flatMap (Entry.jsonTexts message) ∧
      literal.flatMap gaps = message.subjects.flatMap Field.indentTexts ∧
      (∀ w, message.Spells settings w (message.draft settings json literal)) ∧
      (message.header ++ source).toList =
        spell settings.wording (joined (message.draft settings json literal)) ∧
      Text.lines (message.header ++ source) = (message.draft settings json literal).map
        fun line => String.ofList (spell settings.wording line) := by
  have hsupported := generate_succeeds_iff.mp ⟨source, hsource⟩
  obtain ⟨json, literal, hgapsjson, hgapsliteral, hfiles⟩ := exists_draft h hsupported
  obtain ⟨same, hsame, hcontent, hlines⟩ := hfiles settings.wording
  -- nothing is reworded by its own wording
  have hsettings : settings.reworded settings.wording = settings := rfl
  rw [message.reworded_wording settings, hsettings, hsource] at hsame
  obtain rfl := Except.ok.inj hsame
  rw [message.reworded_wording settings] at hcontent hlines
  exact ⟨json, literal, hgapsjson, hgapsliteral, hfiles, hcontent, hlines⟩

end

section
variable {messages : List Message} {schema : Schema} {settings : Settings} {message : Message}

theorem Schema.steady_of_link (hlink : Schema.link messages = .ok schema)
    (hvalid : settings.validate = .ok ()) (hcrate : '\n' ∉ settings.jsonCrate.toList)
    (hmem : message ∈ schema.messages) : message.Steady settings := by
  have hwell := Schema.wellFormed_of_link_eq_ok hlink hmem
  obtain ⟨hjson, hliteral, _⟩ := Settings.isIdentifier_of_validate hvalid
  exact ⟨hjson, hliteral, hcrate, hwell.name_identifier, hwell.field_identifier,
    hwell.oneof_identifier, Schema.isIdentifier_of_kind_eq_message hlink hmem⟩

/-- **Unchecked texts survive between quotes.**  The file of a message is a draft whose
gaps are for the JSON names of its fields, the keys of its oneofs and, in the literal
routine, the unit of indentation.  In any wording of these texts the file that is
generated is this draft spelled out, and has the same number of lines.  What stands in
a gap is read as the text it is for, up to the closing quote of its own; it holds no
line end, and is kept whole on one line whenever a text that it is part of is cut into
lines. -/
theorem Message.quoted_texts_survive {source : String} (hlink : Schema.link messages = .ok schema)
    (hmem : message ∈ schema.messages) (hvalid : settings.validate = .ok ())
    (hcrate : '\n' ∉ settings.jsonCrate.toList) (hsource : message.generate settings = .ok source) :
    ∃ draft : List (Mark Wording),
      gaps draft = message.entries.flatMap (Entry.jsonTexts message) ++
        message.subjects.flatMap Field.indentTexts ∧
      (message.header ++ source).toList = spell settings.wording draft ∧
      (∀ w, ∃ reworded, (message.reworded w).generate (settings.reworded w) = .ok reworded ∧
        ((message.reworded w).header ++ reworded).toList = spell w draft ∧
        (Text.lines ((message.reworded w).header ++ reworded)).length =
          (Text.lines (message.header ++ source)).length) ∧
      ∀ before text after, draft = before ++ .gap text :: after → ∀ w,
        Text.readQuoted (spell w (.gap text :: after)) = some ((text w).toList, spell w after) ∧
        NoBreak (Text.quote (text w)).toList ∧
        ∀ front back, ∃ earlier start rest later,
          Text.lines (front ++ Text.quote (text w) ++ back) =
            earlier ++ (start ++ Text.quote (text w) ++ rest) :: later := by
  have hsteady := Schema.steady_of_link hlink hvalid hcrate hmem
  obtain ⟨json, literal, hgapsjson, hgapsliteral, hfiles, hcontent, hlines⟩ :=
    exists_draft_of_generate hsteady hsource
  refine ⟨joined (message.draft settings json literal), ?gaps, hcontent, fun w => ?reworded,
    ?literals⟩
  case gaps => rw [Source.gaps_joined, flatMap_gaps_draft, hgapsjson, hgapsliteral]
  case reworded =>
    obtain ⟨reworded, hreworded, hcontent', hlines'⟩ := hfiles w
    exact ⟨reworded, hreworded, hcontent', by rw [hlines', hlines, List.length_map, List.length_map]⟩
  case literals =>
    intro before text after _ w
    have hbreak := Text.noBreak_quote (text w)
    refine ⟨?_, hbreak, fun front back => ?_⟩
    · rw [Source.spell_gap, Text.readQuoted_quotedChars]
    · have hne : (Text.quote (text w)).toList ≠ [] := by
        simp [Text.quote, Text.quotedChars]
      obtain ⟨earlier, start, rest, later, hlines⟩ :=
        Text.exists_line_of_noBreak hbreak hne front.toList back.toList
      refine ⟨earlier, String.ofList start, String.ofList rest, later, ?_⟩
      have htext : ∀ a b : List Char, String.ofList (a ++ ((Text.quote (text w)).toList ++ b)) =
          String.ofList a ++ Text.quote (text w) ++ String.ofList b := by
        intro a b
        rw [String.ofList_append, String.ofList_append, String.ofList_toList, String.append_assoc]
      rwa [htext, htext, String.ofList_toList, String.ofList_toList] at hlines

end

namespace Sample

/-- A message with a JSON name that would end its literal, its line and a block. -/
def letter : Message where
  name := "Letter"
  fields :=
    [{ Field.ofName "text" (.scalar .string) with jsonName := "first\nsecond \"\\\x7d" },
     Field.ofName "cover_photo" (.message "Photo")]

/-- Settings with a unit of indentation that breaks the line. -/
def broken : Settings where
  indentUnit := "\"\r\n"

theorem link_letter : Schema.link [photo, letter] = .ok ⟨[photo, letter]⟩ := by rfl

theorem generate_letter : faultOf? (letter.generate broken) = none := by rfl

end Sample

/-- The texts of `letter` survive, and its file has as many lines as with any others. -/
theorem Sample.letter_survives :
    ∃ source draft, letter.generate broken = .ok source ∧
      (letter.header ++ source).toList = spell broken.wording draft ∧
      (gaps draft).map (· broken.wording) =
        ["first\nsecond \"\\\x7d", "coverPhoto", "\"\r\n"] ∧
      ∀ w, ∃ reworded, (letter.reworded w).generate (broken.reworded w) = .ok reworded ∧
        ((letter.reworded w).header ++ reworded).toList = spell w draft ∧
        (Text.lines ((letter.reworded w).header ++ reworded)).length =
          (Text.lines (letter.header ++ source)).length := by
  obtain ⟨source, hsource⟩ := faultOf?_eq_none_iff.mp generate_letter
  have hcrate : '\n' ∉ broken.jsonCrate.toList := by decide
  obtain ⟨draft, hgaps, hcontent, hreworded, _⟩ :=
    Message.quoted_texts_survive link_letter (by simp) (by rfl) hcrate hsource
  refine ⟨source, draft, hsource, hcontent, ?_, hreworded⟩
  rw [hgaps]
  rfl

end MessageDump
