import MessageDump.Proofs.Generation.Definitions
import MessageDump.Proofs.Text.Sections
/-! # Files in one text

Without a directory to write to, the files of a schema are printed one after the other.
They can be taken apart again (`Schema.contents_concat`), since each of them begins with
a line that no file has anywhere else (`Message.isSection_of_generate`).  The path of
the JSON library could bring that line into a file, for nothing forbids line breaks in
it.  But whatever the routines write is nested into the block of the message, and a line
that is moved is not what it was before: it begins with a space.
-/
namespace MessageDump

open Source (moved)

/-- The line at the head of every file. -/
def OutputFile.headLine : String := "// @generated by protodump. Do not edit."

/-- The contents of the files that a text is made of: the text is cut before each line
that heads a file, and the line feed that separates each file from the next is
dropped. -/
def OutputFile.contents (text : String) : List String :=
  (Text.takeApart headLine.toList text.toList).map String.ofList

/-! ## The lines of one file -/

/-- A line that is not the one at the head of a file, and does not become it by losing a
carriage return. -/
def Source.HeadsNothing (line : List Char) : Prop :=
  '\n' ∉ line ∧ Text.dropReturn line ≠ OutputFile.headLine.toList

theorem Source.headsNothing_of_noBreak {line : List Char} (h : Text.NoBreak line)
    (hne : line ≠ OutputFile.headLine.toList) : Source.HeadsNothing line := by
  refine ⟨h.1, ?_⟩
  rwa [Text.dropReturn_of_getLast? h.unbroken.getLast?_ne]

/-- A line that is moved begins with a space, or is empty. -/
theorem Source.headsNothing_moved {line : List Char} (h : '\n' ∉ line) :
    Source.HeadsNothing (moved 1 line) := by
  by_cases hline : line = []
  · subst hline
    exact Source.headsNothing_of_noBreak Text.noBreak_nil (by decide)
  · rw [Source.moved_of_ne_nil hline]
    refine ⟨by simp [h], ?_⟩
    rw [Text.dropReturn_append _ hline]
    intro heq
    have hfirst : some ' ' = OutputFile.headLine.toList.head? := congrArg List.head? heq
    exact absurd hfirst (by decide)

section
variable {settings : Settings} {message : Message} {source : String}

/-- **No line of a file but the first is the one at the head of files**, whatever the
path of the JSON library is. -/
theorem Message.isSection_of_generate (hname : Name.isIdentifier message.name = true)
    (hsource : message.generate settings = .ok source) :
    Text.IsSection OutputFile.headLine.toList (message.header ++ source).toList := by
  obtain ⟨json, literal, _, _, rfl⟩ := generate_eq_ok_iff.mp hsource
  have hbreak := Name.noBreak hname
  have hmoved : ∀ text, ∀ line ∈ (Text.lines text).map String.toList,
      Source.HeadsNothing (moved 1 line) := by
    intro text line hline
    obtain ⟨_, hmem, rfl⟩ := List.mem_map.mp hline
    exact Source.headsNothing_moved (Text.feed_not_mem_of_mem_lines hmem)
  rw [String.toList_append, toList_header, toList_textOf_implSteps, ← Text.unlines_append]
  refine ⟨_, rfl, ?_⟩
  show ∀ line ∈ ("// Message: " ++ message.name).toList :: [] ::
      ("impl " ++ message.name ++ " \x7b").toList :: (List.map (moved 1) _ ++ ["\x7d".toList]),
    Source.HeadsNothing line
  rw [List.forall_mem_cons, List.forall_mem_cons, List.forall_mem_cons, List.forall_mem_append,
    List.forall_mem_map, List.forall_mem_append, List.forall_mem_append, List.forall_mem_singleton,
    List.forall_mem_singleton]
  refine ⟨?name, ?blank, ?impl, ⟨hmoved _, ?between, hmoved _⟩, ?close⟩
  case name => exact Source.headsNothing_of_noBreak (by simp [hbreak]) (by simp [OutputFile.headLine])
  case blank => exact Source.headsNothing_of_noBreak Text.noBreak_nil (by decide)
  case impl => exact Source.headsNothing_of_noBreak (by simp [hbreak]) (by simp [OutputFile.headLine])
  case between => exact Source.headsNothing_moved List.not_mem_nil
  case close => exact Source.headsNothing_of_noBreak (by decide) (by decide)

end

/-! ## The lines of all files -/

section
variable {messages : List Message} {schema : Schema} {settings : Settings}
  {files : List OutputFile}

theorem OutputFile.noBreak_headLine : Text.NoBreak OutputFile.headLine.toList := by decide

theorem OutputFile.toList_concat (files : List OutputFile) :
    (concat files).toList = ['\n'].intercalate (files.map (·.content.toList)) := by
  rw [concat, String.toList_intercalate, List.map_map]
  rfl

theorem Schema.isSection_of_mem (hlink : Schema.link messages = .ok schema)
    (hfiles : schema.generate settings = .ok files) {file : OutputFile} (hmem : file ∈ files) :
    Text.IsSection OutputFile.headLine.toList file.content.toList := by
  obtain ⟨message, hmessage, source, hsource, rfl⟩ := exists_mem_of_forall₂
    (outputFiles_eq_ok_iff.mp (outputFiles_of_generate hfiles)) hmem
  exact Message.isSection_of_generate (wellFormed_of_link_eq_ok hlink hmessage).name_identifier hsource

/-- **The printed files of a schema can be taken apart again**, for all settings with
which it is generated.  Their lines are those of the files, with an empty one between
two of them, and of the lines of a file the first is the head line and no other is.  So
a cut before each head line has nothing in front and gives the contents of the files in
order, each but the last with the line feed that separates it from the next; without it,
these are the contents, and each ends in a line feed of its own. -/
theorem Schema.contents_concat (hlink : Schema.link messages = .ok schema)
    (hfiles : schema.generate settings = .ok files) :
    Text.lines (OutputFile.concat files) =
      [""].intercalate (files.map fun file => Text.lines file.content) ∧
    (∀ file ∈ files, ∃ later, Text.lines file.content = OutputFile.headLine :: later ∧
      OutputFile.headLine ∉ later) ∧
    Text.cutAtLines OutputFile.headLine.toList (OutputFile.concat files).toList =
      ([], Text.separated ['\n'] (files.map (·.content.toList))) ∧
    OutputFile.contents (OutputFile.concat files) = files.map (·.content) ∧
    ∀ file ∈ files, file.content.toList.getLast? = some '\n' := by
  have hsections : ∀ text ∈ files.map (·.content.toList),
      Text.IsSection OutputFile.headLine.toList text := by
    rw [List.forall_mem_map]
    exact fun file hmem => isSection_of_mem hlink hfiles hmem
  refine ⟨?lines, ?heads, ?cut, ?contents, ?ends⟩
  case lines =>
    rw [OutputFile.concat, Text.lines_intercalate, List.map_map]
    · rfl
    · rw [List.forall_mem_map]
      exact fun file hmem => (isSection_of_mem hlink hfiles hmem).getLast?_eq
  case heads =>
    intro file hmem
    exact (isSection_of_mem hlink hfiles hmem).exists_lines OutputFile.noBreak_headLine
  case cut =>
    rw [OutputFile.toList_concat]
    exact Text.cutAtLines_intercalate OutputFile.noBreak_headLine (by decide) hsections
  case contents =>
    rw [OutputFile.contents, OutputFile.toList_concat,
      Text.takeApart_intercalate OutputFile.noBreak_headLine (by decide) hsections, List.map_map]
    exact List.map_congr_left fun file _ => String.ofList_toList
  case ends =>
    intro file hmem
    exact (isSection_of_mem hlink hfiles hmem).getLast?_eq

end

/-! ## A path that holds the head line -/

namespace Sample

/-- Settings with which the head line gets into the routines. -/
def headed : Settings where
  jsonCrate := "json\n// @generated by protodump. Do not edit.\r\n"

theorem generate_headed : faultOf? (Schema.generate headed ⟨[photo, post]⟩) = none := by rfl

end Sample

/-- The files of `photo` and `post` are taken apart although each holds the head line
more than once, moved by its block. -/
theorem Sample.photo_post_taken_apart :
    Schema.link [photo, post] = .ok ⟨[photo, post]⟩ ∧
      ∃ files, Schema.generate headed ⟨[photo, post]⟩ = .ok files ∧
        OutputFile.contents (OutputFile.concat files) = files.map (·.content) ∧
        Text.lines (OutputFile.concat files) =
          [""].intercalate (files.map fun file => Text.lines file.content) := by
  obtain ⟨files, hfiles⟩ := faultOf?_eq_none_iff.mp generate_headed
  obtain ⟨hlines, _, _, hcontents, _⟩ := Schema.contents_concat link_eq_ok hfiles
  exact ⟨link_eq_ok, files, hfiles, hcontents, hlines⟩

end MessageDump
