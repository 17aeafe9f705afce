import MessageDump.Proofs.Generation.DryRun
import MessageDump.Proofs.Name.Casing
/-! # The names of generated files

A file is called after the snake case of its message, and its header tells the
name of the message.  So no two files of a schema have the same content
(`Schema.eq_of_content_eq`), but two of them may have the same name: exactly if
the names of their messages are the same in snake case
(`Schema.nodup_name_iff`).
-/
namespace MessageDump

/-! ## The name and the content of a file -/

namespace Message
variable {message other : Message}

/-- The name of a file stays in the directory that it is joined to. -/
theorem slash_not_mem_fileName (h : Name.isIdentifier message.name = true) :
    '/' ∉ message.fileName.toList := by
  rw [fileName, String.toList_append, List.mem_append, not_or]
  exact ⟨Name.not_mem_of_isIdentifier (Name.isIdentifier_snake h) (by decide), by decide⟩

theorem header_append (message : Message) (source : String) :
    message.header ++ source =
      "// @generated by protodump. Do not edit.\n// Message: " ++
        (message.name ++ ("\n\n" ++ source)) := by
  change "// @generated by protodump. Do not edit.\n// Message: " ++ message.name ++ "\n\n" ++
    source = _
  rw [String.append_assoc, String.append_assoc]

/-- The header of a file tells the message that it is for: its name ends with the
line. -/
theorem name_eq_of_header_append_eq {source source' : String}
    (h : Name.isIdentifier message.name = true) (h' : Name.isIdentifier other.name = true)
    (heq : message.header ++ source = other.header ++ source') : message.name = other.name := by
  have hend : "\n\n".toList = ['\n', '\n'] := rfl
  have hbreak : Name.isPart '\n' = false := by decide
  rw [header_append, header_append, String.append_right_inj] at heq
  have hchars := congrArg String.toList heq
  rw [String.toList_append, String.toList_append, String.toList_append, String.toList_append,
    hend, List.cons_append, List.cons_append] at hchars
  have hnames := (Text.append_sep_inj (Name.not_mem_of_isIdentifier h hbreak)
    (Name.not_mem_of_isIdentifier h' hbreak)).mp hchars
  exact String.toList_inj.mp hnames.1

end Message

/-! ## The files of a schema -/

namespace Schema
variable {settings : Settings} {schema : Schema} {messages : List Message}
  {files : List OutputFile}

theorem outputFiles_of_generate (h : schema.generate settings = .ok files) :
    schema.outputFiles settings = .ok files := by
  rw [generate] at h
  split at h
  · cases h
  · exact mapError_eq_ok_iff.mp h

/-- Each file is called after its message, and tells its name. -/
theorem map_name_of_outputFiles (h : schema.outputFiles settings = .ok files) :
    files.map (fun file => (file.message, file.name)) =
      schema.messages.map fun message => (message.name, message.fileName) := by
  refine (map_eq_map_of_forall₂ (outputFiles_eq_ok_iff.mp h) ?_).symm
  rintro message file ⟨_, _, rfl⟩
  rfl

theorem nodup_name_iff (h : schema.outputFiles settings = .ok files) :
    (files.map (·.name)).Nodup ↔
      (schema.messages.map fun message => Name.snake message.name).Nodup := by
  have hnames := congrArg (List.map Prod.snd) (map_name_of_outputFiles h)
  rw [List.map_map, List.map_map] at hnames
  have hrs : Function.Injective fun name : String => name ++ ".rs" := fun _ _ =>
    (String.append_left_inj _).mp
  have hmap : files.map (·.name) =
      (schema.messages.map fun message => Name.snake message.name).map (· ++ ".rs") := by
    rw [List.map_map]
    exact hnames
  rw [hmap]
  exact List.nodup_map_iff hrs

theorem nodup_message (hlink : link messages = .ok schema)
    (h : schema.outputFiles settings = .ok files) : (files.map (·.message)).Nodup := by
  obtain ⟨hlinkable, rfl⟩ := link_eq_ok_iff.mp hlink
  have hnames := congrArg (List.map Prod.fst) (map_name_of_outputFiles h)
  rw [List.map_map, List.map_map] at hnames
  change files.map (·.message) = schema.messages.map (·.name) at hnames
  exact hnames ▸ hlinkable.names_nodup

/-- A file comes from a message. -/
theorem exists_ofSource_of_mem (h : schema.outputFiles settings = .ok files) {file : OutputFile}
    (hfile : file ∈ files) :
    ∃ message ∈ schema.messages, ∃ source, OutputFile.ofSource message source = file := by
  obtain ⟨message, hmem, source, _, hsource⟩ :=
    exists_mem_of_forall₂ (outputFiles_eq_ok_iff.mp h) hfile
  exact ⟨message, hmem, source, hsource⟩

theorem slash_not_mem_name (hlink : link messages = .ok schema)
    (h : schema.outputFiles settings = .ok files) {file : OutputFile} (hfile : file ∈ files) :
    '/' ∉ file.name.toList := by
  obtain ⟨message, hmem, source, rfl⟩ := exists_ofSource_of_mem h hfile
  exact Message.slash_not_mem_fileName (wellFormed_of_link_eq_ok hlink hmem).name_identifier

/-- **No two files have the same content**, since each tells its message. -/
theorem eq_of_content_eq (hlink : link messages = .ok schema)
    (h : schema.outputFiles settings = .ok files) {file other : OutputFile} (hfile : file ∈ files)
    (hother : other ∈ files) (heq : file.content = other.content) : file = other := by
  obtain ⟨message, hmem, source, hsource⟩ := exists_ofSource_of_mem h hfile
  obtain ⟨message', hmem', source', hsource'⟩ := exists_ofSource_of_mem h hother
  have hmessage : file.message = other.message := by
    rw [← hsource, ← hsource'] at heq ⊢
    exact Message.name_eq_of_header_append_eq (wellFormed_of_link_eq_ok hlink hmem).name_identifier
      (wellFormed_of_link_eq_ok hlink hmem').name_identifier heq
  exact List.inj_on_of_nodup_map (nodup_message hlink h) hfile hother hmessage

end Schema

/-! ## Two files of one name -/

namespace Sample

/-- A message named by an acronym and a word. -/
def upperRequest : Message where
  name := "HTTPRequest"
  fields := [Field.ofName "url" (.scalar .string)]

/-- A message that is named the same but for the case of the acronym. -/
def request : Message where
  name := "HttpRequest"
  fields := [Field.ofName "path" (.scalar .string)]

theorem link_requests : Schema.link [upperRequest, request] = .ok ⟨[upperRequest, request]⟩ := by rfl

theorem generate_requests : faultOf? (Schema.generate {} ⟨[upperRequest, request]⟩) = none := by rfl

end Sample

/-- That linked messages have different names does not give different names to their
files. -/
theorem Sample.not_file_names_nodup :
    ¬ ∀ (messages : List Message) (schema : Schema) (settings : Settings) (files : List OutputFile),
      Schema.link messages = .ok schema → settings.validate = .ok () →
      schema.generate settings = .ok files → (files.map (·.name)).Nodup := by
  intro h
  obtain ⟨files, hfiles⟩ := faultOf?_eq_none_iff.mp generate_requests
  have hnodup := h _ _ _ files link_requests validate_default hfiles
  rw [Schema.nodup_name_iff (Schema.outputFiles_of_generate hfiles)] at hnodup
  exact absurd hnodup (by decide)

end MessageDump
