import MessageDump.Command.Outcome
import MessageDump.Proofs.Generation.Files
import MessageDump.Proofs.Storage.Tree
/-! # Which files a delivery leaves behind

The files of a schema are written one after the other into one directory, each
under the snake case of its message.  A file is still there at the end if no later
one has its name; a later one takes its place, and nothing tells.  The names of
messages are different, but their snake case need not be, so that a command may
succeed with a file less than it has messages (`Schema.files_of_generate`).
-/
namespace MessageDump

open Storage (Tree join)

/-- A file is found in a directory if its content is read from its path there. -/
def OutputFile.FoundIn (tree : Tree) (directory : String) (file : OutputFile) : Prop :=
  tree.read (join directory file.name) = .ok file.content

/-! ## Writing files into one directory -/

namespace Command

/-- Operations one after the other succeed if none fails, where a failure is passed
on as one. -/
theorem run_bind_eq_none_iff {σ α β : Type} {x : StateM σ (Option α)}
    {f : Option α → StateM σ (Option β)} {start final : σ}
    (hf : ∀ reason state, ((f (some reason)).run state).1 ≠ none) :
    (x >>= f).run start = (none, final) ↔
      ∃ middle, x.run start = (none, middle) ∧ (f none).run middle = (none, final) := by
  have hbind : (x >>= f).run start = (f (x.run start).1).run (x.run start).2 := rfl
  rw [hbind]
  rcases x.run start with ⟨_ | reason, middle⟩
  · constructor
    · exact fun h => ⟨middle, rfl, h⟩
    · rintro ⟨next, hnext, h⟩
      cases hnext
      exact h
  · constructor
    · exact fun h => absurd (congrArg Prod.fst h) (hf reason middle)
    · rintro ⟨_, hnext, _⟩
      cases hnext

variable {directory : String} {file : OutputFile} {files before after : List OutputFile}
  {tree tree' : Tree}

theorem writeFiles_cons_eq_none_iff :
    (writeFiles Tree.disk directory (file :: files)).run tree = (none, tree') ↔
      ∃ next, tree.write (join directory file.name) file.content = (none, next) ∧
        (writeFiles Tree.disk directory files).run next = (none, tree') :=
  run_bind_eq_none_iff fun _ _ => Option.some_ne_none _

/-- A file is not touched by writing others with other names. -/
theorem holds_of_writeFiles (hslash : '/' ∉ file.name.toList)
    (hslashes : ∀ other ∈ files, '/' ∉ other.name.toList)
    (hne : ∀ other ∈ files, file.name ≠ other.name)
    (hholds : tree.Holds (join directory file.name) file.content)
    (h : (writeFiles Tree.disk directory files).run tree = (none, tree')) :
    tree'.Holds (join directory file.name) file.content := by
  induction files generalizing tree with
  | nil => exact (Prod.mk.inj h).2 ▸ hholds
  | cons other rest ih =>
    obtain ⟨next, hwrite, hrest⟩ := writeFiles_cons_eq_none_iff.mp h
    rw [List.forall_mem_cons] at hslashes hne
    -- the other file has another name, so that this one is there in the next tree, too
    exact ih hslashes.2 hne.2 (hholds.of_write hslash hslashes.1 hne.1 hwrite) hrest

/-- **The last file of a name is there when all files have been written.** -/
theorem holds_of_writeFiles_append
    (hslashes : ∀ other ∈ before ++ file :: after, '/' ∉ other.name.toList)
    (hlast : ∀ later ∈ after, file.name ≠ later.name)
    (h : (writeFiles Tree.disk directory (before ++ file :: after)).run tree = (none, tree')) :
    tree'.Holds (join directory file.name) file.content := by
  -- whatever the earlier files leave behind, this one is written to it
  induction before generalizing tree with
  | nil =>
    obtain ⟨next, hwrite, hrest⟩ := writeFiles_cons_eq_none_iff.mp h
    rw [List.nil_append, List.forall_mem_cons] at hslashes
    exact holds_of_writeFiles hslashes.1 hslashes.2 hlast (Tree.holds_of_write hwrite) hrest
  | cons earlier rest ih =>
    obtain ⟨next, _, hrest⟩ := writeFiles_cons_eq_none_iff.mp h
    rw [List.cons_append, List.forall_mem_cons] at hslashes
    exact ih hslashes.2 hrest

theorem deliver_eq_none_iff {delivery : Delivery} :
    (deliver Tree.disk delivery).run tree = (none, tree') ↔
      ∃ made, (Tree.disk.makeDirectories delivery.directory).run tree = (none, made) ∧
        (writeFiles Tree.disk delivery.directory delivery.files).run made = (none, tree') :=
  run_bind_eq_none_iff fun _ _ => Option.some_ne_none _

/-- A command that succeeds has written all its files. -/
theorem exists_writeFiles_of_run {settings : Settings} {schema : Schema} {path : String}
    {config : Option String} (hsettings : loadSettings tree.read config = .ok settings)
    (hschema : loadSchema tree.read path = .ok schema)
    (hfiles : schema.generate settings = .ok files)
    (h : (run tree (.generate path config (some directory))).failure = none) :
    ∃ made, (writeFiles Tree.disk directory files).run made =
      (none, (run tree (.generate path config (some directory))).tree) := by
  have hplan : plan tree.read (.generate path config (some directory)) =
      { delivery := some ⟨directory, files⟩ } := by
    have hgenerate : generateFiles tree.read path config = .ok files := by
      rw [generateFiles, hsettings, hschema]
      exact mapError_eq_ok_iff.mpr hfiles
    rw [plan, generate, hgenerate]
  have hrun : run tree (.generate path config (some directory)) =
      { stdout := ""
        failure := ((deliver Tree.disk ⟨directory, files⟩).run tree).1
        tree := ((deliver Tree.disk ⟨directory, files⟩).run tree).2 } := by
    rw [run, hplan]
    rfl
  rw [hrun] at h ⊢
  obtain ⟨made, _, hwritten⟩ := deliver_eq_none_iff.mp (Prod.ext h rfl)
  exact ⟨made, hwritten⟩

end Command

/-! ## Delivery of a schema -/

/-- Of the files that have one name there is a last one. -/
theorem OutputFile.exists_last {name : String} {files : List OutputFile}
    (h : ∃ file ∈ files, name = file.name) :
    ∃ before last after, files = before ++ last :: after ∧ name = last.name ∧
      ∀ later ∈ after, last.name ≠ later.name := by
  induction files with
  | nil =>
    obtain ⟨file, hfile, _⟩ := h
    exact absurd hfile List.not_mem_nil
  | cons first rest ih =>
    by_cases hrest : ∃ file ∈ rest, name = file.name
    · obtain ⟨before, last, after, rfl, hname, hlater⟩ := ih hrest
      exact ⟨first :: before, last, after, rfl, hname, hlater⟩
    · -- no file behind the first has the name, so that the first is the one that does
      obtain ⟨file, hfile, rfl⟩ := h
      rcases List.mem_cons.mp hfile with rfl | hfile
      · exact ⟨[], file, rest, rfl, rfl, fun later hlater heq => hrest ⟨later, hlater, heq⟩⟩
      · exact absurd ⟨file, hfile, rfl⟩ hrest

namespace Schema
variable {messages : List Message} {schema : Schema} {settings : Settings}
  {files before after : List OutputFile} {file other : OutputFile} {tree made : Tree}
  {directory : String}

/-- At one path only one file can be found. -/
theorem eq_of_foundIn (hlink : link messages = .ok schema)
    (h : schema.outputFiles settings = .ok files) (hfile : file ∈ files) (hother : other ∈ files)
    (hname : file.name = other.name) (hfound : file.FoundIn tree directory)
    (hfound' : other.FoundIn tree directory) : file = other := by
  have hsame : (.ok file.content : Except StorageFault String) = .ok other.content := by
    rw [← hfound, ← hfound', hname]
  exact eq_of_content_eq hlink h hfile hother (Except.ok.inj hsame)

/-- **A file that was written is found exactly if no later one has its name.** -/
theorem foundIn_iff (hlink : link messages = .ok schema)
    (h : schema.outputFiles settings = .ok (before ++ file :: after))
    (hwritten : (Command.writeFiles Tree.disk directory (before ++ file :: after)).run made =
      (none, tree)) :
    file.FoundIn tree directory ↔ ∀ later ∈ after, file.name ≠ later.name := by
  have hslashes : ∀ other ∈ before ++ file :: after, '/' ∉ other.name.toList :=
    fun other hother => slash_not_mem_name hlink h hother
  constructor
  · intro hfound later hlater hname
    -- the last file of the name is found, and so would be this one, which precedes it
    obtain ⟨between, last, rest, rfl, hlast, hbehind⟩ :=
      OutputFile.exists_last ⟨later, hlater, hname⟩
    rw [← List.cons_append, ← List.append_assoc] at h hwritten hslashes
    have hlastFound : last.FoundIn tree directory :=
      (Command.holds_of_writeFiles_append hslashes hbehind hwritten).read_eq
    have hnodup := List.Nodup.of_map _ (nodup_message hlink h)
    have hne : file ≠ last :=
      (List.nodup_append.mp hnodup).2.2 file (by simp) last List.mem_cons_self
    exact hne (eq_of_foundIn hlink h (by simp) (by simp) hlast hfound hlastFound)
  · intro hlater
    exact (Command.holds_of_writeFiles_append hslashes hlater hwritten).read_eq

/-- All files that were written are found exactly if they have different names. -/
theorem forall_foundIn_iff (hlink : link messages = .ok schema)
    (h : schema.outputFiles settings = .ok files)
    (hwritten : (Command.writeFiles Tree.disk directory files).run made = (none, tree)) :
    (∀ file ∈ files, file.FoundIn tree directory) ↔ (files.map (·.name)).Nodup := by
  constructor
  · intro hfound
    refine List.Nodup.map_on ?_ (List.Nodup.of_map _ (nodup_message hlink h))
    intro file hfile other hother hname
    exact eq_of_foundIn hlink h hfile hother hname (hfound file hfile) (hfound other hother)
  · intro hnodup file hfile
    obtain ⟨before, after, rfl⟩ := List.append_of_mem hfile
    refine (foundIn_iff hlink h hwritten).mpr fun later hlater heq => ?_
    rw [List.map_append, List.map_cons, List.nodup_append, List.nodup_cons] at hnodup
    exact hnodup.2.1.1 (heq ▸ List.mem_map_of_mem hlater)

end Schema

/-- **A generated file is found where a successful command has written it exactly if
no later file has its name.**  Files are called after their messages, in the order
of these, and their names are all different exactly if the names of the messages
differ in snake case.  That two of them do not needs names which are the same but
for underscores and the case of letters, and not both in Pascal case without
acronyms.  Only if all names of files are different, every file is found. -/
theorem Schema.files_of_generate {messages : List Message} {schema : Schema} {settings : Settings}
    {files : List OutputFile} (hlink : Schema.link messages = .ok schema)
    (hfiles : schema.generate settings = .ok files) :
    files.map (fun file => (file.message, file.name)) =
      messages.map (fun message => (message.name, Name.snake message.name ++ ".rs")) ∧
    ((files.map (·.name)).Nodup ↔ (messages.map fun message => Name.snake message.name).Nodup) ∧
    (∀ message ∈ messages, ∀ other ∈ messages, message ≠ other →
      Name.snake message.name = Name.snake other.name →
        Name.folded message.name = Name.folded other.name ∧
          ¬ (Name.IsPascal message.name ∧ Name.IsPascal other.name)) ∧
    ∀ (tree : Tree) (path directory : String) (config : Option String),
      Command.loadSettings tree.read config = .ok settings →
      Command.loadSchema tree.read path = .ok schema →
      let outcome := Command.run tree (.generate path config (some directory))
      outcome.failure = none →
        (∀ before file after, files = before ++ file :: after →
          (file.FoundIn outcome.tree directory ↔ ∀ later ∈ after, file.name ≠ later.name)) ∧
        ((∀ file ∈ files, file.FoundIn outcome.tree directory) ↔ (files.map (·.name)).Nodup) := by
  have houtput := outputFiles_of_generate hfiles
  obtain ⟨hlinkable, rfl⟩ := link_eq_ok_iff.mp hlink
  refine ⟨map_name_of_outputFiles houtput, nodup_name_iff houtput, ?_, ?_⟩
  · intro message hmem other hmem' hne heq
    have hname : message.name ≠ other.name := fun hname =>
      hne (List.inj_on_of_nodup_map hlinkable.names_nodup hmem hmem' hname)
    refine ⟨Name.folded_eq_of_snake_eq heq, fun ⟨hpascal, hpascal'⟩ => hname ?_⟩
    exact Name.eq_of_snake_eq (hlinkable.wellFormed message hmem).name_identifier
      (hlinkable.wellFormed other hmem').name_identifier hpascal hpascal' heq
  · intro tree path directory config hsettings hschema outcome hsucceeds
    obtain ⟨made, hwritten⟩ :=
      Command.exists_writeFiles_of_run hsettings hschema hfiles hsucceeds
    refine ⟨?_, forall_foundIn_iff hlink houtput hwritten⟩
    rintro before file after rfl
    exact foundIn_iff hlink houtput hwritten

/-! ## Two schemas on one disk -/

namespace Sample

/-- The schema of `photo` and `request`. -/
def albumText : String :=
  "\x7b\"messages\":[[\"Photo\",[[\"url\",\"string\"]]],[\"HttpRequest\",[[\"path\",\"string\"]]]]\x7d"

/-- The schema of `upperRequest` and `request`. -/
def requestsText : String :=
  "\x7b\"messages\":[[\"HTTPRequest\",[[\"url\",\"string\"]]],[\"HttpRequest\",[[\"path\",\"string\"]]]]\x7d"

/-- A disk with these schemas. -/
def schemas : Tree where
  entries :=
    [(["album.json"], .file albumText.toUTF8), (["requests.json"], .file requestsText.toUTF8)]

theorem link_photo_request : Schema.link [photo, request] = .ok ⟨[photo, request]⟩ := by rfl

theorem generate_photo_request : faultOf? (Schema.generate {} ⟨[photo, request]⟩) = none := by rfl

/-- Both schemas are loaded, and their files can be written. -/
theorem schemas_delivered :
    (Command.loadSchema schemas.read "album.json" = .ok ⟨[photo, request]⟩ ∧
      (Command.run schemas (.generate "album.json" none (some "out"))).failure = none) ∧
    Command.loadSchema schemas.read "requests.json" = .ok ⟨[upperRequest, request]⟩ ∧
      (Command.run schemas (.generate "requests.json" none (some "out"))).failure = none := by
  decide +kernel

end Sample

/-- Both schemas on the disk are generated.  The files of the first are found
afterwards; of the second, whose files have one name, not all of them are. -/
theorem Sample.files_of_album_and_requests :
    (Schema.link [photo, request] = .ok ⟨[photo, request]⟩ ∧
      ∃ files, Schema.generate {} ⟨[photo, request]⟩ = .ok files ∧
        files.map (fun file => (file.message, file.name)) =
          [("Photo", "photo.rs"), ("HttpRequest", "http_request.rs")] ∧
        ∀ file ∈ files, file.FoundIn
          (Command.run schemas (.generate "album.json" none (some "out"))).tree "out") ∧
    Schema.link [upperRequest, request] = .ok ⟨[upperRequest, request]⟩ ∧
      ∃ files, Schema.generate {} ⟨[upperRequest, request]⟩ = .ok files ∧
        files.map (fun file => (file.message, file.name)) =
          [("HTTPRequest", "http_request.rs"), ("HttpRequest", "http_request.rs")] ∧
        ¬ ∀ file ∈ files, file.FoundIn
          (Command.run schemas (.generate "requests.json" none (some "out"))).tree "out" := by
  obtain ⟨⟨halbum, hrun⟩, hrequests, hrun'⟩ := schemas_delivered
  constructor
  · obtain ⟨files, hfiles⟩ := faultOf?_eq_none_iff.mp generate_photo_request
    obtain ⟨hnames, hnodup, _, hdelivered⟩ := Schema.files_of_generate link_photo_request hfiles
    obtain ⟨_, hfound⟩ := hdelivered schemas "album.json" "out" none rfl halbum hrun
    exact ⟨link_photo_request, files, hfiles, hnames, hfound.mpr (hnodup.mpr (by decide))⟩
  · obtain ⟨files, hfiles⟩ := faultOf?_eq_none_iff.mp generate_requests
    obtain ⟨hnames, hnodup, _, hdelivered⟩ := Schema.files_of_generate link_requests hfiles
    obtain ⟨_, hfound⟩ := hdelivered schemas "requests.json" "out" none rfl hrequests hrun'
    refine ⟨link_requests, files, hfiles, hnames, fun hall => ?_⟩
    exact absurd (hnodup.mp (hfound.mp hall)) (by decide)

end MessageDump
