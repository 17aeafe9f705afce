import Mathlib.Data.List.Perm.Lattice
import MessageDump.Proofs.Generation.Layout
/-! # The order and the grouping of messages

Linking looks at the messages of a schema one after the other, and each of them may
refer to any other one.  What it demands of them does not depend on where they stand
(`Schema.Linkable.perm`), and is met by two lists together if it is met by each and
they share no name (`Schema.Linkable.append`).  Generation makes the file of a message
from that message alone.  So rearranged messages have their files rearranged, and the
files of two groups of messages are those of the one followed by those of the other
(`Schema.order_and_grouping`).
-/
namespace MessageDump

variable {messages other first second : List Message} {settings : Settings}

/-! ## Linking -/

/-- More names are known in a larger schema. -/
theorem Message.WellFormed.mono {names names' : List String} {message : Message}
    (h : message.WellFormed names) (hsub : names ⊆ names') : message.WellFormed names' := by
  have hknown : ∀ field ∈ message.fields, ∀ type, field.kind.Mentions type → type ∈ names' :=
    fun field hfield type htype => hsub (h.mentions_known field hfield type htype)
  exact { h with mentions_known := hknown }

theorem Schema.Linkable.perm (h : Schema.Linkable messages) (hperm : messages.Perm other) :
    Schema.Linkable other where
  names_nodup := (hperm.map _).nodup_iff.mp h.names_nodup
  wellFormed message hmem :=
    (h.wellFormed message (hperm.mem_iff.mpr hmem)).mono (hperm.map _).subset

theorem Schema.Linkable.append (hfirst : Schema.Linkable first) (hsecond : Schema.Linkable second)
    (hdisjoint : ∀ message ∈ first, ∀ message' ∈ second, message.name ≠ message'.name) :
    Schema.Linkable (first ++ second) where
  names_nodup := by
    rw [List.map_append]
    refine hfirst.names_nodup.append hsecond.names_nodup fun name hname hname' => ?_
    obtain ⟨message, hmem, rfl⟩ := List.mem_map.mp hname
    obtain ⟨message', hmem', heq⟩ := List.mem_map.mp hname'
    exact hdisjoint message hmem message' hmem' heq.symm
  wellFormed message hmem := by
    rw [List.map_append]
    rcases List.mem_append.mp hmem with hmem | hmem
    · exact (hfirst.wellFormed message hmem).mono (List.subset_append_left _ _)
    · exact (hsecond.wellFormed message hmem).mono (List.subset_append_right _ _)

theorem Schema.link_succeeds_iff : (∃ schema, Schema.link messages = .ok schema) ↔
    Schema.Linkable messages := by
  constructor
  · rintro ⟨schema, hlink⟩
    exact (Schema.link_eq_ok_iff.mp hlink).1
  · exact fun h => ⟨⟨messages⟩, Schema.link_eq_ok_iff.mpr ⟨h, rfl⟩⟩

/-! ## Generation -/

/-- The file of a message, if it has one. -/
def Message.file (settings : Settings) (message : Message) : OutputFile :=
  OutputFile.ofSource message ((message.generate settings).toOption.getD "")

theorem Message.file_of_generate {message : Message} {source : String}
    (h : message.generate settings = .ok source) :
    message.file settings = OutputFile.ofSource message source := by
  rw [file, h]
  rfl

/-- The files of a schema are those of its messages, if all of them have one. -/
theorem Schema.outputFiles_eq_ok_iff_map {files : List OutputFile} :
    (⟨messages⟩ : Schema).outputFiles settings = .ok files ↔
      (∀ message ∈ messages, ∃ source, message.generate settings = .ok source) ∧
        messages.map (·.file settings) = files := by
  rw [outputFiles_eq_ok_iff]
  -- message by message, since a file is made of its message alone
  induction messages generalizing files with
  | nil => simp [eq_comm]
  | cons message rest ih =>
    rw [List.forall₂_cons_left_iff, List.forall_mem_cons, List.map_cons]
    constructor
    · rintro ⟨file, others, ⟨source, hsource, rfl⟩, hothers, rfl⟩
      obtain ⟨hrest, rfl⟩ := ih.mp hothers
      exact ⟨⟨⟨source, hsource⟩, hrest⟩, by rw [Message.file_of_generate hsource]⟩
    · rintro ⟨⟨⟨source, hsource⟩, hrest⟩, rfl⟩
      refine ⟨_, _, ⟨source, hsource, ?_⟩, ih.mpr ⟨hrest, rfl⟩, rfl⟩
      exact (Message.file_of_generate hsource).symm

theorem Schema.generate_eq_ok_iff {files : List OutputFile} :
    (⟨messages⟩ : Schema).generate settings = .ok files ↔
      settings.validate = .ok () ∧
        (∀ message ∈ messages, ∃ source, message.generate settings = .ok source) ∧
        messages.map (·.file settings) = files := by
  cases hvalid : settings.validate with
  | error fault => simp [Schema.generate, hvalid]
  | ok _ =>
    rw [Schema.generate_of_validate hvalid, mapError_eq_ok_iff, outputFiles_eq_ok_iff_map]
    exact (and_iff_right rfl).symm

theorem Schema.generate_perm (hperm : messages.Perm other) {files : List OutputFile}
    (h : (⟨messages⟩ : Schema).generate settings = .ok files) :
    (⟨other⟩ : Schema).generate settings = .ok (other.map (·.file settings)) := by
  obtain ⟨hvalid, hsources, _⟩ := generate_eq_ok_iff.mp h
  exact generate_eq_ok_iff.mpr
    ⟨hvalid, fun message hmem => hsources message (hperm.mem_iff.mpr hmem), rfl⟩

/-- Generation of two groups of messages is that of the one followed by that of the
other. -/
theorem Schema.generate_append (first second : List Message) (settings : Settings) :
    (⟨first ++ second⟩ : Schema).generate settings = do
      let files ← (⟨first⟩ : Schema).generate settings
      let files' ← (⟨second⟩ : Schema).generate settings
      return files ++ files' := by
  cases hvalid : settings.validate with
  | error fault =>
    simp only [Schema.generate, hvalid]
    rfl
  | ok _ =>
    have hfiles : (⟨first ++ second⟩ : Schema).outputFiles settings = do
        let files ← (⟨first⟩ : Schema).outputFiles settings
        let files' ← (⟨second⟩ : Schema).outputFiles settings
        return files ++ files' := List.mapM_append
    rw [generate_of_validate hvalid, generate_of_validate hvalid, generate_of_validate hvalid, hfiles]
    cases (⟨first⟩ : Schema).outputFiles settings with
    | error reason => rfl
    | ok files => cases (⟨second⟩ : Schema).outputFiles settings <;> rfl

/-- **Neither linking nor generation depends on the order or the grouping of messages.**
Of two lists that are rearrangements of each other one links if the other does, and
then, with any settings, one is generated if the other is: each message has the file
that it has in any order, and the files are in the order of the messages.  Two lists
that link and share no name link together, and their files are those of the first
followed by those of the second, or the fault of the first, or else that of the
second. -/
theorem Schema.order_and_grouping :
    (∀ messages other : List Message, messages.Perm other →
      ((∃ schema, Schema.link messages = .ok schema) ↔ ∃ schema, Schema.link other = .ok schema) ∧
      ∀ schema schema', Schema.link messages = .ok schema → Schema.link other = .ok schema' →
        ∀ settings : Settings,
          ((∃ files, schema.generate settings = .ok files) ↔
            ∃ files, schema'.generate settings = .ok files) ∧
          ∃ fileOf : Message → OutputFile, ∀ files, schema.generate settings = .ok files →
            files = messages.map fileOf ∧ schema'.generate settings = .ok (other.map fileOf)) ∧
    ∀ (first second : List Message) (schema schema' : Schema),
      Schema.link first = .ok schema → Schema.link second = .ok schema' →
      (∀ message ∈ first, ∀ message' ∈ second, message.name ≠ message'.name) →
      ∃ together, Schema.link (first ++ second) = .ok together ∧
        together.messages = first ++ second ∧
        ∀ settings : Settings, together.generate settings = do
          let files ← schema.generate settings
          let files' ← schema'.generate settings
          return files ++ files' := by
  refine ⟨fun messages other hperm => ⟨?link, ?generate⟩, ?append⟩
  case link =>
    rw [Schema.link_succeeds_iff, Schema.link_succeeds_iff]
    exact ⟨fun h => h.perm hperm, fun h => h.perm hperm.symm⟩
  case generate =>
    intro schema schema' hlink hlink' settings
    obtain ⟨_, rfl⟩ := Schema.link_eq_ok_iff.mp hlink
    obtain ⟨_, rfl⟩ := Schema.link_eq_ok_iff.mp hlink'
    refine ⟨⟨?_, ?_⟩, (·.file settings), fun files hfiles => ?_⟩
    · rintro ⟨files, hfiles⟩
      exact ⟨_, generate_perm hperm hfiles⟩
    · rintro ⟨files, hfiles⟩
      exact ⟨_, generate_perm hperm.symm hfiles⟩
    · exact ⟨(generate_eq_ok_iff.mp hfiles).2.2.symm, generate_perm hperm hfiles⟩
  case append =>
    intro first second schema schema' hlink hlink' hdisjoint
    obtain ⟨hfirst, rfl⟩ := Schema.link_eq_ok_iff.mp hlink
    obtain ⟨hsecond, rfl⟩ := Schema.link_eq_ok_iff.mp hlink'
    have htogether := hfirst.append hsecond hdisjoint
    refine ⟨⟨_⟩, Schema.link_eq_ok_iff.mpr ⟨htogether, rfl⟩, rfl, fun settings => ?_⟩
    exact Schema.generate_append _ _ settings

/-- `post` may stand before the message that it refers to, and a group that fails comes
after the files of `photo` and `post` or before them. -/
theorem Sample.photo_post_rearranged :
    (∃ schema, Schema.link [post, photo] = .ok schema) ∧
    (∃ (fileOf : Message → OutputFile) (files : List OutputFile),
      Schema.generate {} ⟨[photo, post]⟩ = .ok files ∧ files = [fileOf photo, fileOf post] ∧
      Schema.generate {} ⟨[post, photo]⟩ = .ok [fileOf post, fileOf photo]) ∧
    ∃ together, Schema.link ([photo, post] ++ [blob]) = .ok together ∧
      together.generate {} = do
        let files ← Schema.generate {} ⟨[photo, post]⟩
        let files' ← Schema.generate {} ⟨[blob]⟩
        return files ++ files' := by
  obtain ⟨hperm, happend⟩ := Schema.order_and_grouping
  obtain ⟨hlink, hgenerate⟩ := hperm [photo, post] [post, photo] (.swap post photo [])
  have hswapped : Schema.link [post, photo] = .ok ⟨[post, photo]⟩ := by rfl
  obtain ⟨_, fileOf, hfiles⟩ := hgenerate _ _ link_eq_ok hswapped {}
  obtain ⟨files, hsource⟩ := faultOf?_eq_none_iff.mp generate_photo_post
  obtain ⟨hmap, hother⟩ := hfiles files hsource
  refine ⟨hlink.mp ⟨_, link_eq_ok⟩, ⟨fileOf, files, hsource, hmap, hother⟩, ?_⟩
  have hblob : Schema.link [blob] = .ok ⟨[blob]⟩ := by rfl
  obtain ⟨together, htogether, _, hrun⟩ :=
    happend [photo, post] [blob] _ _ link_eq_ok hblob (by decide)
  exact ⟨together, htogether, hrun {}⟩

end MessageDump
