import MessageDump.Generation
import MessageDump.Proofs.Fault.Sequence
import MessageDump.Proofs.Schema.Linking
/-! # The dry run predicts generation

Generation walks over the messages of a schema and stops at the first that has
no source; the dry run walks over all of them and never stops.  Both take the
same step for a message, so that the reports tell in advance what generation
does: which files it makes and how long they are (`Report.Predicts`), or the
fault that it ends with, which is that of the first report with one
(`Schema.generate_eq_error_iff`).  `Schema.generate_predicted` puts this
together.
-/
namespace MessageDump

variable {settings : Settings} {schema : Schema}

/-- A report foretells a file if they are for one message and the file is the
header of that message, two lines of comment and an empty one, followed by a
source of the reported size. -/
def Report.Predicts (report : Report) (file : OutputFile) : Prop :=
  report.message = file.message ∧
  ∃ source : String, report.outcome = .ok source.utf8ByteSize ∧
    file.content =
      "// @generated by protodump. Do not edit.\n// Message: " ++ file.message ++ "\n\n" ++ source

/-! ## Reports and the steps of generation -/

theorem Schema.map_message_dryRun :
    (schema.dryRun settings).map (·.message) = schema.messages.map (·.name) := by
  rw [Schema.dryRun, List.map_map]
  rfl

/-- With settings that pass their check, nothing but a message can make generation
fail. -/
theorem Schema.generate_of_validate (hvalid : settings.validate = .ok ()) :
    schema.generate settings = (schema.outputFiles settings).mapError .unsupported := by
  rw [Schema.generate, hvalid]

/-- The step for a message makes the file that its report foretells. -/
theorem Report.predicts_ofSource {message : Message} {source : String}
    (h : message.generate settings = .ok source) :
    Report.Predicts ⟨message.name, (message.generate settings).map String.utf8ByteSize⟩
      (OutputFile.ofSource message source) := by
  refine ⟨rfl, source, ?_, rfl⟩
  rw [h]
  rfl

theorem Schema.outputFiles_eq_ok_iff {files : List OutputFile} :
    schema.outputFiles settings = .ok files ↔
      List.Forall₂ (fun message file => ∃ source, message.generate settings = .ok source ∧
        OutputFile.ofSource message source = file) schema.messages files := by
  simp only [Schema.outputFiles, mapM_eq_ok_iff, bind_eq_ok, pure_eq_ok]

theorem Schema.predicts_of_outputFiles_eq_ok {files : List OutputFile}
    (h : schema.outputFiles settings = .ok files) :
    List.Forall₂ Report.Predicts (schema.dryRun settings) files := by
  rw [Schema.dryRun, List.forall₂_map_left_iff]
  refine (Schema.outputFiles_eq_ok_iff.mp h).imp ?_
  rintro message file ⟨source, hsource, rfl⟩
  exact Report.predicts_ofSource hsource

/-! ## The first fault -/

/-- **The fault of generation is that of the first report that has one.** -/
theorem Schema.faultOf?_outputFiles :
    faultOf? (schema.outputFiles settings) =
      (schema.dryRun settings).findSome? fun report => faultOf? report.outcome := by
  rw [Schema.outputFiles, faultOf?_mapM, Schema.dryRun, List.findSome?_map]
  congr 1
  funext message
  exact faultOf?_bind_pure.trans (faultOf?_map _ _).symm

theorem Schema.outputFiles_succeeds_iff :
    (∃ files, schema.outputFiles settings = .ok files) ↔
      ∀ report ∈ schema.dryRun settings, ∃ size, report.outcome = .ok size := by
  rw [← faultOf?_eq_none_iff, Schema.faultOf?_outputFiles, List.findSome?_eq_none_iff]
  simp only [faultOf?_eq_none_iff]

theorem Schema.outputFiles_eq_error_iff {reason : Unsupported} :
    schema.outputFiles settings = .error reason ↔
      ∃ before report after, schema.dryRun settings = before ++ report :: after ∧
        report.outcome = .error reason ∧
        ∀ earlier ∈ before, ∃ size, earlier.outcome = .ok size := by
  rw [← faultOf?_eq_some_iff, Schema.faultOf?_outputFiles, List.findSome?_eq_some_iff]
  simp only [faultOf?_eq_some_iff, faultOf?_eq_none_iff]

/-! ## Generation of a linked schema -/

/-- **The reports of the dry run tell what generation does.**  There is one for
each message, in the order in which the messages were declared.  Generation
succeeds exactly if all of them are successes; its files are then those that the
reports foretell, one after the other, and otherwise it fails as the first report
with a fault says. -/
theorem Schema.generate_predicted {messages : List Message} {schema : Schema}
    {settings : Settings} (hlink : Schema.link messages = .ok schema)
    (hvalid : settings.validate = .ok ()) :
    List.Forall₂ (fun message report => report.message = message.name ∧
        report.outcome = (message.generate settings).map String.utf8ByteSize)
      messages (schema.dryRun settings) ∧
    ((∃ files, schema.generate settings = .ok files) ↔
      ∀ report ∈ schema.dryRun settings, ∃ size, report.outcome = .ok size) ∧
    (∀ files, schema.generate settings = .ok files →
      files.map (·.message) = messages.map (·.name) ∧
      List.Forall₂ Report.Predicts (schema.dryRun settings) files) ∧
    ∀ fault, schema.generate settings = .error fault ↔
      ∃ before report after reason, schema.dryRun settings = before ++ report :: after ∧
        (∀ earlier ∈ before, ∃ size, earlier.outcome = .ok size) ∧
        report.outcome = .error reason ∧ fault = .unsupported reason := by
  obtain ⟨_, rfl⟩ := Schema.link_eq_ok_iff.mp hlink
  rw [Schema.generate_of_validate hvalid]
  refine ⟨?_, ?_, ?_, ?_⟩
  · rw [Schema.dryRun, List.forall₂_map_right_iff, List.forall₂_same]
    exact fun message _ => ⟨rfl, rfl⟩
  · simp only [mapError_eq_ok_iff]
    exact Schema.outputFiles_succeeds_iff
  · intro files hfiles
    have hpredicts := Schema.predicts_of_outputFiles_eq_ok (mapError_eq_ok_iff.mp hfiles)
    refine ⟨?_, hpredicts⟩
    rw [← Schema.map_message_dryRun]
    exact (map_eq_map_of_forall₂ hpredicts fun _ _ => And.left).symm
  · intro fault
    rw [mapError_eq_error_iff]
    constructor
    · rintro ⟨reason, hreason, rfl⟩
      obtain ⟨before, report, after, hreports, hreport, hbefore⟩ :=
        Schema.outputFiles_eq_error_iff.mp hreason
      exact ⟨before, report, after, reason, hreports, hbefore, hreport, rfl⟩
    · rintro ⟨before, report, after, reason, hreports, hbefore, hreport, rfl⟩
      exact ⟨reason, Schema.outputFiles_eq_error_iff.mpr
        ⟨before, report, after, hreports, hreport, hbefore⟩, rfl⟩

namespace Sample

/-- A message that is linked but not generated. -/
def blob : Message where
  name := "Blob"
  fields := [Field.ofName "data" (.scalar .bytes)]

/-- Another one, with a list. -/
def tags : Message where
  name := "Tags"
  fields := [Field.ofName "names" (.list (.scalar .string))]

theorem link_blob_tags : Schema.link [photo, blob, tags] = .ok ⟨[photo, blob, tags]⟩ := by rfl

theorem validate_default : Settings.validate {} = .ok () := by rfl

end Sample

/-- The files of `photo` and `post` are as their reports say, and of `blob` and
`tags` the one that comes first ends generation. -/
theorem Sample.files_and_fault_predicted :
    (Schema.link [photo, post] = .ok ⟨[photo, post]⟩ ∧ Settings.validate {} = .ok () ∧
      ∃ files, Schema.generate {} ⟨[photo, post]⟩ = .ok files ∧
        files.map (·.message) = ["Photo", "Post"] ∧
        List.Forall₂ Report.Predicts (Schema.dryRun {} ⟨[photo, post]⟩) files) ∧
    Schema.link [photo, blob, tags] = .ok ⟨[photo, blob, tags]⟩ ∧
      Schema.generate {} ⟨[photo, blob, tags]⟩ =
        .error (.unsupported (.kind "Blob" "data" "bytes" .json)) := by
  obtain ⟨_, hsucceeds, hfiles, _⟩ := Schema.generate_predicted link_eq_ok validate_default
  obtain ⟨_, _, _, hfails⟩ := Schema.generate_predicted link_blob_tags validate_default
  obtain ⟨photoSource, hphoto⟩ :=
    faultOf?_eq_none_iff.mp (show faultOf? (photo.generate {}) = none from rfl)
  obtain ⟨postSource, hpost⟩ :=
    faultOf?_eq_none_iff.mp (show faultOf? (post.generate {}) = none from rfl)
  constructor
  · obtain ⟨files, hgenerate⟩ := hsucceeds.mpr (by simp [Schema.dryRun, hphoto, hpost, Except.map])
    exact ⟨link_eq_ok, validate_default, files, hgenerate, hfiles files hgenerate⟩
  · refine ⟨link_blob_tags, (hfails _).mpr ⟨[_], _, [_], _, rfl, ?_, rfl, rfl⟩⟩
    intro earlier hearlier
    rw [List.mem_singleton.mp hearlier]
    exact ⟨_, map_eq_ok_iff.mpr ⟨photoSource, hphoto, rfl⟩⟩

end MessageDump
