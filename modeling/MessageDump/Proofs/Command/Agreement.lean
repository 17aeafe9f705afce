import MessageDump.Command.Outcome
import MessageDump.Proofs.Generation.DryRun
/-! # The two commands agree

One command checks a schema and one generates it.  The first looks at its settings
once more after they are loaded, and walks over all messages; the second looks at
them when it generates, and stops at the first message without source.  Neither of
the further looks finds anything, because settings that were loaded pass their check
(`Settings.validate_of_loadOptional`), and so both commands begin with the same step
(`Command.loadChecked`) and differ only in what they do with its result.

It follows that one succeeds exactly if the other does, that a failure before the
first file leaves everything as it was, and what the check says if nothing but
generation fails (`Command.check_agrees_generate`).
-/
namespace MessageDump

open Storage (Tree)

/-! ## Loaded settings -/

section
variable {read : FileReader} {path text : String} {config : Option String} {settings : Settings}

theorem Settings.validate_of_ofToml (h : Settings.ofToml text = .ok settings) :
    settings.validate = .ok () := by
  rw [Settings.ofToml] at h
  split at h
  · cases h
    rfl
  · obtain ⟨root, _, h⟩ := bind_eq_ok.mp h
    obtain ⟨_, hvalid, h⟩ := bind_eq_ok.mp h
    obtain rfl := pure_eq_ok.mp h
    exact mapError_eq_ok_iff.mp hvalid

/-- **Loaded settings pass their check**, and so do the defaults that stand for a
file that is blank or not given. -/
theorem Settings.validate_of_loadOptional (h : Settings.loadOptional read config = .ok settings) :
    settings.validate = .ok () := by
  cases config with
  | none =>
    cases h
    rfl
  | some path =>
    obtain ⟨text, _, h⟩ := bind_eq_ok.mp h
    exact Settings.validate_of_ofToml h

theorem Command.validate_of_loadSettings (h : Command.loadSettings read config = .ok settings) :
    settings.validate = .ok () :=
  Settings.validate_of_loadOptional (mapError_eq_ok_iff.mp h)

end

namespace Command

/-- The failures before anything is written: settings or a schema that cannot be
loaded, and a schema that cannot be generated. -/
inductive EarlyFailure (read : FileReader) (path : String) (config : Option String) :
    Failure → Prop
  | settings {failure : Failure} : loadSettings read config = .error failure →
      EarlyFailure read path config failure
  | schema {settings : Settings} {failure : Failure} : loadSettings read config = .ok settings →
      loadSchema read path = .error failure → EarlyFailure read path config failure
  | generation {settings : Settings} {schema : Schema} {fault : Fault} :
      loadSettings read config = .ok settings → loadSchema read path = .ok schema →
      schema.generate settings = .error fault →
      EarlyFailure read path config (.ofFault "Code generation failed" fault)

/-- The number of messages without source. -/
def countFailing (settings : Settings) (schema : Schema) : Nat :=
  schema.messages.countP fun message => (faultOf? (message.generate settings)).isSome

/-- What the check says if `failing` of `total` messages have no source. -/
def failingOf (failing total : Nat) : Failure :=
  ⟨toString failing ++ " of " ++ toString total ++ " message types cannot be generated", .none⟩

/-! ## The common step -/

section
variable {read : FileReader} {path : String} {config output : Option String}
  {settings : Settings} {schema : Schema} {failure : Failure}

/-- The second look at the settings finds nothing. -/
theorem loadChecked_eq : loadChecked read path config = do
    let settings ← loadSettings read config
    let schema ← loadSchema read path
    return (settings, schema) := by
  rw [loadChecked]
  cases hsettings : loadSettings read config with
  | error failure => rfl
  | ok settings =>
    have hvalid := validate_of_loadSettings hsettings
    show (settings.validate.mapError _ >>= fun _ => _) = _
    rw [hvalid]
    rfl

theorem loadChecked_eq_ok_iff :
    loadChecked read path config = .ok (settings, schema) ↔
      loadSettings read config = .ok settings ∧ loadSchema read path = .ok schema := by
  rw [loadChecked_eq]
  simp only [bind_eq_ok, pure_eq_ok, Prod.mk.injEq]
  constructor
  · rintro ⟨_, hsettings, _, hschema, rfl, rfl⟩
    exact ⟨hsettings, hschema⟩
  · rintro ⟨hsettings, hschema⟩
    exact ⟨settings, hsettings, schema, hschema, rfl, rfl⟩

/-- **Generation begins with what the check begins with.** -/
theorem generateFiles_eq : generateFiles read path config =
    loadChecked read path config >>= fun (settings, schema) =>
      (schema.generate settings).mapError (.ofFault "Code generation failed") := by
  rw [loadChecked_eq, generateFiles]
  cases loadSettings read config with
  | error failure => rfl
  | ok settings => cases loadSchema read path <;> rfl

theorem generateFiles_eq_error_iff :
    generateFiles read path config = .error failure ↔ EarlyFailure read path config failure := by
  simp only [generateFiles, bind_eq_error_iff, mapError_eq_error_iff]
  constructor
  · rintro (h | ⟨settings, hsettings, h | ⟨schema, hschema, fault, hfault, rfl⟩⟩)
    · exact .settings h
    · exact .schema hsettings h
    · exact .generation hsettings hschema hfault
  · intro h
    cases h with
    | settings h => exact .inl h
    | schema hsettings h => exact .inr ⟨_, hsettings, .inl h⟩
    | generation hsettings hschema hfault =>
      exact .inr ⟨_, hsettings, .inr ⟨_, hschema, _, hfault, rfl⟩⟩

/-! ## What the check finds -/

theorem countP_isFailed_dryRun :
    (schema.dryRun settings).countP isFailed = countFailing settings schema := by
  rw [Schema.dryRun, List.countP_map, countFailing]
  congr 1
  funext message
  show isFailed ⟨message.name, (message.generate settings).map String.utf8ByteSize⟩ = _
  cases message.generate settings <;> rfl

/-- No message is without source exactly if all files can be made. -/
theorem countFailing_eq_zero_iff :
    countFailing settings schema = 0 ↔ ∃ files, schema.outputFiles settings = .ok files := by
  rw [← countP_isFailed_dryRun, List.countP_eq_zero, Schema.outputFiles_succeeds_iff]
  refine forall₂_congr fun report _ => ?_
  rw [isFailed]
  cases report.outcome <;> simp

theorem check_failure_of_error (h : loadChecked read path config = .error failure) :
    (check read path config).failure = some failure := by
  rw [check, h]

theorem check_failure_of_ok (h : loadChecked read path config = .ok (settings, schema)) :
    (check read path config).failure =
      if countFailing settings schema = 0 then none
      else some (failingOf (countFailing settings schema) schema.messages.length) := by
  have hlength : (schema.dryRun settings).length = schema.messages.length := List.length_map _
  rw [check, h, ← countP_isFailed_dryRun, failingOf, ← hlength]
  show Plan.failure (if _ then _ else _) = _
  split <;> rfl

/-! ## Running the commands -/

/-- A command that writes no files leaves all as it was. -/
theorem run_eq_of_no_delivery {tree : Tree} {request : Request}
    (h : (plan tree.read request).delivery = none) :
    run tree request =
      ⟨(plan tree.read request).stdout, (plan tree.read request).failure, tree⟩ := by
  rw [run]
  cases hplan : plan tree.read request with
  | mk stdout delivery failure =>
    rw [hplan] at h
    subst h
    cases failure <;> rfl

theorem run_check {tree : Tree} :
    run tree (.check path config) =
      ⟨(check tree.read path config).stdout, (check tree.read path config).failure, tree⟩ := by
  refine run_eq_of_no_delivery ?_
  rw [plan, check]
  cases loadChecked tree.read path config with
  | error _ => rfl
  | ok loaded =>
    show Plan.delivery (if _ then _ else _) = none
    split <;> rfl

theorem run_generate_of_error {tree : Tree}
    (h : generateFiles tree.read path config = .error failure) :
    run tree (.generate path config output) = ⟨"", some failure, tree⟩ := by
  have hplan : plan tree.read (.generate path config output) = { failure := some failure } := by
    rw [plan, generate, h]
  rw [run_eq_of_no_delivery (by rw [hplan]), hplan]

/-- Generation to the output fails exactly as making the files does. -/
theorem run_generate_failure {tree : Tree} :
    (run tree (.generate path config none)).failure =
      faultOf? (generateFiles tree.read path config) := by
  cases h : generateFiles tree.read path config with
  | error failure => rw [run_generate_of_error h, faultOf?_error]
  | ok files =>
    have hplan : plan tree.read (.generate path config none) =
        { stdout := OutputFile.concat files } := by
      rw [plan, generate, h]
    rw [run_eq_of_no_delivery (by rw [hplan]), hplan, faultOf?_ok]

theorem generateFiles_of_loadChecked_ok
    (h : loadChecked read path config = .ok (settings, schema)) :
    (∃ files, generateFiles read path config = .ok files) ↔ countFailing settings schema = 0 := by
  obtain ⟨hsettings, _⟩ := loadChecked_eq_ok_iff.mp h
  rw [countFailing_eq_zero_iff, generateFiles_eq, h]
  show (∃ files, (schema.generate settings).mapError _ = .ok files) ↔ _
  rw [Schema.generate_of_validate (validate_of_loadSettings hsettings)]
  simp only [mapError_eq_ok_iff]

/-- Both commands fail before they look at messages, or both look at the same ones. -/
theorem check_succeeds_iff :
    (check read path config).failure = none ↔
      ∃ files, generateFiles read path config = .ok files := by
  cases h : loadChecked read path config with
  | error failure =>
    rw [check_failure_of_error h, generateFiles_eq, h]
    simp [bind, Except.bind]
  | ok loaded =>
    rw [check_failure_of_ok h, generateFiles_of_loadChecked_ok h]
    simp

/-! ## What the check never says -/

theorem append_ne_invalidSettings {head tail : String} (h : head.toList.head? = some 'F') :
    head ++ tail ≠ "Invalid generator configuration" := by
  intro heq
  have hhead : (head ++ tail).toList.head? = some 'I' := by rw [heq]; rfl
  rw [String.toList_append, List.head?_append, h] at hhead
  cases hhead

theorem context_ne_of_loadChecked_eq_error (h : loadChecked read path config = .error failure) :
    failure.context ≠ "Invalid generator configuration" := by
  simp only [loadChecked_eq, bind_eq_error_iff] at h
  rcases h with h | ⟨settings, _, h | ⟨schema, _, h⟩⟩
  · obtain ⟨fault, _, rfl⟩ := mapError_eq_error_iff.mp h
    exact append_ne_invalidSettings rfl
  · obtain ⟨fault, _, rfl⟩ := mapError_eq_error_iff.mp h
    exact append_ne_invalidSettings rfl
  · cases h

/-- A count of messages is longer than the text for invalid settings. -/
theorem context_failingOf_ne (failing total : Nat) :
    (failingOf failing total).context ≠ "Invalid generator configuration" := by
  intro heq
  have hlength := congrArg String.length heq
  have hlong : " message types cannot be generated".length = 34 := rfl
  have hshort : "Invalid generator configuration".length = 31 := rfl
  simp only [failingOf, String.length_append] at hlength
  omega

theorem context_ne_of_check_fails (h : (check read path config).failure = some failure) :
    failure.context ≠ "Invalid generator configuration" := by
  cases hloaded : loadChecked read path config with
  | error other =>
    rw [check_failure_of_error hloaded, Option.some.injEq] at h
    exact h ▸ context_ne_of_loadChecked_eq_error hloaded
  | ok loaded =>
    rw [check_failure_of_ok hloaded] at h
    split at h
    · cases h
    · obtain rfl := Option.some.inj h
      exact context_failingOf_ne _ _

end

/-- **The two commands agree, and a failure leaves nothing behind.**  Whatever is in
the files, the check succeeds exactly if generation to the output does.  A failure in
loading or generating is reported without anything printed, made or written, wherever
the files were to go.  Settings that are loaded are valid, so that the check never
finds them invalid; and if only generation fails, the check tells for how many
messages it does. -/
theorem check_agrees_generate (tree : Tree) (path : String) (config : Option String) :
    ((run tree (.check path config)).failure = none ↔
      (run tree (.generate path config none)).failure = none) ∧
    (∀ failure, EarlyFailure tree.read path config failure →
      ∀ output, run tree (.generate path config output) = ⟨"", some failure, tree⟩) ∧
    (∀ settings, loadSettings tree.read config = .ok settings → settings.validate = .ok ()) ∧
    (∀ failure, (run tree (.check path config)).failure = some failure →
      failure.context ≠ "Invalid generator configuration") ∧
    ∀ settings schema fault, loadSettings tree.read config = .ok settings →
      loadSchema tree.read path = .ok schema → schema.generate settings = .error fault →
      (run tree (.check path config)).failure =
        some (failingOf (countFailing settings schema) schema.messages.length) := by
  rw [run_check, run_generate_failure, faultOf?_eq_none_iff]
  refine ⟨check_succeeds_iff, ?early, ?valid, ?never, ?count⟩
  case early =>
    intro failure hfailure output
    exact run_generate_of_error (generateFiles_eq_error_iff.mpr hfailure)
  case valid => exact fun settings hsettings => validate_of_loadSettings hsettings
  case never => exact fun failure hfailure => context_ne_of_check_fails hfailure
  case count =>
    intro settings schema fault hsettings hschema hfault
    have hloaded := loadChecked_eq_ok_iff.mpr ⟨hsettings, hschema⟩
    have hfiles := generateFiles_eq_error_iff.mpr (.generation hsettings hschema hfault)
    -- generation would succeed if no message were without source
    have hcount : countFailing settings schema ≠ 0 := fun hzero => by
      obtain ⟨files, hmade⟩ := (generateFiles_of_loadChecked_ok hloaded).mpr hzero
      rw [hfiles] at hmade
      cases hmade
    show (check tree.read path config).failure = _
    rw [check_failure_of_ok hloaded, if_neg hcount]

end Command

namespace Sample

/-- The schema of `photo` and `blob`. -/
def filesText : String :=
  "\x7b\"messages\":[[\"Photo\",[[\"url\",\"string\"]]],[\"Blob\",[[\"data\",\"bytes\"]]]]\x7d"

/-- A disk with this schema. -/
def drafts : Tree where
  entries := [(["files.json"], .file filesText.toUTF8)]

theorem loadSchema_drafts :
    Command.loadSchema drafts.read "files.json" = .ok ⟨[photo, blob]⟩ := by decide +kernel

theorem generate_photo_blob : Schema.generate {} ⟨[photo, blob]⟩ =
    .error (.unsupported (.kind "Blob" "data" "bytes" .json)) :=
  faultOf?_eq_some_iff.mp rfl

end Sample

/-- One of two messages has no source: the check says so, and nothing is written. -/
theorem Sample.drafts_checked_and_kept :
    (Command.run drafts (.check "files.json" none)).failure =
      some ⟨"1 of 2 message types cannot be generated", .none⟩ ∧
    (Command.run drafts (.generate "files.json" none (some "out"))).tree = drafts := by
  obtain ⟨_, hearly, _, _, hcheck⟩ := Command.check_agrees_generate drafts "files.json" none
  constructor
  · exact hcheck {} _ _ rfl loadSchema_drafts generate_photo_blob
  · rw [hearly _ (.generation rfl loadSchema_drafts generate_photo_blob) (some "out")]

end MessageDump
