import MessageDump.Proofs.Fault.Sequence
import MessageDump.Proofs.Schema.Linking
/-! # Which fault linking reports

Linking looks at all names before it looks inside any message.  Once the names are
settled, it goes through the messages in order and reports the first fault of the first
message that has one (`Schema.faultOf?_link`).  What it finds in a message is decided by
that message and by which names there are, neither by the order of the names nor by what
the other messages hold (`Message.fault?_congr`).

So two lists of messages with the same names and a common beginning are reported alike,
as long as the fault lies in that beginning: what comes later neither hides the fault nor
changes it (`Schema.link_alike_of_take_eq`).
-/
namespace MessageDump

/-- What linking finds inside a message, in a schema with the given message names: the
first fault, if there is any. -/
def Message.fault? (names : List String) (message : Message) : Option SchemaFault :=
  (message.faults names).head?.map (.inMessage message.name)

theorem faultOf?_unlessFaulty {φ α : Type} {faults : List φ} {value : α} :
    faultOf? (unlessFaulty faults value) = faults.head? := by
  cases faults <;> rfl

/-! ## One message -/

section
variable {names names' : List String} {message : Message} {field : Field} {fault : SchemaFault}

theorem Message.fault?_eq_none_iff : message.fault? names = none ↔ message.WellFormed names := by
  rw [Message.fault?, Option.map_eq_none_iff, List.head?_eq_none_iff, Message.faults_eq_nil_iff]

/-- A fault inside a message names it. -/
theorem Message.exists_of_fault?_eq_some (h : message.fault? names = some fault) :
    ∃ reason, fault = .inMessage message.name reason := by
  obtain ⟨reason, _, rfl⟩ := Option.map_eq_some_iff.mp h
  exact ⟨reason, rfl⟩

theorem Field.referenceFaults_congr (h : ∀ name, name ∈ names ↔ name ∈ names') :
    field.referenceFaults names = field.referenceFaults names' := by
  have hcontains : ∀ name, names.contains name = names'.contains name := by
    intro name
    rw [Bool.eq_iff_iff, List.contains_iff_mem, List.contains_iff_mem]
    exact h name
  unfold Field.referenceFaults
  simp only [hcontains]

/-- **What is found in a message depends on which names there are, and not on how they
are listed.** -/
theorem Message.fault?_congr (h : ∀ name, name ∈ names ↔ name ∈ names') :
    message.fault? names = message.fault? names' := by
  have hfields : ∀ (earlier : List Field) (field : Field),
      field.faults names message earlier = field.faults names' message earlier := by
    intro earlier field
    rw [Field.faults, Field.faults, Field.referenceFaults_congr h]
  simp only [Message.fault?, Message.faults, hfields]

end

/-! ## All messages -/

section
variable {names : List String} {messages suspects others : List Message} {message : Message}
variable {fault : SchemaFault} {reason : MessageFault}

theorem exists_mem_of_findSome?_fault? (h : messages.findSome? (Message.fault? names) = some fault) :
    ∃ message ∈ messages, message.fault? names = some fault ∧
      ∃ reason, fault = .inMessage message.name reason := by
  obtain ⟨message, hmem, hfault⟩ := List.exists_of_findSome?_eq_some h
  exact ⟨message, hmem, hfault, Message.exists_of_fault?_eq_some hfault⟩

/-- **Once the names are settled, linking reports the first fault inside a message.** -/
theorem Schema.faultOf?_link (hnonempty : ∀ message ∈ messages, message.name ≠ "")
    (hnodup : (messages.map (·.name)).Nodup) :
    faultOf? (link messages) =
      messages.findSome? (Message.fault? (messages.map (·.name))) := by
  have hnames := nameFaults_eq_nil_iff.mpr ⟨hnonempty, hnodup⟩
  rw [link, faultOf?_unlessFaulty, faults, hnames, List.nil_append, List.head?_flatMap]
  refine congrArg (List.findSome? · messages) (funext fun message => ?_)
  rw [List.head?_map, Message.fault?]

/-- A fault that names one of the suspects, which come first, is the first one found
among them: no other message has that name. -/
theorem Schema.link_eq_error_iff_of_mem (hsplit : messages = suspects ++ others)
    (hnonempty : ∀ message ∈ messages, message.name ≠ "")
    (hnodup : (messages.map (·.name)).Nodup) (hmem : message ∈ suspects) :
    link messages = .error (.inMessage message.name reason) ↔
      suspects.findSome? (Message.fault? (messages.map (·.name))) =
        some (.inMessage message.name reason) := by
  rw [← faultOf?_eq_some_iff, faultOf?_link hnonempty hnodup]
  generalize hnames : messages.map (·.name) = names at hnodup ⊢
  rw [hsplit, List.findSome?_append]
  cases hfirst : suspects.findSome? (Message.fault? names) with
  | some fault => rw [Option.some_or]
  | none =>
    rw [Option.none_or]
    refine ⟨fun hlater => ?_, nofun⟩
    obtain ⟨other, hother, _, later, hfault⟩ := exists_mem_of_findSome?_fault? hlater
    injection hfault with hname
    rw [← hnames, hsplit, List.map_append, List.nodup_append] at hnodup
    exact absurd hname
      (hnodup.2.2 _ (List.mem_map_of_mem hmem) _ (List.mem_map_of_mem hother))

/-- Linking fails because of one of the suspects exactly if one of them is not well
formed. -/
theorem Schema.exists_link_eq_error_iff (hsplit : messages = suspects ++ others)
    (hnonempty : ∀ message ∈ messages, message.name ≠ "")
    (hnodup : (messages.map (·.name)).Nodup) :
    (∃ message ∈ suspects, ∃ reason, link messages = .error (.inMessage message.name reason)) ↔
      ∃ message ∈ suspects, ¬ message.WellFormed (messages.map (·.name)) := by
  constructor
  · rintro ⟨message, hmem, reason, hlink⟩
    have hfound := (link_eq_error_iff_of_mem hsplit hnonempty hnodup hmem).mp hlink
    obtain ⟨culprit, hculprit, hfault, _⟩ := exists_mem_of_findSome?_fault? hfound
    refine ⟨culprit, hculprit, fun hwell => ?_⟩
    rw [Message.fault?_eq_none_iff.mpr hwell] at hfault
    cases hfault
  · rintro ⟨message, hmem, hfaulty⟩
    cases hfound : suspects.findSome? (Message.fault? (messages.map (·.name))) with
    | none =>
      have hnone := List.findSome?_eq_none_iff.mp hfound message hmem
      exact absurd (Message.fault?_eq_none_iff.mp hnone) hfaulty
    | some fault =>
      obtain ⟨culprit, hculprit, _, reason, rfl⟩ := exists_mem_of_findSome?_fault? hfound
      exact ⟨culprit, hculprit, reason,
        (link_eq_error_iff_of_mem hsplit hnonempty hnodup hculprit).mpr hfound⟩

end

/-- **A reported fault depends on nothing behind the message that it is about.**  Take two
lists of messages that have the same names in the same places and the same messages up to
some point.  If linking the first fails because of a message before that point, so that
one of these is not well formed, then linking the second fails with the same fault, whose
text begins with the name of the message.  For linking reports the first fault found
inside a message, and what is found there depends only on that message and on which names
there are. -/
theorem Schema.link_alike_of_take_eq {first second : List Message} {i : Nat}
    (hnames : first.map (·.name) = second.map (·.name))
    (hnonempty : ∀ message ∈ first, message.name ≠ "")
    (hnodup : (first.map (·.name)).Nodup) (htake : first.take i = second.take i) :
    (∀ message ∈ first.take i, ∀ reason,
      link first = .error (.inMessage message.name reason) →
        link second = .error (.inMessage message.name reason) ∧
        (Fault.schema (.inMessage message.name reason)).faultClass = .invalidSchema ∧
        (Fault.schema (.inMessage message.name reason)).detail =
          message.name ++ ": " ++ reason.message) ∧
    ((∃ message ∈ first.take i, ∃ reason, link first = .error (.inMessage message.name reason)) ↔
      ∃ message ∈ first.take i, ¬ message.WellFormed (first.map (·.name))) ∧
    faultOf? (link first) = first.findSome? (Message.fault? (first.map (·.name))) ∧
    ∀ (message : Message) (names : List String),
      (∀ name, name ∈ names ↔ name ∈ first.map (·.name)) →
        message.fault? names = message.fault? (first.map (·.name)) := by
  have hfirst : first = first.take i ++ first.drop i := (List.take_append_drop i first).symm
  have hsecond : second = first.take i ++ second.drop i := by
    rw [htake, List.take_append_drop]
  have hnonempty' : ∀ message ∈ second, message.name ≠ "" := by
    intro message hmem hempty
    have hname : message.name ∈ first.map (·.name) := hnames ▸ List.mem_map_of_mem hmem
    obtain ⟨other, hother, hsame⟩ := List.mem_map.mp hname
    exact hnonempty other hother (hsame.trans hempty)
  refine ⟨?alike, exists_link_eq_error_iff hfirst hnonempty hnodup,
    faultOf?_link hnonempty hnodup, fun _ _ h => Message.fault?_congr h⟩
  case alike =>
    intro message hmem reason hlink
    refine ⟨?_, rfl, rfl⟩
    have hfound := (link_eq_error_iff_of_mem hfirst hnonempty hnodup hmem).mp hlink
    rw [hnames] at hfound hnodup
    exact (link_eq_error_iff_of_mem hsecond hnonempty' hnodup hmem).mpr hfound

namespace Sample

/-- A message with two faults: a field refers to a message type that does not exist, and
a oneof has no fields. -/
def gallery : Message where
  name := "Gallery"
  fields := [Field.ofName "cover" (.list (.message "Picture"))]
  oneofs := [⟨"sort"⟩]

/-- A message of the name of `post` that is not well formed either. -/
def brokenPost : Message where
  name := "Post"
  fields := [Field.ofName "2fa" (.scalar .bool)]

end Sample

/-- The fault of `gallery` is reported whether the message behind it is as it should be or
not. -/
theorem Sample.gallery_reported :
    [photo, gallery, post].map (·.name) = [photo, gallery, brokenPost].map (·.name) ∧
    (∀ message ∈ [photo, gallery, post], message.name ≠ "") ∧
    ([photo, gallery, post].map (·.name)).Nodup ∧
    [photo, gallery, post].take 2 = [photo, gallery, brokenPost].take 2 ∧
    gallery ∈ [photo, gallery, post].take 2 ∧
    Schema.link [photo, gallery, post] =
      .error (.inMessage "Gallery" (.unknownReference "cover" "Picture")) ∧
    Schema.link [photo, gallery, brokenPost] =
      .error (.inMessage "Gallery" (.unknownReference "cover" "Picture")) := by
  have hnames : [photo, gallery, post].map (·.name) =
      [photo, gallery, brokenPost].map (·.name) := rfl
  have hnonempty : ∀ message ∈ [photo, gallery, post], message.name ≠ "" := by decide
  have hnodup : ([photo, gallery, post].map (·.name)).Nodup := by decide
  have htake : [photo, gallery, post].take 2 = [photo, gallery, brokenPost].take 2 := rfl
  have hmem : gallery ∈ [photo, gallery, post].take 2 := by decide
  have hlink : Schema.link [photo, gallery, post] =
      .error (.inMessage "Gallery" (.unknownReference "cover" "Picture")) := by rfl
  obtain ⟨halike, _⟩ := Schema.link_alike_of_take_eq hnames hnonempty hnodup htake
  exact ⟨hnames, hnonempty, hnodup, htake, hmem, hlink, (halike gallery hmem _ hlink).1⟩

end MessageDump
