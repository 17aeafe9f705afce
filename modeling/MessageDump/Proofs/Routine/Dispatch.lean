import MessageDump.Generation
import MessageDump.Proofs.Schema.Linking
import MessageDump.Proofs.Source.Margin
/-! # The arms of a oneof, one after the other

What is done in the arm for an alternative is left to a continuation.  It is called for
each alternative of the oneof, and since it may keep a state from one call to the next and
may fail, it matters in which order this happens, how often, and where it stops.

`Continuation.Makes` says what a row of successful calls is.  Either the alternatives of
the oneof make one such row, and then their arms are written, or the row breaks off at the
first call that fails: its fault is the result, and its state is the last one, so that no
alternative behind it has been visited (`Oneof.dispatch_in_order`).

The text of a call comes into its arm two levels deeper.  It is cut into lines on the way,
so that a carriage return right before a line feed gets lost with the line end
(`Sample.return_lost`).
-/
namespace MessageDump

open Source (Context Operand Step Writes Closed moved)

/-- What is done for an alternative, given the operand for its value.  The state is passed
on from call to call, also by a call that fails. -/
abbrev Continuation (ε σ : Type) := Field → Operand → ExceptT ε (StateM σ) (List Step)

/-- The continuation makes the given arms, by one call for each of them in their order.
The first call finds the first state, each of the others the state that the call before it
left, and none of them fails. -/
inductive Continuation.Makes {ε σ : Type} (body : Continuation ε σ) (operand : Operand) :
    σ → List Arm → σ → Prop
  | nil (state : σ) : Makes body operand state [] state
  | cons {state next last : σ} {arm : Arm} {rest : List Arm} :
      (body arm.alternative operand).run.run state = (.ok arm.body, next) →
      Makes body operand next rest last → Makes body operand state (arm :: rest) last

/-- The text of an arm, in which the text of its body is put as the given function says. -/
def Oneof.armText (ctx : Context) (message : Message) (oneof : Oneof) (inside : String → String)
    (arm : Arm) : String :=
  "    " ++ oneof.enumPath message ++ "::" ++ arm.alternative.variant ++ "(" ++ ctx.locals.value ++
    ") => \x7b\n" ++ inside (Source.textOf arm.body) ++ "    \x7d\n"

/-- The text of the `match` over a oneof with the given arms. -/
def Oneof.matchText (ctx : Context) (message : Message) (oneof : Oneof) (inside : String → String)
    (arms : List Arm) : String :=
  "match " ++ ctx.locals.selected ++ " \x7b\n" ++
    String.join (arms.map (oneof.armText ctx message inside)) ++ "\x7d\n"

/-- A text two levels deeper: each line that is not empty is indented. -/
def Text.twoDeeper : String → String := Text.withMargin "        "

/-! ## Calls -/

section
variable {ε σ : Type} {body : Continuation ε σ} {operand : Operand} {state next last : σ}
variable {arms : List Arm} {alternative : Field} {fault : ε}

/-- The arm for an alternative, from what the continuation does for it. -/
def Continuation.arm (body : Continuation ε σ) (operand : Operand) (alternative : Field) :
    ExceptT ε (StateM σ) Arm := do
  let steps ← body alternative operand
  return ⟨alternative, steps⟩

/-- One call, and then the calls for the other alternatives unless it fails. -/
theorem Continuation.run_mapM_cons (body : Continuation ε σ) (operand : Operand)
    (alternative : Field) (rest : List Field) (state : σ) :
    ((alternative :: rest).mapM (body.arm operand)).run.run state =
      match (body alternative operand).run.run state with
      | (.ok steps, next) =>
        match (rest.mapM (body.arm operand)).run.run next with
        | (.ok arms, last) => (.ok (⟨alternative, steps⟩ :: arms), last)
        | (.error fault, last) => (.error fault, last)
      | (.error fault, next) => (.error fault, next) := by
  rw [List.mapM_cons]
  simp only [arm, bind_assoc, pure_bind, ExceptT.run_bind, StateT.run_bind]
  rcases (body alternative operand).run.run state with ⟨fault | steps, next⟩
  · rfl
  · change StateT.run ((rest.mapM (body.arm operand)).run >>= _) next = _
    rw [StateT.run_bind]
    dsimp only
    rcases (rest.mapM (body.arm operand)).run.run next with ⟨fault | arms, last⟩ <;> rfl

namespace Continuation

theorem Makes.run_mapM (h : body.Makes operand state arms last) :
    ((arms.map (·.alternative)).mapM (body.arm operand)).run.run state = (.ok arms, last) := by
  induction h with
  | nil state => rfl
  | cons hcall _ ih => simp only [List.map_cons, run_mapM_cons, hcall, ih]

/-- The first call that fails is the last one. -/
theorem Makes.run_mapM_of_fails (h : body.Makes operand state arms next)
    (hfails : (body alternative operand).run.run next = (.error fault, last)) (after : List Field) :
    ((arms.map (·.alternative) ++ alternative :: after).mapM (body.arm operand)).run.run state =
      (.error fault, last) := by
  induction h with
  | nil state => rw [List.map_nil, List.nil_append, run_mapM_cons, hfails]
  | cons hcall _ ih => simp only [List.map_cons, List.cons_append, run_mapM_cons, hcall, ih hfails]

/-- Either all calls succeed, or some succeed and the one after them fails. -/
theorem makes_or_fails (body : Continuation ε σ) (operand : Operand) (alternatives : List Field)
    (state : σ) :
    (∃ arms last, arms.map (·.alternative) = alternatives ∧ body.Makes operand state arms last) ∨
    ∃ arms alternative after next fault last,
      alternatives = arms.map (·.alternative) ++ alternative :: after ∧
      body.Makes operand state arms next ∧
      (body alternative operand).run.run next = (.error fault, last) := by
  induction alternatives generalizing state with
  | nil => exact .inl ⟨[], state, rfl, .nil state⟩
  | cons alternative rest ih =>
    rcases hcall : (body alternative operand).run.run state with ⟨fault | steps, next⟩
    · exact .inr ⟨[], alternative, rest, state, fault, next, rfl, .nil state, hcall⟩
    · rcases ih next with ⟨arms, last, rfl, hmakes⟩ | ⟨arms, other, after, middle, fault, last,
        rfl, hmakes, hfails⟩
      · exact .inl ⟨⟨alternative, steps⟩ :: arms, last, rfl, .cons hcall hmakes⟩
      · exact .inr ⟨⟨alternative, steps⟩ :: arms, other, after, middle, fault, last, rfl,
          .cons hcall hmakes, hfails⟩

end Continuation
end

/-! ## The text of the arms -/

section
variable {ctx : Context} {message : Message} {oneof : Oneof}

theorem Arm.closed_steps (arm : Arm) : Closed (arm.steps ctx message oneof) :=
  .block _ _ (.nest arm.body)

/-- The lines of an arm: its pattern, its body one level deeper, and a brace. -/
theorem Arm.writes_steps (arm : Arm) :
    Writes (arm.steps ctx message oneof)
      ([(arm.opening ctx message oneof).toList] ++
        (((Text.lines (Source.textOf arm.body)).map String.toList).map (moved 1) ++
          ["\x7d".toList])) :=
  (Writes.nest_lines arm.body).block (by simp [Arm.opening]) (by simp) (.nest arm.body)

/-- The lines of all arms, each with the text of its body one level deeper. -/
theorem Oneof.writes_arms (arms : List Arm) :
    Writes (arms.flatMap fun arm => arm.steps ctx message oneof)
      (arms.flatMap fun arm => [(arm.opening ctx message oneof).toList] ++
        (((Text.lines (Source.textOf arm.body)).map String.toList).map (moved 1) ++
          ["\x7d".toList])) := by
  induction arms with
  | nil => exact fun w => by simp
  | cons arm rest ih => exact Writes.append arm.closed_steps arm.writes_steps ih

/-- The characters of an arm, one level deeper. -/
theorem Oneof.toList_armText (arm : Arm) :
    Text.unlines (([(arm.opening ctx message oneof).toList] ++
        (((Text.lines (Source.textOf arm.body)).map String.toList).map (moved 1) ++
          ["\x7d".toList])).map (moved 1)) =
      (oneof.armText ctx message (Text.twoDeeper ∘ Text.withoutReturns) arm).toList := by
  have htwo : moved 1 ∘ moved 1 = moved 2 := funext fun line => Source.moved_moved 1 1 line
  have hopening : (arm.opening ctx message oneof).toList ≠ [] := by simp [Arm.opening]
  have hinside := Source.toList_nested_text arm.body 2
  rw [List.map_append, List.map_append, List.map_map (g := moved 1), htwo, Text.unlines_append,
    Text.unlines_append, hinside]
  simp [Oneof.armText, Arm.opening, Source.moved_of_ne_nil, Context.boundValue, Operand.expr,
    Text.twoDeeper, Source.Writer.indentation]

theorem Oneof.toList_armTexts (arms : List Arm) :
    Text.unlines ((arms.flatMap fun arm => [(arm.opening ctx message oneof).toList] ++
        (((Text.lines (Source.textOf arm.body)).map String.toList).map (moved 1) ++
          ["\x7d".toList])).map (moved 1)) =
      (String.join (arms.map (oneof.armText ctx message
        (Text.twoDeeper ∘ Text.withoutReturns)))).toList := by
  induction arms with
  | nil => rfl
  | cons arm rest ih =>
    rw [List.flatMap_cons, List.map_append, Text.unlines_append, toList_armText, ih, List.map_cons,
      String.join_cons, String.toList_append]

/-- The text of the `match` is made of the texts of the arms. -/
theorem Oneof.textOf_matchSteps (arms : List Arm) :
    Source.textOf (oneof.matchSteps ctx message arms) =
      oneof.matchText ctx message (Text.twoDeeper ∘ Text.withoutReturns) arms := by
  have hclosed : Closed (arms.flatMap fun arm => arm.steps ctx message oneof) :=
    Closed.flatMap fun arm _ => arm.closed_steps
  have hwrites : Writes (oneof.matchSteps ctx message arms) _ :=
    (writes_arms arms).block (by simp) (by simp) hclosed
  apply String.toList_inj.mp
  rw [hwrites.toList_textOf, Text.unlines_append, Text.unlines_append,
    toList_armTexts, matchText]
  simp

/-- Without carriage returns the texts of the bodies are kept as they are. -/
theorem Oneof.matchText_withoutReturns {arms : List Arm}
    (h : ∀ arm ∈ arms, '\r' ∉ (Source.textOf arm.body).toList) :
    oneof.matchText ctx message (Text.twoDeeper ∘ Text.withoutReturns) arms =
      oneof.matchText ctx message Text.twoDeeper arms := by
  have harms : arms.map (oneof.armText ctx message (Text.twoDeeper ∘ Text.withoutReturns)) =
      arms.map (oneof.armText ctx message Text.twoDeeper) := List.map_congr_left fun arm harm => by
    rw [armText, armText, Function.comp_apply, Text.withoutReturns_of_not_mem (h arm harm)]
  rw [matchText, matchText, harms]

end

/-! ## Dispatch -/

section
variable {ε σ : Type} {ctx : Context} {message : Message} {oneof : Oneof} {body : Continuation ε σ}
variable {state next last : σ} {arms : List Arm} {alternative : Field} {fault : ε}

namespace Oneof

theorem run_dispatch_of_makes (hnames : arms.map (·.alternative) = message.alternatives oneof)
    (hmakes : body.Makes ctx.boundValue state arms last) :
    (oneof.dispatch ctx message body).run.run state =
      (.ok (oneof.matchSteps ctx message arms), last) := by
  have harms : (oneof.arms ctx message body).run.run state = (.ok arms, last) := by
    have hrun := hmakes.run_mapM
    rwa [hnames] at hrun
  rw [dispatch, ExceptT.run_bind, StateT.run_bind, harms]
  rfl

theorem run_dispatch_of_fails {after : List Field}
    (hnames : message.alternatives oneof = arms.map (·.alternative) ++ alternative :: after)
    (hmakes : body.Makes ctx.boundValue state arms next)
    (hfails : (body alternative ctx.boundValue).run.run next = (.error fault, last)) :
    (oneof.dispatch ctx message body).run.run state = (.error fault, last) := by
  have harms : (oneof.arms ctx message body).run.run state = (.error fault, last) := by
    have hrun := hmakes.run_mapM_of_fails hfails after
    rwa [← hnames] at hrun
  rw [dispatch, ExceptT.run_bind, StateT.run_bind, harms]
  rfl

/-- **The alternatives of a oneof are visited in declaration order**, each once and with the
borrowed name for its value.  If no call fails, there is one arm for each of them in the
same order, with the text of its call two levels deeper.  A call that fails is the last
one, and its fault is the result.  One of these happens. -/
theorem dispatch_in_order (ctx : Context) (message : Message) (oneof : Oneof)
    (body : Continuation ε σ) (state : σ) :
    (∀ arms last, arms.map (·.alternative) = message.alternatives oneof →
      body.Makes (.borrowed ctx.locals.value) state arms last →
      ∃ steps, (oneof.dispatch ctx message body).run.run state = (.ok steps, last) ∧
        Source.textOf steps =
          oneof.matchText ctx message (Text.twoDeeper ∘ Text.withoutReturns) arms ∧
        ((∀ arm ∈ arms, '\r' ∉ (Source.textOf arm.body).toList) →
          Source.textOf steps = oneof.matchText ctx message Text.twoDeeper arms)) ∧
    (∀ arms alternative after next fault last,
      message.alternatives oneof = arms.map (·.alternative) ++ alternative :: after →
      body.Makes (.borrowed ctx.locals.value) state arms next →
      (body alternative (.borrowed ctx.locals.value)).run.run next = (.error fault, last) →
      (oneof.dispatch ctx message body).run.run state = (.error fault, last)) ∧
    ((∃ arms last, arms.map (·.alternative) = message.alternatives oneof ∧
        body.Makes (.borrowed ctx.locals.value) state arms last) ∨
      ∃ arms alternative after next fault last,
        message.alternatives oneof = arms.map (·.alternative) ++ alternative :: after ∧
        body.Makes (.borrowed ctx.locals.value) state arms next ∧
        (body alternative (.borrowed ctx.locals.value)).run.run next = (.error fault, last)) := by
  refine ⟨?_, ?_, ?_⟩
  · intro arms last hnames hmakes
    exact ⟨_, run_dispatch_of_makes hnames hmakes, textOf_matchSteps arms, fun hreturns =>
      (textOf_matchSteps arms).trans (matchText_withoutReturns hreturns)⟩
  · intro arms alternative after next fault last
    exact run_dispatch_of_fails
  · exact Continuation.makes_or_fails body _ _ state

end Oneof
end

namespace Sample

/-- Writes down which alternatives it is called for, and fails for a message. -/
def visit : Continuation Field (List String) := fun alternative operand => do
  modify (· ++ [alternative.name])
  match alternative.kind with
  | .message _ => throw alternative
  | _ => return [.line operand.copied]

end Sample

/-- The dispatch over the oneof of `post` gets to its second alternative, which is a
message.  The fields between the two are not visited. -/
theorem Sample.visit_ends_at_photo :
    post.alternatives ⟨"rich_body"⟩ =
      [{ Field.ofName "text" (.scalar .string) with oneof := some "rich_body" },
        { Field.ofName "photo" (.message "Photo") with oneof := some "rich_body" }] ∧
    ((⟨"rich_body"⟩ : Oneof).dispatch {} post visit).run.run [] =
      (.error { Field.ofName "photo" (.message "Photo") with oneof := some "rich_body" },
        ["text", "photo"]) := by
  have hnames : post.alternatives ⟨"rich_body"⟩ =
      [{ Field.ofName "text" (.scalar .string) with oneof := some "rich_body" },
        { Field.ofName "photo" (.message "Photo") with oneof := some "rich_body" }] := rfl
  obtain ⟨_, hfails, _⟩ := Oneof.dispatch_in_order {} post ⟨"rich_body"⟩ visit []
  exact ⟨hnames, hfails [⟨_, [.line "*value"]⟩] _ [] ["text"] _ _ hnames
    (.cons rfl (.nil ["text"])) rfl⟩

namespace Sample

/-- A message whose only field is an alternative. -/
def memo : Message where
  name := "Memo"
  fields := [{ Field.ofName "text" (.scalar .string) with oneof := some "body" }]
  oneofs := [⟨"body"⟩]

/-- A setting that gets a carriage return to the end of a line. -/
def returning : Context := { settings := { jsonCrate := "x\r" } }

/-- Writes what it is given, and the path of the JSON library. -/
def echo (ctx : Context) : Continuation Empty Unit := fun alternative operand =>
  return Source.block ("arm(" ++ operand.expr ++ ", " ++ operand.copied ++ ") \x7b")
    [.line (ctx.member alternative.name)] ctx.json

/-- The arm that `echo` makes for the field of `memo`. -/
def memoArm : Arm where
  alternative := { Field.ofName "text" (.scalar .string) with oneof := some "body" }
  body := Source.block "arm(value, *value) \x7b" [.line "self.text"] "x\r"

end Sample

/-- A carriage return at the end of a line does not come into the arm. -/
theorem Sample.return_lost :
    ¬ ∀ (ε σ : Type) (ctx : Context) (message : Message) (oneof : Oneof)
      (body : Continuation ε σ) (state : σ) (arms : List Arm) (last : σ),
      arms.map (·.alternative) = message.alternatives oneof →
      body.Makes (.borrowed ctx.locals.value) state arms last →
      ∃ steps, (oneof.dispatch ctx message body).run.run state = (.ok steps, last) ∧
        Source.textOf steps = oneof.matchText ctx message Text.twoDeeper arms := by
  intro hkept
  have hnames : [memoArm].map (·.alternative) = memo.alternatives ⟨"body"⟩ := rfl
  have hmakes : (echo returning).Makes returning.boundValue () [memoArm] () :=
    .cons rfl (.nil ())
  obtain ⟨steps, hrun, htext⟩ := hkept _ _ returning memo ⟨"body"⟩ _ () [memoArm] () hnames hmakes
  rw [Oneof.run_dispatch_of_makes hnames hmakes] at hrun
  cases hrun
  rw [Oneof.textOf_matchSteps] at htext
  exact absurd htext (by decide)

end MessageDump
