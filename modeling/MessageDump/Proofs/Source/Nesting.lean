import MessageDump.Source.Writer
import Mathlib.Data.List.Basic
/-! # Blocks that are closed

A writer that goes back from depth zero stays there, so that a block closed once too
often would shift what follows without a trace.  Steps are *closed* if this cannot
happen: performed at any depth, they never go back to less than it, and come back to
it at the end.  Steps that are put together from lines and whole blocks
(`Source.Nested`) are closed, and so is whatever they nest.
-/
namespace MessageDump
namespace Source

variable {p q : Step → Prop} {steps first second inside inner part : List Step}

/-- Every block is closed, and no closing line without its opening line. -/
structure Closed (steps : List Step) : Prop where
  /-- The depth at the end is the one at the start. -/
  depth_performAll : ∀ w : Writer, (w.performAll steps).depth = w.depth
  /-- There is a block to close wherever one is. -/
  depth_lt_of_leave : ∀ (w : Writer) (before : List Step) (text : String) (after : List Step),
    steps = before ++ .leave text :: after → w.depth < (w.performAll before).depth

/-- Steps that a writer performs while it performs others: these themselves, and
those of the writers whose texts they nest. -/
inductive Part : List Step → List Step → Prop
  | self (steps : List Step) : Part steps steps
  | nested {part inner steps : List Step} : .nest inner ∈ steps → Part part inner → Part part steps

/-- Steps that are lines, nested steps of this form and blocks around steps of this
form, where all that is written as one satisfies a condition. -/
inductive Nested (p : Step → Prop) : List Step → Prop
  | nil : Nested p []
  | line {text : String} {rest : List Step} : p (.line text) → Nested p rest →
      Nested p (.line text :: rest)
  | blank {rest : List Step} : Nested p rest → Nested p (.blank :: rest)
  | nest {inner rest : List Step} : Nested p inner → Nested p rest →
      Nested p (.nest inner :: rest)
  | block {opening closing : String} {inside rest : List Step} : p (.enter opening) →
      Nested p inside → p (.leave closing) → Nested p rest →
      Nested p (block opening inside closing ++ rest)

/-! ## Putting steps together -/

namespace Nested

theorem imp (h : Nested p steps) (hpq : ∀ step, p step → q step) : Nested q steps := by
  induction h with
  | nil => exact .nil
  | line htext _ ih => exact .line (hpq _ htext) ih
  | blank _ ih => exact .blank ih
  | nest _ _ ihinner ih => exact .nest ihinner ih
  | block hopening _ hclosing _ ihinside ih =>
    exact .block (hpq _ hopening) ihinside (hpq _ hclosing) ih

theorem append (hfirst : Nested p first) (hsecond : Nested p second) :
    Nested p (first ++ second) := by
  induction hfirst with
  | nil => exact hsecond
  | line htext _ ih => exact .line htext ih
  | blank _ ih => exact .blank ih
  | nest hinner _ _ ih => exact .nest hinner ih
  | block hopening hinside hclosing _ _ ih =>
    rw [List.append_assoc]
    exact .block hopening hinside hclosing ih

theorem single {text : String} (h : p (.line text)) : Nested p [.line text] := .line h .nil

theorem wrapped {opening closing : String} (hopening : p (.enter opening))
    (hinside : Nested p inside) (hclosing : p (.leave closing)) :
    Nested p (Source.block opening inside closing) := by
  have hblock := Nested.block hopening hinside hclosing .nil
  rwa [List.append_nil] at hblock

theorem flatMap {α : Type} {items : List α} {f : α → List Step}
    (h : ∀ item ∈ items, Nested p (f item)) : Nested p (items.flatMap f) := by
  induction items with
  | nil => exact .nil
  | cons item rest ih =>
    obtain ⟨hitem, hrest⟩ := List.forall_mem_cons.mp h
    rw [List.flatMap_cons]
    exact hitem.append (ih hrest)

theorem map_nest {α : Type} {items : List α} {f : α → List Step}
    (h : ∀ item ∈ items, Nested p (f item)) : Nested p (items.map fun item => .nest (f item)) := by
  induction items with
  | nil => exact .nil
  | cons item rest ih =>
    obtain ⟨hitem, hrest⟩ := List.forall_mem_cons.mp h
    exact .nest hitem (ih hrest)

theorem of_nest_mem (h : Nested p steps) (hmem : .nest inner ∈ steps) : Nested p inner := by
  induction h with
  | nil => cases hmem
  | line _ _ ih => exact ih ((List.mem_cons.mp hmem).resolve_left nofun)
  | blank _ ih => exact ih ((List.mem_cons.mp hmem).resolve_left nofun)
  | nest hinner _ _ ih =>
    rcases List.mem_cons.mp hmem with heq | hmem
    · cases heq
      exact hinner
    · exact ih hmem
  | block _ _ _ _ ihinside ihrest =>
    rcases List.mem_append.mp hmem with hmem | hmem
    · rcases List.mem_append.mp ((List.mem_cons.mp hmem).resolve_left nofun) with hmem | hmem
      · exact ihinside hmem
      · exact absurd (List.mem_singleton.mp hmem) nofun
    · exact ihrest hmem

/-- What nested steps are made of has their form too. -/
theorem of_part (h : Nested p steps) (hpart : Part part steps) : Nested p part := by
  induction hpart with
  | self => exact h
  | nested hmem _ ih => exact ih (h.of_nest_mem hmem)

end Nested

/-! ## Depth -/

namespace Writer

@[simp] theorem depth_line (w : Writer) (text : String) : (w.line text).depth = w.depth := rfl

@[simp] theorem depth_blank (w : Writer) : w.blank.depth = w.depth := rfl

@[simp] theorem depth_enter (w : Writer) (text : String) : (w.enter text).depth = w.depth + 1 := rfl

@[simp] theorem depth_leave (w : Writer) (text : String) : (w.leave text).depth = w.depth - 1 := rfl

@[simp] theorem depth_lineOrBlank (w : Writer) (text : String) :
    (w.lineOrBlank text).depth = w.depth := by
  rw [lineOrBlank]
  split <;> rfl

/-- The text of another writer does not change the depth, whatever it is. -/
@[simp] theorem depth_append (w : Writer) (text : String) : (w.append text).depth = w.depth := by
  rw [append]
  induction Text.lines text generalizing w with
  | nil => rfl
  | cons line rest ih => rw [List.foldl_cons, ih, depth_lineOrBlank]

end Writer

namespace Closed

theorem nil : Closed [] := by
  refine ⟨fun w => by simp, fun w before text after heq => ?_⟩
  exact absurd heq.symm (by simp)

/-- A step that neither opens nor closes a block stays where it is. -/
theorem cons {step : Step} (hstep : ∀ w : Writer, (w.perform step).depth = w.depth)
    (hleave : ∀ text, step ≠ .leave text) (h : Closed steps) : Closed (step :: steps) := by
  constructor
  · intro w
    rw [Writer.performAll_cons, h.depth_performAll, hstep]
  · intro w before text after heq
    cases before with
    | nil => exact absurd (List.cons_eq_cons.mp heq).1 (hleave text)
    | cons earlier before =>
      obtain ⟨rfl, hrest⟩ := List.cons_eq_cons.mp heq
      rw [Writer.performAll_cons, ← hstep w]
      exact h.depth_lt_of_leave _ before text after hrest

theorem line (text : String) : Closed [.line text] := nil.cons (fun w => by simp) nofun

theorem blank : Closed [.blank] := nil.cons (fun w => by simp) nofun

/-- A nested text is closed, whatever its steps are. -/
theorem nest (inner : List Step) : Closed [.nest inner] := nil.cons (fun w => by simp) nofun

theorem append (hfirst : Closed first) (hsecond : Closed second) : Closed (first ++ second) := by
  constructor
  · intro w
    rw [Writer.performAll_append, hsecond.depth_performAll, hfirst.depth_performAll]
  · intro w before text after heq
    rcases List.append_eq_append_iff.mp heq with ⟨middle, rfl, hmiddle⟩ | ⟨middle, rfl, hmiddle⟩
    · rw [Writer.performAll_append, ← hfirst.depth_performAll w]
      exact hsecond.depth_lt_of_leave _ middle text after hmiddle
    · cases middle with
      | nil =>
        -- the closing line is the first of `second`
        have hlt := hsecond.depth_lt_of_leave w [] text after hmiddle.symm
        exact absurd hlt (Nat.lt_irrefl _)
      | cons step middle =>
        obtain ⟨rfl, _⟩ := List.cons_eq_cons.mp hmiddle
        exact hfirst.depth_lt_of_leave w before text middle rfl

theorem block (opening closing : String) (h : Closed inside) :
    Closed (Source.block opening inside closing) := by
  constructor
  · intro w
    simp [Source.block, Writer.performAll_append, h.depth_performAll]
  · intro w before text after heq
    cases before with
    | nil => cases heq
    | cons step before =>
      obtain ⟨rfl, hrest⟩ := List.cons_eq_cons.mp heq
      rw [Writer.performAll_cons, Writer.perform_enter]
      -- the closing line is that of the block, or one inside it
      rcases List.eq_nil_or_concat after with rfl | ⟨after, last, rfl⟩
      · obtain ⟨rfl, _⟩ := List.append_inj' hrest rfl
        rw [h.depth_performAll]
        exact Nat.lt_succ_self _
      · have hconcat : inside ++ [.leave closing] = (before ++ .leave text :: after) ++ [last] :=
          hrest.trans (by simp)
        obtain ⟨rfl, _⟩ := List.append_inj' hconcat rfl
        have hlt := h.depth_lt_of_leave (w.enter opening) before text after rfl
        exact Nat.lt_of_succ_lt hlt

theorem flatMap {α : Type} {items : List α} {f : α → List Step}
    (h : ∀ item ∈ items, Closed (f item)) : Closed (items.flatMap f) := by
  induction items with
  | nil => exact .nil
  | cons item rest ih =>
    obtain ⟨hitem, hrest⟩ := List.forall_mem_cons.mp h
    rw [List.flatMap_cons]
    exact hitem.append (ih hrest)

end Closed

/-- **Nested steps are closed.** -/
theorem Nested.closed (h : Nested p steps) : Closed steps := by
  induction h with
  | nil => exact .nil
  | line _ _ ih => exact ih.cons (fun w => by simp) nofun
  | blank _ ih => exact ih.cons (fun w => by simp) nofun
  | nest _ _ _ ih => exact ih.cons (fun w => by simp) nofun
  | block _ _ _ _ ihinside ihrest => exact (ihinside.block _ _).append ihrest

end Source
end MessageDump
