import Mathlib.Data.List.Infix
import MessageDump.Proofs.Source.Indentation
/-! # Writing in place

Steps can be performed on a writer itself, or on a fresh one whose text is then
appended to it.  The second way cuts into lines what was already indented, indents it
again, and forgets how deep the fresh writer was.  Yet both ways come to the same
(`Writer.append_eq_performAll`).

The two runs go side by side (`Writer.Beside`): the one in place is always deeper by
the depth at which it began, and its lines are those of the fresh writer, each moved by
that depth.  Only a block that is closed without being open could part them: the fresh
writer then stays at depth zero, while the other one goes back.  What a step nests is
written by a writer of its own in either run, so that the blocks in there need not be
closed.
-/
namespace MessageDump
namespace Source

/-! ## Steps that can be performed in place -/

/-- Whether a step opens a block. -/
def Step.opens : Step → Bool
  | .enter _ => true
  | .line _ | .blank | .leave _ | .nest _ => false

/-- Whether a step closes a block. -/
def Step.closes : Step → Bool
  | .leave _ => true
  | .line _ | .blank | .enter _ | .nest _ => false

theorem Step.opens_of_closes {step : Step} (h : step.closes = true) : step.opens = false := by
  cases step with
  | leave text => rfl
  | line text => cases h
  | blank => cases h
  | enter text => cases h
  | nest steps => cases h

/-- Steps that never close a block which they have not opened, and that close all
blocks at the end.  What they nest does not count. -/
structure Balanced (steps : List Step) : Prop where
  closes_le_opens : ∀ before, before <+: steps →
    before.countP Step.closes ≤ before.countP Step.opens
  closes_eq_opens : steps.countP Step.closes = steps.countP Step.opens

mutual

/-- The texts that a step writes as lines, also in what it nests. -/
def Step.texts : Step → List String
  | .line text | .enter text | .leave text => [text]
  | .blank => []
  | .nest steps => texts steps

/-- The texts that steps write as lines, also in what they nest. -/
def texts : List Step → List String
  | [] => []
  | step :: rest => step.texts ++ texts rest

end

@[simp] theorem texts_cons (step : Step) (rest : List Step) :
    texts (step :: rest) = step.texts ++ texts rest := by
  rw [texts]

@[simp] theorem Step.texts_line (text : String) : (Step.line text).texts = [text] := by
  rw [Step.texts]

@[simp] theorem Step.texts_enter (text : String) : (Step.enter text).texts = [text] := by
  rw [Step.texts]

@[simp] theorem Step.texts_leave (text : String) : (Step.leave text).texts = [text] := by
  rw [Step.texts]

@[simp] theorem Step.texts_nest (steps : List Step) :
    (Step.nest steps).texts = Source.texts steps := by
  rw [Step.texts]

/-- A text that can be written as one line: it is not empty, and has no line end. -/
def IsLineText (text : String) : Prop := text ≠ "" ∧ Text.NoBreak text.toList

instance (text : String) : Decidable (IsLineText text) := inferInstanceAs (Decidable (_ ∧ _))

theorem IsLineText.toList_ne_nil {text : String} (h : IsLineText text) : text.toList ≠ [] :=
  mt String.toList_eq_nil_iff.mp h.1

/-! ## What one step does -/

/-- The lines that a step writes, before they are indented. -/
def Step.lines : Step → List (List Char)
  | .line text | .enter text | .leave text => [text.toList]
  | .blank => [[]]
  | .nest steps => (Text.lines (textOf steps)).map String.toList

/-- The depth of these lines, from the depth of the writer. -/
def Step.level (depth : Nat) : Step → Nat
  | .leave _ => depth - 1
  | .line _ | .blank | .enter _ | .nest _ => depth

namespace Writer

theorem toList_text_perform (w : Writer) {step : Step} (h : ∀ text ∈ step.texts, IsLineText text) :
    (w.perform step).text.toList =
      w.text.toList ++ Text.unlines (step.lines.map (moved (step.level w.depth))) := by
  cases step with
  | line text =>
    have htext := (h text (by simp)).toList_ne_nil
    rw [perform_line]
    exact w.toList_text_line htext
  | blank =>
    rw [perform_blank]
    exact w.toList_text_blank
  | enter text =>
    have htext := (h text (by simp)).toList_ne_nil
    rw [perform_enter]
    exact w.toList_text_line htext
  | leave text =>
    have htext := (h text (by simp)).toList_ne_nil
    rw [perform_leave]
    exact toList_text_line _ htext
  | nest steps =>
    have hnest := Writes.nest_lines steps w
    rwa [performAll_cons, performAll_nil] at hnest

theorem depth_perform (w : Writer) {step : Step} (h : step.closes = true → 0 < w.depth) :
    (w.perform step).depth + step.closes.toNat = w.depth + step.opens.toNat := by
  cases step with
  | line text => simp [Step.closes, Step.opens]
  | blank => simp [Step.closes, Step.opens]
  | enter text => simp [Step.closes, Step.opens]
  | leave text =>
    have hpos : 0 < w.depth := h rfl
    show (w.perform (.leave text)).depth + 1 = w.depth + 0
    rw [perform_leave, depth_leave]
    omega
  | nest steps => simp [Step.closes, Step.opens]

/-- A writer that has no block to close writes as deep as any other, counted from the
depth of each. -/
theorem level_add {step : Step} {depth : Nat} (more : Nat) (h : step.closes = true → 0 < depth) :
    step.level (more + depth) = more + step.level depth := by
  cases step with
  | leave text =>
    have hpos : 0 < depth := h rfl
    show more + depth - 1 = more + (depth - 1)
    omega
  | line text => rfl
  | blank => rfl
  | enter text => rfl
  | nest steps => rfl

end Writer

mutual

/-- The lines of a step are not broken. -/
theorem Step.noBreak_lines : ∀ step : Step, (∀ text ∈ step.texts, IsLineText text) →
    ∀ l ∈ step.lines, Text.NoBreak l
  | .line text, h, l, hl => by
    obtain rfl := List.mem_singleton.mp hl
    exact (h text (by simp)).2
  | .enter text, h, l, hl => by
    obtain rfl := List.mem_singleton.mp hl
    exact (h text (by simp)).2
  | .leave text, h, l, hl => by
    obtain rfl := List.mem_singleton.mp hl
    exact (h text (by simp)).2
  | .blank, _, l, hl => by
    obtain rfl := List.mem_singleton.mp hl
    exact Text.noBreak_nil
  | .nest steps, h, l, hl => by
    obtain ⟨ls, hclean, hls⟩ := exists_unlines_performAll steps {} (by simpa using h)
    have hlines : Text.lines (textOf steps) = ls.map String.ofList :=
      Text.lines_of_toList_eq_unlines hls fun l hl => (hclean l hl).unbroken
    have hmem : l ∈ ls := by
      simpa [Step.lines, hlines, Function.comp_def] using hl
    exact hclean l hmem

/-- Steps write lines that are not broken. -/
theorem exists_unlines_performAll : ∀ (steps : List Step) (w : Writer),
    (∀ text ∈ texts steps, IsLineText text) →
    ∃ ls, (∀ l ∈ ls, Text.NoBreak l) ∧
      (w.performAll steps).text.toList = w.text.toList ++ Text.unlines ls
  | [], w, _ => ⟨[], by simp, by simp⟩
  | step :: rest, w, h => by
    rw [texts_cons, List.forall_mem_append] at h
    obtain ⟨hstep, hrest⟩ := h
    obtain ⟨ls, hclean, hls⟩ := exists_unlines_performAll rest (w.perform step) hrest
    refine ⟨step.lines.map (moved (step.level w.depth)) ++ ls, ?_, ?_⟩
    · rw [List.forall_mem_append, List.forall_mem_map]
      exact ⟨fun l hl => noBreak_moved (step.noBreak_lines hstep l hl) _, hclean⟩
    · rw [Writer.performAll_cons, hls, w.toList_text_perform hstep, Text.unlines_append,
        List.append_assoc]

end

/-! ## Two runs side by side -/

namespace Writer
variable {base u w : Writer} {step : Step} {steps : List Step}

/-- A fresh writer `u` has performed the same steps as `w`, which began as `base`. -/
structure Beside (base u w : Writer) : Prop where
  depth : w.depth = base.depth + u.depth
  lines : ∃ ls, (∀ l ∈ ls, Text.NoBreak l) ∧ u.text.toList = Text.unlines ls ∧
    w.text.toList = base.text.toList ++ Text.unlines (ls.map (moved base.depth))

theorem Beside.start (base : Writer) : Beside base {} base :=
  ⟨rfl, [], by simp, rfl, by simp⟩

/-- The runs stay side by side, unless a block is closed that is not open. -/
theorem Beside.perform (h : Beside base u w) (hstep : ∀ text ∈ step.texts, IsLineText text)
    (hopen : step.closes = true → 0 < u.depth) :
    Beside base (u.perform step) (w.perform step) := by
  obtain ⟨hdepth, ls, hclean, hu, hw⟩ := h
  have hopen' : step.closes = true → 0 < w.depth := fun hcloses => by
    have := hopen hcloses
    omega
  refine ⟨?_, ls ++ step.lines.map (moved (step.level u.depth)), ?_, ?_, ?_⟩
  · have hdepthu := u.depth_perform hopen
    have hdepthw := w.depth_perform hopen'
    omega
  · rw [List.forall_mem_append, List.forall_mem_map]
    exact ⟨hclean, fun l hl => noBreak_moved (step.noBreak_lines hstep l hl) _⟩
  · rw [u.toList_text_perform hstep, hu, Text.unlines_append]
  · have hmoved : (step.lines.map (moved (step.level u.depth))).map (moved base.depth) =
        step.lines.map (moved (step.level w.depth)) := by
      rw [hdepth, level_add base.depth hopen, List.map_map]
      exact List.map_congr_left fun l _ => moved_moved _ _ l
    rw [w.toList_text_perform hstep, hw, List.map_append, hmoved, Text.unlines_append,
      List.append_assoc]

/-- So do whole runs, in which no beginning closes more blocks than are open. -/
theorem Beside.performAll (h : Beside base u w) (hlined : ∀ text ∈ texts steps, IsLineText text)
    (hopen : ∀ before, before <+: steps →
      before.countP Step.closes ≤ u.depth + before.countP Step.opens) :
    Beside base (u.performAll steps) (w.performAll steps) ∧
      (u.performAll steps).depth + steps.countP Step.closes =
        u.depth + steps.countP Step.opens := by
  induction steps generalizing u w with
  | nil => exact ⟨by simpa using h, by simp⟩
  | cons step rest ih =>
    rw [texts_cons, List.forall_mem_append] at hlined
    obtain ⟨hstep, hrest⟩ := hlined
    have hclose : step.closes = true → 0 < u.depth := by
      intro hcloses
      have hone := hopen [step] (by simp)
      have hopens : step.opens = false := Step.opens_of_closes hcloses
      rw [List.countP_singleton, List.countP_singleton, if_pos hcloses, hopens] at hone
      exact hone
    have hdepth := u.depth_perform hclose
    obtain ⟨hbeside, hcount⟩ := ih (h.perform hstep hclose) hrest fun before hbefore => by
      have hmore := hopen (step :: before) (List.cons_prefix_cons.mpr ⟨rfl, hbefore⟩)
      rw [countP_cons_eq_add_toNat, countP_cons_eq_add_toNat] at hmore
      omega
    rw [performAll_cons, performAll_cons, countP_cons_eq_add_toNat, countP_cons_eq_add_toNat]
    exact ⟨hbeside, by omega⟩

theorem eq_of_text_depth (htext : u.text = w.text) (hdepth : u.depth = w.depth) : u = w := by
  obtain ⟨text, depth⟩ := u
  obtain ⟨text', depth'⟩ := w
  obtain rfl : text = text' := htext
  obtain rfl : depth = depth' := hdepth
  rfl

/-- When the fresh writer is back at depth zero, its text can be appended. -/
theorem Beside.append_eq (h : Beside base u w) (hdepth : u.depth = 0) :
    base.append u.text = w := by
  obtain ⟨hdepths, ls, hclean, hu, hw⟩ := h
  have hlines : Text.lines u.text = ls.map String.ofList :=
    Text.lines_of_toList_eq_unlines hu fun l hl => (hclean l hl).unbroken
  have htext : (base.append u.text).text = w.text := by
    apply String.toList_inj.mp
    rw [base.toList_text_append hlines, hw]
  have hsame : (base.append u.text).depth = w.depth := by
    rw [depth_append, hdepths, hdepth, Nat.add_zero]
  exact eq_of_text_depth htext hsame

/-- **Appending what a fresh writer has written is writing it in place**: at any depth,
and with whatever the steps nest, text and depth come out the same. -/
theorem append_eq_performAll (hlined : ∀ text ∈ texts steps, IsLineText text)
    (hbalanced : Balanced steps) (w : Writer) :
    w.append (performAll {} steps).text = w.performAll steps := by
  obtain ⟨hbeside, hcount⟩ := (Beside.start w).performAll hlined fun before hbefore => by
    have hle := hbalanced.closes_le_opens before hbefore
    exact Nat.le_trans hle (Nat.le_add_left _ _)
  apply hbeside.append_eq
  have hclosed := hbalanced.closes_eq_opens
  have hzero : (performAll {} steps).depth + steps.countP Step.closes =
    0 + steps.countP Step.opens := hcount
  omega

end Writer
end Source

/-! ## A block around a writer that closes too much -/

open Source (Balanced IsLineText Step Writer block texts)

namespace Sample

/-- A block around an empty line and the text of a writer that closes a block without
opening it. -/
def boxed : List Step :=
  block "fn f() \x7b" [.line "y();", .blank, .nest [.leave "\x7d", .enter "x \x7b", .line "z"]]
    "\x7d"

theorem lined_boxed : ∀ text ∈ texts boxed, IsLineText text := by decide

theorem balanced_boxed : Balanced boxed := by
  constructor
  · intro before hbefore
    have hall : ∀ before ∈ boxed.inits,
        before.countP Step.closes ≤ before.countP Step.opens := by decide
    exact hall before ((List.mem_inits before boxed).mpr hbefore)
  · decide

end Sample

/-- The steps of `boxed` come out the same in place, at depth two. -/
theorem Sample.boxed_in_place :
    (∀ text ∈ texts boxed, IsLineText text) ∧ Balanced boxed ∧
      ({ text := "a\n", depth := 2 } : Writer).append (Writer.performAll {} boxed).text =
        ({ text := "a\n", depth := 2 } : Writer).performAll boxed :=
  ⟨lined_boxed, balanced_boxed, Writer.append_eq_performAll lined_boxed balanced_boxed _⟩

/-- A block that is closed without being open goes back only in place. -/
example : ({ depth := 1 } : Writer).append (Writer.performAll {} [.leave "\x7d"]).text ≠
    ({ depth := 1 } : Writer).performAll [.leave "\x7d"] := by decide

/-- An empty text is indented only in place. -/
example : ({ depth := 1 } : Writer).append (Writer.performAll {} [.line ""]).text ≠
    ({ depth := 1 } : Writer).performAll [.line ""] := by decide

end MessageDump
