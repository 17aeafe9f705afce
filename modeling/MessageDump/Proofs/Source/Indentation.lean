import MessageDump.Proofs.Source.Nesting
import MessageDump.Proofs.Text.Lines
/-! # Indented text

Which blocks are open at a line of a text can be told from the text alone: a line
that ends in an opening brace opens one, and a line that begins with a closing brace
closes one.  A text is indented if every line that is not empty stands as deep as
this says (`Source.Indented`).  Nested steps write indented text, if the lines that
they write as one open and close blocks just where the steps do (`Step.Faithful`);
that a nested text is cut into lines again and moved changes nothing, since all its
lines move by the same depth (`Indented.deeper`).
-/
namespace MessageDump
namespace Source

/-- Whether a line opens a block: it ends in an opening brace. -/
def opensBlock (line : List Char) : Bool := line.getLast? = some '\x7b'

/-- Whether a line closes a block: a closing brace is the first of its characters
that is no space. -/
def closesBlock (line : List Char) : Bool := (line.dropWhile (· = ' ')).head? = some '\x7d'

/-- The number of spaces that a line begins with. -/
def indentWidth (line : List Char) : Nat := (line.takeWhile (· = ' ')).length

/-- Lines from one depth to another: each line that is not empty has four spaces for
each block that is open at it, and blocks are closed only if they are open. -/
def Indented : Nat → List (List Char) → Nat → Prop
  | depth, [], last => depth = last
  | depth, line :: rest, last =>
    ∃ inner, depth = inner + (closesBlock line).toNat ∧
      (line ≠ [] → indentWidth line = 4 * inner) ∧
      Indented (inner + (opensBlock line).toNat) rest last

/-- A line moved deeper, unless it is empty. -/
def moved (depth : Nat) (line : List Char) : List Char :=
  if line = [] then [] else List.replicate (4 * depth) ' ' ++ line

/-- A text in which the blocks that are open at a line can be told from the lines,
and the indentation of every line agrees with it. -/
structure WellIndented (content : String) : Prop where
  /-- A line that is not empty has four spaces for each line before it that opens a
  block, less those up to it that close one, and there are no more of the latter. -/
  depth_of_line : ∀ before line after,
    Text.splitAt '\n' content.toList = before ++ line :: after →
      ∃ depth, before.countP opensBlock = depth + (before ++ [line]).countP closesBlock ∧
        (line ≠ [] → indentWidth line = 4 * depth)
  /-- All blocks are closed. -/
  closed : (Text.splitAt '\n' content.toList).countP opensBlock =
    (Text.splitAt '\n' content.toList).countP closesBlock

/-! ## Lines and their indentation -/

@[simp] theorem moved_nil (depth : Nat) : moved depth [] = [] := rfl

theorem moved_of_ne_nil {line : List Char} (h : line ≠ []) (depth : Nat) :
    moved depth line = List.replicate (4 * depth) ' ' ++ line := if_neg h

@[simp] theorem moved_zero (line : List Char) : moved 0 line = line := by
  cases line <;> rfl

theorem moved_ne_nil {line : List Char} (h : line ≠ []) (depth : Nat) : moved depth line ≠ [] := by
  rw [moved_of_ne_nil h]
  exact List.append_ne_nil_of_right_ne_nil _ h

theorem moved_moved (depth inner : Nat) (line : List Char) :
    moved depth (moved inner line) = moved (depth + inner) line := by
  by_cases h : line = []
  · rw [h]
    rfl
  · rw [moved_of_ne_nil (moved_ne_nil h inner), moved_of_ne_nil h, moved_of_ne_nil h,
      ← List.append_assoc, ← List.replicate_add, Nat.mul_add]

@[simp] theorem opensBlock_moved (depth : Nat) (line : List Char) :
    opensBlock (moved depth line) = opensBlock line := by
  by_cases h : line = []
  · rw [h]
    rfl
  · rw [moved_of_ne_nil h, opensBlock, opensBlock, List.getLast?_append_of_ne_nil _ h]

@[simp] theorem closesBlock_moved (depth : Nat) (line : List Char) :
    closesBlock (moved depth line) = closesBlock line := by
  by_cases h : line = []
  · rw [h]
    rfl
  · rw [moved_of_ne_nil h, closesBlock, closesBlock, List.dropWhile_append_of_pos]
    simp

theorem indentWidth_moved {line : List Char} (h : line ≠ []) (depth : Nat) :
    indentWidth (moved depth line) = 4 * depth + indentWidth line := by
  rw [moved_of_ne_nil h, indentWidth, indentWidth, List.takeWhile_append_of_pos]
  · simp
  · simp

theorem noBreak_moved {line : List Char} (h : Text.NoBreak line) (depth : Nat) :
    Text.NoBreak (moved depth line) := by
  rw [moved]
  split
  · exact Text.noBreak_nil
  · have hspaces : Text.NoBreak (List.replicate (4 * depth) ' ') :=
      ⟨by simp [List.mem_replicate], by simp [List.mem_replicate]⟩
    exact Text.noBreak_append.mpr ⟨hspaces, h⟩

theorem countP_cons_eq_add_toNat {α : Type} (q : α → Bool) (a : α) (rest : List α) :
    (a :: rest).countP q = (q a).toNat + rest.countP q := by
  rw [List.countP_cons, Nat.add_comm]
  cases q a <;> rfl

namespace Indented
variable {depth middle last : Nat} {first second : List (List Char)}

theorem append (hfirst : Indented depth first middle) (hsecond : Indented middle second last) :
    Indented depth (first ++ second) last := by
  induction first generalizing depth with
  | nil => exact (hfirst : depth = middle) ▸ hsecond
  | cons line rest ih =>
    obtain ⟨inner, hclose, hwidth, hrest⟩ := hfirst
    exact ⟨inner, hclose, hwidth, ih hrest⟩

/-- Lines that move together stay indented. -/
theorem deeper (h : Indented depth first last) (more : Nat) :
    Indented (more + depth) (first.map (moved more)) (more + last) := by
  induction first generalizing depth with
  | nil => exact congrArg (more + ·) h
  | cons line rest ih =>
    obtain ⟨inner, rfl, hwidth, hrest⟩ := h
    refine ⟨more + inner, ?_, fun hne => ?_, ?_⟩
    · rw [closesBlock_moved, Nat.add_assoc]
    · have hline : line ≠ [] := by
        rintro rfl
        exact hne rfl
      rw [indentWidth_moved hline, hwidth hline, Nat.mul_add]
    · rw [opensBlock_moved, Nat.add_assoc]
      exact ih hrest

/-- The depth at the end is what the lines open and do not close. -/
theorem countP_eq (h : Indented depth first last) :
    depth + first.countP opensBlock = last + first.countP closesBlock := by
  induction first generalizing depth with
  | nil => exact congrArg (· + 0) h
  | cons line rest ih =>
    obtain ⟨inner, rfl, _, hrest⟩ := h
    have hcount := ih hrest
    rw [countP_cons_eq_add_toNat, countP_cons_eq_add_toNat]
    omega

/-- The depth of a line is what the lines before it open and the lines up to it do
not close. -/
theorem depth_of_line {before after : List (List Char)} {line : List Char}
    (h : Indented depth (before ++ line :: after) last) :
    ∃ inner, depth + before.countP opensBlock = inner + (before ++ [line]).countP closesBlock ∧
      (line ≠ [] → indentWidth line = 4 * inner) := by
  induction before generalizing depth with
  | nil =>
    obtain ⟨inner, rfl, hwidth, _⟩ := h
    refine ⟨inner, ?_, hwidth⟩
    rw [List.nil_append, countP_cons_eq_add_toNat]
    rfl
  | cons earlier before ih =>
    obtain ⟨outer, rfl, _, hrest⟩ := h
    obtain ⟨inner, hcount, hwidth⟩ := ih hrest
    refine ⟨inner, ?_, hwidth⟩
    rw [List.cons_append, countP_cons_eq_add_toNat, countP_cons_eq_add_toNat]
    omega

end Indented

/-! ## What nested steps write -/

/-- A text that is one line, with its first and its last character. -/
structure IsLine (text : String) (first last : Char) : Prop where
  noBreak : Text.NoBreak text.toList
  head : text.toList.head? = some first
  getLast : text.toList.getLast? = some last

/-- What a step writes as one is a line without indentation, and this line opens or
closes a block just if the step does. -/
def Step.Faithful : Step → Prop
  | .line text => ∃ first last, IsLine text first last ∧ first ≠ ' ' ∧ first ≠ '\x7d' ∧ last ≠ '\x7b'
  | .enter text => ∃ first, IsLine text first '\x7b' ∧ first ≠ ' ' ∧ first ≠ '\x7d'
  | .leave text => ∃ last, IsLine text '\x7d' last ∧ last ≠ '\x7b'
  | .blank | .nest _ => True

namespace IsLine
variable {text : String} {first last : Char}

theorem ne_nil (h : IsLine text first last) : text.toList ≠ [] := by
  intro hnil
  have hhead := h.head
  rw [hnil] at hhead
  cases hhead

theorem opensBlock_eq (h : IsLine text first last) :
    opensBlock text.toList = (last = '\x7b' : Bool) := by
  simp [opensBlock, h.getLast]

theorem indent (h : IsLine text first last) (hfirst : first ≠ ' ') :
    indentWidth text.toList = 0 ∧ closesBlock text.toList = (first = '\x7d' : Bool) := by
  obtain ⟨rest, hrest⟩ := List.head?_eq_some_iff.mp h.head
  rw [hrest]
  simp [indentWidth, closesBlock, hfirst]

/-- A line of its own, between the depths that its first and its last character
tell. -/
theorem indented (h : IsLine text first last) (hfirst : first ≠ ' ') :
    Indented (first = '\x7d' : Bool).toNat [text.toList] (last = '\x7b' : Bool).toNat := by
  obtain ⟨hwidth, hclose⟩ := h.indent hfirst
  refine ⟨0, ?_, fun _ => hwidth, ?_⟩
  · rw [hclose, Nat.zero_add]
  · rw [h.opensBlock_eq, Nat.zero_add]
    exact rfl

end IsLine

namespace Writer

theorem toList_text_line (w : Writer) {text : String} (h : text.toList ≠ []) :
    (w.line text).text.toList = w.text.toList ++ Text.unlines [moved w.depth text.toList] := by
  simp [line, indentation, moved_of_ne_nil h]

theorem toList_text_blank (w : Writer) :
    w.blank.text.toList = w.text.toList ++ Text.unlines [moved w.depth []] := by
  simp [blank]

theorem toList_text_lineOrBlank (w : Writer) (l : List Char) :
    (w.lineOrBlank (String.ofList l)).text.toList =
      w.text.toList ++ Text.unlines [moved w.depth l] := by
  rw [lineOrBlank]
  split
  · next hempty =>
    have hl : l = [] := by simpa using congrArg String.toList hempty
    rw [hl, toList_text_blank]
  · next hne =>
    have hl : (String.ofList l).toList ≠ [] := by simpa using hne
    rw [toList_text_line w hl, String.toList_ofList]

theorem toList_text_append (w : Writer) {text : String} {ls : List (List Char)}
    (h : Text.lines text = ls.map String.ofList) :
    (w.append text).text.toList = w.text.toList ++ Text.unlines (ls.map (moved w.depth)) := by
  rw [append, h]
  clear h
  induction ls generalizing w with
  | nil => simp
  | cons l ls ih =>
    rw [List.map_cons, List.foldl_cons, ih, depth_lineOrBlank, toList_text_lineOrBlank,
      List.append_assoc, ← Text.unlines_append]
    rfl

end Writer

/-- The lines that steps write, at whatever depth they are performed. -/
def Writes (steps : List Step) (ls : List (List Char)) : Prop :=
  ∀ w : Writer, (w.performAll steps).text.toList =
    w.text.toList ++ Text.unlines (ls.map (moved w.depth))

namespace Writes
variable {first second inside steps : List Step} {ls ls' : List (List Char)}

theorem line {text : String} (h : text.toList ≠ []) : Writes [.line text] [text.toList] :=
  fun w => by simpa using w.toList_text_line h

theorem blank : Writes [.blank] [[]] := fun w => by simpa using w.toList_text_blank

theorem append (hclosed : Closed first) (hfirst : Writes first ls) (hsecond : Writes second ls') :
    Writes (first ++ second) (ls ++ ls') := by
  intro w
  rw [Writer.performAll_append, hsecond, hfirst, hclosed.depth_performAll, List.append_assoc,
    ← Text.unlines_append, ← List.map_append]

/-- The lines of a block: what is inside is one level deeper. -/
theorem block {opening closing : String} (hopening : opening.toList ≠ [])
    (hclosing : closing.toList ≠ []) (hclosed : Closed inside) (h : Writes inside ls) :
    Writes (Source.block opening inside closing)
      ([opening.toList] ++ (ls.map (moved 1) ++ [closing.toList])) := by
  intro w
  have hleave : ({ (w.enter opening).performAll inside with
      depth := ((w.enter opening).performAll inside).depth - 1 } : Writer).depth = w.depth := by
    rw [hclosed.depth_performAll]
    rfl
  have hmoved : (ls.map (moved 1)).map (moved w.depth) = ls.map (moved (w.depth + 1)) := by
    rw [List.map_map]
    exact List.map_congr_left fun l _ => moved_moved w.depth 1 l
  rw [Source.block, Writer.performAll_cons, Writer.perform_enter, Writer.performAll_append,
    Writer.performAll_cons, Writer.perform_leave, Writer.performAll_nil, Writer.leave,
    Writer.toList_text_line _ hclosing, hleave, h, Writer.depth_enter, Writer.enter,
    Writer.toList_text_line _ hopening, List.map_append, List.map_append, hmoved]
  simp

theorem toList_textOf (h : Writes steps ls) : (textOf steps).toList = Text.unlines ls := by
  have hwritten := h {}
  rw [List.map_congr_left fun l _ => moved_zero l, List.map_id'] at hwritten
  exact hwritten

/-- A nested text is cut into lines, whatever it is. -/
theorem nest_lines (inside : List Step) :
    Writes [.nest inside] ((Text.lines (textOf inside)).map String.toList) := by
  intro w
  rw [Writer.performAll_cons, Writer.perform_nest, Writer.performAll_nil]
  refine w.toList_text_append ?_
  rw [List.map_map]
  exact (List.map_id'' (fun _ => String.ofList_toList) _).symm

/-- A nested text is cut into the lines that its steps write. -/
theorem nest (hclean : ∀ l ∈ ls, Text.Unbroken l) (h : Writes inside ls) :
    Writes [.nest inside] ls := by
  have hlines := Text.lines_of_toList_eq_unlines h.toList_textOf hclean
  have hnest := nest_lines inside
  rw [hlines, List.map_map] at hnest
  rwa [show String.toList ∘ String.ofList = id from funext fun _ => String.toList_ofList,
    List.map_id] at hnest

end Writes

/-! ## What any steps write -/

namespace Writer

/-- What is written stays, and more lines come behind it. -/
theorem exists_written_perform (w : Writer) (step : Step) :
    ∃ ls, (w.perform step).text.toList = w.text.toList ++ Text.unlines ls := by
  cases step with
  | line text => exact ⟨[(indentation w.depth).toList ++ text.toList], by simp [line]⟩
  | blank => exact ⟨[[]], by simp [blank]⟩
  | enter text => exact ⟨[(indentation w.depth).toList ++ text.toList], by simp [enter, line]⟩
  | leave text =>
    exact ⟨[(indentation (w.depth - 1)).toList ++ text.toList], by simp [leave, line]⟩
  | nest steps =>
    have hnest := Writes.nest_lines steps w
    rw [performAll_cons, performAll_nil] at hnest
    exact ⟨_, hnest⟩

theorem exists_written_performAll (w : Writer) (steps : List Step) :
    ∃ ls, (w.performAll steps).text.toList = w.text.toList ++ Text.unlines ls := by
  induction steps generalizing w with
  | nil => exact ⟨[], by simp⟩
  | cons step rest ih =>
    obtain ⟨ls, hstep⟩ := w.exists_written_perform step
    obtain ⟨ls', hrest⟩ := ih (w.perform step)
    exact ⟨ls ++ ls', by rw [performAll_cons, hrest, hstep, Text.unlines_append,
      List.append_assoc]⟩

end Writer

/-- The lines that steps write, with none broken and all indented. -/
structure Layout (steps : List Step) (ls : List (List Char)) : Prop where
  closed : Closed steps
  writes : Writes steps ls
  indented : Indented 0 ls 0
  clean : ∀ l ∈ ls, Text.NoBreak l

namespace Layout
variable {first second inside : List Step} {ls ls' : List (List Char)} {text : String}

theorem nil : Layout [] [] where
  closed := .nil
  writes w := by simp
  indented := rfl
  clean := by simp

theorem append (hfirst : Layout first ls) (hsecond : Layout second ls') :
    Layout (first ++ second) (ls ++ ls') where
  closed := hfirst.closed.append hsecond.closed
  writes := hfirst.writes.append hfirst.closed hsecond.writes
  indented := hfirst.indented.append hsecond.indented
  clean := List.forall_mem_append.mpr ⟨hfirst.clean, hsecond.clean⟩

theorem line (h : (Step.line text).Faithful) : Layout [.line text] [text.toList] := by
  obtain ⟨first, last, hline, hspace, hclose, hopen⟩ := h
  refine ⟨.line text, .line hline.ne_nil, ?_, ?_⟩
  · simpa [hclose, hopen] using hline.indented hspace
  · exact List.forall_mem_singleton.mpr hline.noBreak

theorem blank : Layout [.blank] [[]] := by
  refine ⟨.blank, .blank, ?_, by simp⟩
  exact ⟨0, rfl, fun hne => absurd rfl hne, rfl⟩

theorem nest (h : Layout inside ls) : Layout [.nest inside] ls where
  closed := .nest inside
  writes := h.writes.nest fun l hl => (h.clean l hl).unbroken
  indented := h.indented
  clean := h.clean

theorem block {opening closing : String} (hopening : (Step.enter opening).Faithful)
    (h : Layout inside ls) (hclosing : (Step.leave closing).Faithful) :
    Layout (Source.block opening inside closing)
      ([opening.toList] ++ (ls.map (moved 1) ++ [closing.toList])) := by
  obtain ⟨first, hfirst, hspace, hclose⟩ := hopening
  obtain ⟨last, hlast, hopen⟩ := hclosing
  have hbegin : Indented 0 [opening.toList] 1 := by simpa [hclose] using hfirst.indented hspace
  have hend : Indented 1 [closing.toList] 0 := by simpa [hopen] using hlast.indented (by decide)
  have hclean : ∀ l ∈ ls.map (moved 1), Text.NoBreak l := by
    intro _ hmem
    obtain ⟨l, hl, rfl⟩ := List.mem_map.mp hmem
    exact noBreak_moved (h.clean l hl) 1
  refine ⟨h.closed.block _ _, h.writes.block hfirst.ne_nil hlast.ne_nil h.closed, ?_, ?_⟩
  · exact hbegin.append ((h.indented.deeper 1).append hend)
  · rw [List.forall_mem_append, List.forall_mem_append, List.forall_mem_singleton,
      List.forall_mem_singleton]
    exact ⟨hfirst.noBreak, hclean, hlast.noBreak⟩

end Layout

/-- **Nested steps write indented lines**, if each of these is what its step says. -/
theorem Nested.exists_layout {steps : List Step} (h : Nested Step.Faithful steps) :
    ∃ ls, Layout steps ls := by
  induction h with
  | nil => exact ⟨[], .nil⟩
  | line htext _ ih =>
    obtain ⟨ls, hrest⟩ := ih
    exact ⟨_, (Layout.line htext).append hrest⟩
  | blank _ ih =>
    obtain ⟨ls, hrest⟩ := ih
    exact ⟨_, Layout.blank.append hrest⟩
  | nest _ _ ihinner ih =>
    obtain ⟨ls, hrest⟩ := ih
    obtain ⟨lsinner, hinner⟩ := ihinner
    exact ⟨_, hinner.nest.append hrest⟩
  | block hopening _ hclosing _ ihinside ih =>
    obtain ⟨ls, hrest⟩ := ih
    obtain ⟨lsinside, hinside⟩ := ihinside
    exact ⟨_, (hinside.block hopening hclosing).append hrest⟩

/-- A text with the lines of a layout is well indented. -/
theorem Layout.wellIndented {steps : List Step} {ls : List (List Char)} (h : Layout steps ls)
    {content : String} (hcontent : content.toList = Text.unlines ls) : WellIndented content := by
  have hpieces : Text.splitAt '\n' content.toList = ls ++ [[]] := by
    rw [hcontent, Text.splitAt_unlines fun l hl => (h.clean l hl).1]
  have hindented : Indented 0 (ls ++ [[]]) 0 := h.indented.append Layout.blank.indented
  constructor
  · intro before line after hsplit
    rw [← hpieces, hsplit] at hindented
    obtain ⟨depth, hcount, hwidth⟩ := hindented.depth_of_line
    exact ⟨depth, by rwa [Nat.zero_add] at hcount, hwidth⟩
  · have hcount := hindented.countP_eq
    rwa [Nat.zero_add, Nat.zero_add, ← hpieces] at hcount

end Source
end MessageDump
