import MessageDump.Text.Split
/-! # Writing indented source

Source text is written line by line at a depth, and every level of depth
indents a line by four spaces.  What is to be written is described by steps; a
writer performs them one after the other.  A step may nest the result of other
steps: their text is cut into lines again and each line that is not empty is
written at the depth reached so far.
-/
namespace MessageDump
namespace Source

/-- Something to write. -/
inductive Step where
  /-- A line at the current depth. -/
  | line (text : String)
  /-- An empty line, which is not indented. -/
  | blank
  /-- A line that opens a block: what follows is one level deeper. -/
  | enter (text : String)
  /-- A line that closes a block, one level less deep than what precedes it. -/
  | leave (text : String)
  /-- The text that the given steps write from the start. -/
  | nest (steps : List Step)

/-- Text written so far and the depth of the next line. -/
structure Writer where
  text : String := ""
  depth : Nat := 0
  deriving DecidableEq, Repr

namespace Writer

/-- The indentation of a line. -/
def indentation (depth : Nat) : String :=
  String.ofList (List.replicate (4 * depth) ' ')

/-- Writes a line at the current depth. -/
def line (w : Writer) (text : String) : Writer :=
  { w with text := w.text ++ indentation w.depth ++ text ++ "\n" }

/-- Writes an empty line. -/
def blank (w : Writer) : Writer :=
  { w with text := w.text ++ "\n" }

/-- Writes a line and goes one level deeper. -/
def enter (w : Writer) (text : String) : Writer :=
  { w.line text with depth := w.depth + 1 }

/-- Goes back one level, but never beyond the start, and writes a line. -/
def leave (w : Writer) (text : String) : Writer :=
  { w with depth := w.depth - 1 }.line text

/-- Writes a line that may be empty. -/
def lineOrBlank (w : Writer) (text : String) : Writer :=
  if text = "" then w.blank else w.line text

/-- Writes the lines of another text at the current depth. -/
def append (w : Writer) (text : String) : Writer :=
  (Text.lines text).foldl lineOrBlank w

/-- Whether nothing has been written. -/
def isEmpty (w : Writer) : Bool := w.text = ""

mutual

/-- Performs one step. -/
def perform (w : Writer) : Step → Writer
  | .line text => w.line text
  | .blank => w.blank
  | .enter text => w.enter text
  | .leave text => w.leave text
  | .nest steps => w.append (performAll {} steps).text

/-- Performs steps one after the other. -/
def performAll (w : Writer) : List Step → Writer
  | [] => w
  | step :: steps => performAll (w.perform step) steps

end

@[simp] theorem perform_line (w : Writer) (text : String) :
    w.perform (.line text) = w.line text := by
  rw [perform]

@[simp] theorem perform_blank (w : Writer) : w.perform .blank = w.blank := by
  rw [perform]

@[simp] theorem perform_enter (w : Writer) (text : String) :
    w.perform (.enter text) = w.enter text := by
  rw [perform]

@[simp] theorem perform_leave (w : Writer) (text : String) :
    w.perform (.leave text) = w.leave text := by
  rw [perform]

@[simp] theorem perform_nest (w : Writer) (steps : List Step) :
    w.perform (.nest steps) = w.append (performAll {} steps).text := by
  rw [perform]

@[simp] theorem performAll_nil (w : Writer) : w.performAll [] = w := by
  rw [performAll]

@[simp] theorem performAll_cons (w : Writer) (step : Step) (steps : List Step) :
    w.performAll (step :: steps) = (w.perform step).performAll steps := by
  rw [performAll]

/-- Performing two rows of steps is performing the one row made of both. -/
theorem performAll_append (w : Writer) (first second : List Step) :
    w.performAll (first ++ second) = (w.performAll first).performAll second := by
  induction first generalizing w with
  | nil => simp
  | cons step steps ih => simp [ih]

end Writer

/-- The text that steps write from the start. -/
def textOf (steps : List Step) : String :=
  (Writer.performAll {} steps).text

/-- The steps for a block: an opening line, what is inside, a closing line. -/
def block (opening : String) (inside : List Step) (closing : String) : List Step :=
  .enter opening :: (inside ++ [.leave closing])

end Source
end MessageDump
