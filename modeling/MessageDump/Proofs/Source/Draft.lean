import MessageDump.Proofs.Fault.Sequence
import MessageDump.Proofs.Source.Indentation
import MessageDump.Proofs.Text.Quoted
/-! # Source with gaps

Some texts get into the source only between quotes.  What can be said of the source
without knowing these texts is a *draft*: its fixed characters, with a gap wherever a
quoted text stands.  The texts are all given by one *wording*, of some type `ω`, so
that a draft can be spelled out in every wording.

Steps that depend on the wording are drafted (`Drafted`) if the lines that they write
are those of one draft, in every wording: however a line is cut out of its text,
moved, and put into another, the gaps stay where they are.  Drafted steps are put
together like any others, and so is what may fail (`Worded`).
-/
namespace MessageDump
namespace Source

/-- A place in a draft: a fixed character, or a gap for a quoted text. -/
inductive Mark (ω : Type) where
  | char (c : Char)
  | gap (text : ω → String)

variable {ω : Type}

/-- The text that a gap is for. -/
def Mark.text? : Mark ω → Option (ω → String)
  | char _ => none
  | gap text => some text

/-- The characters that stand at a place in the given wording. -/
def Mark.spell (w : ω) : Mark ω → List Char
  | char c => [c]
  | gap text => Text.quotedChars (text w).toList

/-- A draft in the given wording. -/
def spell (w : ω) (draft : List (Mark ω)) : List Char := draft.flatMap (Mark.spell w)

/-- The texts that fill the gaps of a draft. -/
def gaps (draft : List (Mark ω)) : List (ω → String) := draft.filterMap Mark.text?

/-- A text that is the same in every wording. -/
def fixed (text : List Char) : List (Mark ω) := text.map .char

/-- A line of a draft moved deeper, unless it is empty. -/
def movedMarks (depth : Nat) (line : List (Mark ω)) : List (Mark ω) :=
  if line.isEmpty then [] else fixed (List.replicate (4 * depth) ' ') ++ line

/-- The draft of a text, from those of its lines. -/
def joined (ls : List (List (Mark ω))) : List (Mark ω) := ls.flatMap (· ++ [.char '\n'])

/-! ## Spelling a draft out -/

section
variable (w : ω) {line first second : List (Mark ω)} {ls : List (List (Mark ω))}

@[simp] theorem spell_nil : spell w [] = [] := rfl

@[simp] theorem spell_append (first second : List (Mark ω)) :
    spell w (first ++ second) = spell w first ++ spell w second := List.flatMap_append

@[simp] theorem spell_gap (text : ω → String) (rest : List (Mark ω)) :
    spell w (.gap text :: rest) = Text.quotedChars (text w).toList ++ spell w rest := by
  simp [spell, Mark.spell]

@[simp] theorem spell_fixed (text : List Char) : spell w (fixed text) = text := by
  rw [spell, fixed, List.flatMap_map]
  exact List.flatMap_singleton' text

theorem spell_eq_nil_iff : spell w line = [] ↔ line = [] := by
  cases line with
  | nil => simp
  | cons mark rest => cases mark <;> simp [spell, Mark.spell, Text.quotedChars]

theorem spell_movedMarks (depth : Nat) (line : List (Mark ω)) :
    spell w (movedMarks depth line) = moved depth (spell w line) := by
  cases line with
  | nil => rfl
  | cons mark rest =>
    have hne : spell w (mark :: rest) ≠ [] := mt (spell_eq_nil_iff w).mp (List.cons_ne_nil _ _)
    rw [moved_of_ne_nil hne, movedMarks, List.isEmpty_cons, if_neg Bool.false_ne_true, spell_append,
      spell_fixed]

theorem map_spell_movedMarks (depth : Nat) (ls : List (List (Mark ω))) :
    (ls.map (movedMarks depth)).map (spell w) = (ls.map (spell w)).map (moved depth) := by
  rw [List.map_map, List.map_map]
  exact List.map_congr_left fun line _ => spell_movedMarks w depth line

theorem spell_joined : spell w (joined ls) = Text.unlines (ls.map (spell w)) := by
  induction ls with
  | nil => rfl
  | cons line ls ih =>
    rw [joined, List.flatMap_cons, ← joined, spell_append, ih, List.map_cons, Text.unlines_cons,
      spell_append, List.append_assoc]
    rfl

@[simp] theorem gaps_nil : gaps ([] : List (Mark ω)) = [] := rfl

@[simp] theorem gaps_append (first second : List (Mark ω)) :
    gaps (first ++ second) = gaps first ++ gaps second := List.filterMap_append

@[simp] theorem gaps_gap (text : ω → String) (rest : List (Mark ω)) :
    gaps (.gap text :: rest) = text :: gaps rest := rfl

@[simp] theorem gaps_fixed (text : List Char) : gaps (fixed text : List (Mark ω)) = [] := by
  rw [gaps, fixed, List.filterMap_map]
  exact List.filterMap_eq_nil_iff.mpr fun _ _ => rfl

@[simp] theorem gaps_movedMarks (depth : Nat) (line : List (Mark ω)) :
    gaps (movedMarks depth line) = gaps line := by
  cases line with
  | nil => rfl
  | cons mark rest =>
    rw [movedMarks, List.isEmpty_cons, if_neg Bool.false_ne_true, gaps_append, gaps_fixed,
      List.nil_append]

theorem flatMap_gaps_movedMarks (depth : Nat) (ls : List (List (Mark ω))) :
    (ls.map (movedMarks depth)).flatMap gaps = ls.flatMap gaps := by
  rw [List.flatMap_map]
  exact List.flatMap_congr fun line _ => gaps_movedMarks depth line

theorem gaps_joined : gaps (joined ls) = ls.flatMap gaps := by
  induction ls with
  | nil => rfl
  | cons line ls ih =>
    rw [joined, List.flatMap_cons, ← joined, gaps_append, gaps_append, ih, List.flatMap_cons]
    exact congrArg (· ++ _) (List.append_nil _)

end

/-! ## Lines that stay lines -/

/-- Whether a text ends in a character that is no carriage return. -/
def endsLine (text : List Char) : Bool := text.getLast?.any (· ≠ '\r')

/-- A text that is one line wherever it is put. -/
structure OneLine (text : List Char) : Prop where
  feed_not_mem : '\n' ∉ text
  ends : endsLine text = true

namespace OneLine
variable {text front back : List Char}

theorem ne_nil (h : OneLine text) : text ≠ [] := by
  rintro rfl
  exact absurd h.ends (by decide)

theorem unbroken (h : OneLine text) : Text.Unbroken text := by
  refine ⟨h.feed_not_mem, fun hlast => ?_⟩
  have hends := h.ends
  rw [endsLine, hlast] at hends
  exact absurd hends (by decide)

theorem append (hfront : '\n' ∉ front) (h : OneLine back) : OneLine (front ++ back) := by
  refine ⟨by simp [hfront, h.feed_not_mem], ?_⟩
  have hends := h.ends
  rw [endsLine] at hends ⊢
  rwa [List.getLast?_append_of_ne_nil _ h.ne_nil]

end OneLine

theorem unbroken_moved {line : List Char} (h : Text.Unbroken line) (depth : Nat) :
    Text.Unbroken (moved depth line) := by
  by_cases hline : line = []
  · rwa [hline, moved_nil, ← hline]
  · rw [moved_of_ne_nil hline]
    refine ⟨by simp [List.mem_replicate, h.feed_not_mem], ?_⟩
    rw [List.getLast?_append_of_ne_nil _ hline]
    exact h.getLast?_ne

/-! ## Steps -/

/-- Steps that write the lines of one draft, whatever the wording is. -/
structure Drafted (steps : ω → List Step) (ls : List (List (Mark ω))) : Prop where
  closed : ∀ w, Closed (steps w)
  writes : ∀ w, Writes (steps w) (ls.map (spell w))
  unbroken : ∀ w, ∀ line ∈ ls, Text.Unbroken (spell w line)

namespace Drafted
variable {first second inside : ω → List Step} {ls ls' : List (List (Mark ω))}

theorem nil : Drafted (fun _ : ω => []) [] where
  closed _ := .nil
  writes _ w := by simp
  unbroken := by simp

theorem append (hfirst : Drafted first ls) (hsecond : Drafted second ls') :
    Drafted (fun w => first w ++ second w) (ls ++ ls') where
  closed w := (hfirst.closed w).append (hsecond.closed w)
  writes w := by
    rw [List.map_append]
    exact (hfirst.writes w).append (hfirst.closed w) (hsecond.writes w)
  unbroken w := List.forall_mem_append.mpr ⟨hfirst.unbroken w, hsecond.unbroken w⟩

theorem line {text : ω → String} {marks : List (Mark ω)} (htext : ∀ w, (text w).toList = spell w marks)
    (hline : ∀ w, OneLine (spell w marks)) : Drafted (fun w => [.line (text w)]) [marks] where
  closed w := .line (text w)
  writes w := by
    have hne : (text w).toList ≠ [] := by
      rw [htext]
      exact (hline w).ne_nil
    rw [List.map_singleton, ← htext]
    exact .line hne
  unbroken w := List.forall_mem_singleton.mpr (hline w).unbroken

/-- A line without a gap. -/
theorem fixedLine {text : String} (h : OneLine text.toList) :
    Drafted (fun _ : ω => [.line text]) [fixed text.toList] :=
  line (fun w => (spell_fixed w _).symm) fun w => by rwa [spell_fixed]

/-- A line with one gap. -/
theorem gapLine {text : ω → String} {front back : String} (value : ω → String)
    (htext : ∀ w, text w = front ++ (Text.quote (value w) ++ back)) (hfront : '\n' ∉ front.toList)
    (hback : OneLine back.toList) :
    Drafted (fun w => [.line (text w)]) [fixed front.toList ++ .gap value :: fixed back.toList] := by
  have hspell : ∀ w, (text w).toList =
      spell w (fixed front.toList ++ .gap value :: fixed back.toList) := by
    intro w
    rw [htext, String.toList_append, String.toList_append, Text.quote, String.toList_ofList]
    simp
  refine line hspell fun w => ?_
  have hquote := (Text.noBreak_quote (value w)).1
  rw [← hspell, htext, String.toList_append, String.toList_append]
  exact OneLine.append hfront (OneLine.append hquote hback)

theorem blank : Drafted (fun _ : ω => [.blank]) [[]] where
  closed _ := .blank
  writes _ := .blank
  unbroken w := List.forall_mem_singleton.mpr ⟨by simp, by simp⟩

theorem nest (h : Drafted inside ls) : Drafted (fun w => [.nest (inside w)]) ls where
  closed w := .nest (inside w)
  writes w := by
    refine (h.writes w).nest fun _ hmem => ?_
    obtain ⟨line, hline, rfl⟩ := List.mem_map.mp hmem
    exact h.unbroken w line hline
  unbroken := h.unbroken

theorem block {opening closing : String} (hopening : OneLine opening.toList)
    (hclosing : OneLine closing.toList) (h : Drafted inside ls) :
    Drafted (fun w => Source.block opening (inside w) closing)
      ([fixed opening.toList] ++ (ls.map (movedMarks 1) ++ [fixed closing.toList])) where
  closed w := (h.closed w).block _ _
  writes w := by
    rw [List.map_append, List.map_append, map_spell_movedMarks, List.map_singleton,
      List.map_singleton, spell_fixed, spell_fixed]
    exact (h.writes w).block hopening.ne_nil hclosing.ne_nil (h.closed w)
  unbroken w := by
    rw [List.forall_mem_append, List.forall_mem_append, List.forall_mem_singleton,
      List.forall_mem_singleton, spell_fixed, spell_fixed]
    refine ⟨hopening.unbroken, ?_, hclosing.unbroken⟩
    intro _ hmem
    obtain ⟨line, hline, rfl⟩ := List.mem_map.mp hmem
    rw [spell_movedMarks]
    exact unbroken_moved (h.unbroken w line hline) 1

end Drafted

/-! ## Steps that may not be made -/

/-- Something that is made in every wording, and has source with the given texts in
its gaps. -/
def Worded {φ β : Type} (make : ω → Except φ β) (source : ω → β → List Step)
    (texts : List (ω → String)) : Prop :=
  ∃ (made : ω → β) (ls : List (List (Mark ω))), (∀ w, make w = .ok (made w)) ∧
    Drafted (fun w => source w (made w)) ls ∧ ls.flatMap gaps = texts

/-- What is made of several items has their gaps in the order of the items. -/
theorem Worded.mapM {α φ β : Type} {items : List α} {make : ω → α → Except φ β}
    {source : ω → β → List Step} {texts : α → List (ω → String)}
    (h : ∀ item ∈ items, Worded (fun w => make w item) source (texts item)) :
    Worded (fun w => items.mapM (make w)) (fun w made => made.flatMap (source w))
      (items.flatMap texts) := by
  induction items with
  | nil => exact ⟨fun _ => [], [], fun _ => rfl, .nil, rfl⟩
  | cons item rest ih =>
    obtain ⟨hitem, hrest⟩ := List.forall_mem_cons.mp h
    obtain ⟨made, ls, hmade, hdrafted, hgaps⟩ := hitem
    obtain ⟨others, ls', hothers, hdrafted', hgaps'⟩ := ih hrest
    refine ⟨fun w => made w :: others w, ls ++ ls', fun w => ?_, hdrafted.append hdrafted', ?_⟩
    · exact mapM_eq_ok_iff.mpr (.cons (hmade w) (mapM_eq_ok_iff.mp (hothers w)))
    · rw [List.flatMap_append, hgaps, hgaps', List.flatMap_cons]

end Source
end MessageDump
