import MessageDump.Proofs.Source.Indentation
/-! # What happens to a nested text

A text that is nested is cut into lines, and these are written again, one by one.  Seen
from the text as a whole, each of its lines that is not empty gets a margin
(`Text.withMargin`), and nothing else would happen to it, were it not for the carriage
returns: one that stands right before a line feed belongs to the line end and is lost
(`Text.withoutReturns`).  `Source.toList_nested_text` says that this is all.
-/
namespace MessageDump
namespace Text

/-- Characters with each carriage return left out that stands right before a line feed. -/
def dropReturns : List Char → List Char
  | [] => []
  | c :: rest => if c = '\r' ∧ rest.head? = some '\n' then dropReturns rest else c :: dropReturns rest

/-- A text whose line ends are line feeds alone. -/
def withoutReturns (text : String) : String := String.ofList (dropReturns text.toList)

/-- Characters with a margin wherever a line that is not empty begins; the flag tells
whether one begins here. -/
def marginChars (margin : List Char) (atStart : Bool) : List Char → List Char
  | [] => []
  | c :: rest =>
    if c = '\n' then c :: marginChars margin true rest
    else (if atStart then margin else []) ++ c :: marginChars margin false rest

/-- A text with a margin before each line that is not empty. -/
def withMargin (margin text : String) : String :=
  String.ofList (marginChars margin.toList true text.toList)

variable {line rest margin : List Char} {ls : List (List Char)}

/-! ## Line ends -/

theorem dropReturns_of_not_mem (h : '\r' ∉ rest) : dropReturns rest = rest := by
  induction rest with
  | nil => rfl
  | cons c rest ih =>
    rw [List.mem_cons, not_or] at h
    have hc : ¬ (c = '\r' ∧ rest.head? = some '\n') := fun hreturn => h.1 hreturn.1.symm
    rw [dropReturns, if_neg hc, ih h.2]

/-- A text without carriage returns is as it was. -/
theorem withoutReturns_of_not_mem {text : String} (h : '\r' ∉ text.toList) :
    withoutReturns text = text := by
  rw [withoutReturns, dropReturns_of_not_mem h, String.ofList_toList]

theorem dropReturns_append_feed (h : '\n' ∉ line) (rest : List Char) :
    dropReturns (line ++ '\n' :: rest) = dropReturn line ++ '\n' :: dropReturns rest := by
  induction line with
  | nil => rfl
  | cons c line ih =>
    rw [List.mem_cons, not_or] at h
    rw [List.cons_append, dropReturns, ih h.2]
    cases line with
    | nil =>
      -- the last character before the line feed
      by_cases hc : c = '\r'
      · subst hc
        rfl
      · have hkeep : dropReturn [c] = [c] := dropReturn_of_getLast? (by simpa using hc)
        rw [if_neg fun hreturn => hc hreturn.1, hkeep]
        rfl
    | cons next line =>
      have hnext : ¬ (c = '\r' ∧ ((next :: line) ++ '\n' :: rest).head? = some '\n') := by
        rintro ⟨_, hhead⟩
        rw [List.cons_append, List.head?_cons, Option.some.injEq] at hhead
        exact h.2 (hhead ▸ List.mem_cons_self)
      rw [if_neg hnext, ← List.singleton_append (x := c) (l := next :: line),
        dropReturn_append [c] (List.cons_ne_nil next line), List.append_assoc,
        List.singleton_append]

theorem dropReturns_unlines (h : ∀ l ∈ ls, '\n' ∉ l) :
    dropReturns (unlines ls) = unlines (ls.map dropReturn) := by
  induction ls with
  | nil => rfl
  | cons l ls ih =>
    obtain ⟨hl, hls⟩ := List.forall_mem_cons.mp h
    rw [unlines_cons, dropReturns_append_feed hl, ih hls, List.map_cons, unlines_cons]

/-! ## Margins -/

theorem marginChars_false_append_feed (h : '\n' ∉ line) (rest : List Char) :
    marginChars margin false (line ++ '\n' :: rest) =
      line ++ '\n' :: marginChars margin true rest := by
  induction line with
  | nil => rfl
  | cons c line ih =>
    rw [List.mem_cons, not_or] at h
    rw [List.cons_append, marginChars, if_neg (Ne.symm h.1), ih h.2]
    rfl

theorem marginChars_true_append_feed (h : '\n' ∉ line) (rest : List Char) :
    marginChars margin true (line ++ '\n' :: rest) =
      (if line = [] then [] else margin ++ line) ++ '\n' :: marginChars margin true rest := by
  cases line with
  | nil => rfl
  | cons c line =>
    rw [List.mem_cons, not_or] at h
    rw [List.cons_append, marginChars, if_neg (Ne.symm h.1),
      marginChars_false_append_feed h.2, if_neg (List.cons_ne_nil c line)]
    simp

theorem marginChars_unlines (h : ∀ l ∈ ls, '\n' ∉ l) :
    marginChars margin true (unlines ls) =
      unlines (ls.map fun l => if l = [] then [] else margin ++ l) := by
  induction ls with
  | nil => rfl
  | cons l ls ih =>
    obtain ⟨hl, hls⟩ := List.forall_mem_cons.mp h
    rw [unlines_cons, marginChars_true_append_feed hl, ih hls, List.map_cons, unlines_cons]

/-! ## Lines of any text that ends in a line feed -/

theorem unlines_splitAt (l : List Char) : unlines (splitAt '\n' l) = l ++ ['\n'] := by
  induction l with
  | nil => rfl
  | cons c rest ih =>
    by_cases hc : c = '\n'
    · subst hc
      rw [splitAt_cons_sep, unlines_cons, ih]
      rfl
    · obtain ⟨piece, pieces, hpieces⟩ := exists_splitAt_eq_cons '\n' rest
      rw [hpieces, unlines_cons] at ih
      rw [splitAt_cons_of_ne hc hpieces, unlines_cons, List.cons_append, ih, List.cons_append]

/-- Lines can be cut further until none holds a line feed. -/
theorem exists_unlines_eq (ls : List (List Char)) :
    ∃ pieces, (∀ l ∈ pieces, '\n' ∉ l) ∧ unlines ls = unlines pieces := by
  refine ⟨ls.flatMap (splitAt '\n'), ?_, ?_⟩
  · intro l hl
    obtain ⟨_, _, hpiece⟩ := List.mem_flatMap.mp hl
    exact not_mem_of_mem_splitAt hpiece
  · induction ls with
    | nil => rfl
    | cons l ls ih =>
      rw [unlines_cons, ih, List.flatMap_cons, unlines_append, unlines_splitAt, List.append_assoc,
        List.singleton_append]

end Text

namespace Source

open Text (dropReturn unlines)

/-- The text of any steps, cut into lines without a line feed. -/
theorem exists_unlines_textOf (steps : List Step) :
    ∃ pieces, (∀ l ∈ pieces, '\n' ∉ l) ∧ (textOf steps).toList = unlines pieces := by
  obtain ⟨ls, htext⟩ := Writer.exists_written_performAll {} steps
  obtain ⟨pieces, hfeedless, hls⟩ := Text.exists_unlines_eq ls
  exact ⟨pieces, hfeedless, by rw [textOf, htext, hls]; rfl⟩

/-- **A nested text keeps all but the carriage returns of its line ends**, and each line of
it that is not empty gets the margin of its depth. -/
theorem toList_nested_text (steps : List Step) (depth : Nat) :
    unlines (((Text.lines (textOf steps)).map String.toList).map (moved depth)) =
      (Text.withMargin (Writer.indentation depth) (Text.withoutReturns (textOf steps))).toList := by
  obtain ⟨pieces, hfeedless, htext⟩ := exists_unlines_textOf steps
  have hdropped : ∀ l ∈ pieces.map dropReturn, '\n' ∉ l := by
    intro _ hl hfeed
    obtain ⟨piece, hpiece, rfl⟩ := List.mem_map.mp hl
    exact hfeedless piece hpiece (Text.mem_of_mem_dropReturn hfeed)
  have hlines : (Text.lines (textOf steps)).map String.toList = pieces.map dropReturn := by
    rw [← String.ofList_toList (s := textOf steps), htext, Text.lines_unlines_eq_map hfeedless,
      List.map_map]
    exact List.map_id'' (fun _ => String.toList_ofList) _
  rw [hlines, Text.withMargin, Text.withoutReturns, String.toList_ofList, String.toList_ofList,
    htext, Text.dropReturns_unlines hfeedless, Text.marginChars_unlines hdropped,
    Writer.indentation, String.toList_ofList]
  rfl

end Source
end MessageDump
