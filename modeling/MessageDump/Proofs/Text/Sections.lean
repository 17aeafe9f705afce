import MessageDump.Proofs.Text.Lines
/-! # Texts that can be told apart

Texts are put together with an empty line between them.  Nothing but the texts
themselves can tell where one ends and the next begins, and they do if each of them
begins with the same line, which occurs nowhere else in them (`Text.IsSection`).  The
whole is then cut before every such line, and each piece but the last loses the line
feed that came between (`Text.takeApart_intercalate`).

A cut keeps all characters, also those of line ends, so that lines are taken here with
their ends (`Text.endedLines`); what makes a line equal to another are its characters
without the end (`Text.lines_eq_map_endedLines`).
-/
namespace MessageDump
namespace Text

variable {α : Type}

/-! ## Lines with their ends -/

/-- The lines of a text with their ends.  Only the last may have none. -/
def endedLines : List Char → List (List Char)
  | [] => []
  | c :: rest =>
    if c = '\n' then [c] :: endedLines rest
    else
      match endedLines rest with
      | [] => [[c]]
      | line :: others => (c :: line) :: others

/-- A line without its end: a line feed, and a carriage return right before it. -/
def withoutEnd (line : List Char) : List Char :=
  if line.getLast? = some '\n' then dropReturn line.dropLast else line

theorem flatten_endedLines (cs : List Char) : (endedLines cs).flatten = cs := by
  induction cs with
  | nil => rfl
  | cons c rest ih =>
    by_cases hc : c = '\n'
    · rw [endedLines, if_pos hc, List.flatten_cons, ih, List.singleton_append]
    · rw [endedLines, if_neg hc]
      cases hrest : endedLines rest with
      | nil =>
        rw [hrest] at ih
        rw [← ih]
        rfl
      | cons line others =>
        rw [hrest] at ih
        rw [← ih]
        rfl

theorem endedLines_line {line : List Char} (h : '\n' ∉ line) (rest : List Char) :
    endedLines (line ++ '\n' :: rest) = (line ++ ['\n']) :: endedLines rest := by
  induction line with
  | nil => rw [List.nil_append, endedLines, if_pos rfl, List.nil_append]
  | cons c line ih =>
    rw [List.mem_cons, not_or] at h
    rw [List.cons_append, endedLines, if_neg (Ne.symm h.1), ih h.2]
    rfl

/-- A line feed ends a line, whatever precedes it. -/
theorem endedLines_append_feed (front rest : List Char) :
    endedLines (front ++ '\n' :: rest) = endedLines (front ++ ['\n']) ++ endedLines rest := by
  induction front with
  | nil => rfl
  | cons c front ih =>
    by_cases hc : c = '\n'
    · rw [List.cons_append, List.cons_append, endedLines, endedLines, if_pos hc, if_pos hc, ih,
        List.cons_append]
    · rw [List.cons_append, List.cons_append, endedLines, endedLines, if_neg hc, if_neg hc, ih]
      cases hfront : endedLines (front ++ ['\n']) with
      | nil =>
        have hflat := flatten_endedLines (front ++ ['\n'])
        rw [hfront] at hflat
        exact absurd hflat.symm (by simp)
      | cons line others => rfl

/-- What has no end is the last line. -/
theorem endedLines_of_not_mem {line : List Char} (h : '\n' ∉ line) (hne : line ≠ []) :
    endedLines line = [line] := by
  induction line with
  | nil => exact absurd rfl hne
  | cons c rest ih =>
    rw [List.mem_cons, not_or] at h
    rw [endedLines, if_neg (Ne.symm h.1)]
    by_cases hrest : rest = []
    · rw [hrest]
      rfl
    · rw [ih h.2 hrest]

theorem endedLines_unlines {ls : List (List Char)} (h : ∀ l ∈ ls, '\n' ∉ l) :
    endedLines (unlines ls) = ls.map (· ++ ['\n']) := by
  induction ls with
  | nil => rfl
  | cons l ls ih =>
    obtain ⟨hl, hls⟩ := List.forall_mem_cons.mp h
    rw [unlines_cons, endedLines_line hl, ih hls, List.map_cons]

@[simp] theorem withoutEnd_append_feed (line : List Char) :
    withoutEnd (line ++ ['\n']) = dropReturn line := by
  simp [withoutEnd]

theorem withoutEnd_of_not_mem {line : List Char} (h : '\n' ∉ line) : withoutEnd line = line := by
  apply if_neg
  exact fun hlast => h (List.mem_of_getLast? hlast)

theorem linesOfPieces_eq {pieces : List (List Char)} (h : ∀ piece ∈ pieces, '\n' ∉ piece) :
    linesOfPieces pieces = (endedLines (['\n'].intercalate pieces)).map withoutEnd := by
  induction pieces with
  | nil => rfl
  | cons piece pieces ih =>
    obtain ⟨hpiece, hpieces⟩ := List.forall_mem_cons.mp h
    cases pieces with
    | nil =>
      rw [List.intercalate_singleton]
      by_cases hne : piece = []
      · rw [hne]
        rfl
      · rw [endedLines_of_not_mem hpiece hne, linesOfPieces, if_neg hne, List.map_singleton,
          withoutEnd_of_not_mem hpiece]
    | cons next pieces =>
      have hjoined : ['\n'].intercalate (piece :: next :: pieces) =
          piece ++ '\n' :: ['\n'].intercalate (next :: pieces) := by
        simp
      rw [hjoined, endedLines_line hpiece, List.map_cons, withoutEnd_append_feed, ← ih hpieces,
        linesOfPieces_cons (List.cons_ne_nil next pieces)]

/-- The lines of a text are those with ends, without their ends. -/
theorem lines_eq_map_endedLines (text : String) :
    lines text = (endedLines text.toList).map fun line => String.ofList (withoutEnd line) := by
  have hfeeds : ∀ piece ∈ splitAt '\n' text.toList, '\n' ∉ piece := fun _ => not_mem_of_mem_splitAt
  rw [lines, linesOfPieces_eq hfeeds, intercalate_splitAt, List.map_map]
  rfl

/-! ## Cutting before some items -/

/-- A list cut before each item with a property: what precedes all of these, and the
pieces that begin with one. -/
def cutBefore (p : α → Bool) : List α → List α × List (List α)
  | [] => ([], [])
  | item :: rest =>
    let cut := cutBefore p rest
    if p item then ([], (item :: cut.1) :: cut.2) else (item :: cut.1, cut.2)

section Cut
variable {p : α → Bool} {item : α} {front rest items : List α} {pieces : List (List α)}

theorem cutBefore_cons_pos (h : p item = true) :
    cutBefore p (item :: rest) = ([], (item :: (cutBefore p rest).1) :: (cutBefore p rest).2) := by
  simp only [cutBefore, h, if_true]

theorem cutBefore_cons_neg (h : p item = false) :
    cutBefore p (item :: rest) = (item :: (cutBefore p rest).1, (cutBefore p rest).2) := by
  simp only [cutBefore, h, Bool.false_eq_true, if_false]

theorem cutBefore_append (h : ∀ item ∈ front, p item = false) :
    cutBefore p (front ++ rest) = (front ++ (cutBefore p rest).1, (cutBefore p rest).2) := by
  induction front with
  | nil => rfl
  | cons item front ih =>
    obtain ⟨hitem, hfront⟩ := List.forall_mem_cons.mp h
    rw [List.cons_append, cutBefore_cons_neg hitem, ih hfront]
    rfl

/-- Pieces that each begin with an item before which a list is cut, and have no other
such item, are what the list made of them is cut into. -/
theorem cutBefore_flatten
    (h : ∀ piece ∈ pieces, ∃ head others, piece = head :: others ∧ p head = true ∧
      ∀ item ∈ others, p item = false) : cutBefore p pieces.flatten = ([], pieces) := by
  induction pieces with
  | nil => rfl
  | cons piece pieces ih =>
    obtain ⟨hpiece, hpieces⟩ := List.forall_mem_cons.mp h
    obtain ⟨head, others, rfl, hhead, hothers⟩ := hpiece
    rw [List.flatten_cons, List.cons_append, cutBefore_cons_pos hhead, cutBefore_append hothers,
      ih hpieces, List.append_nil]

end Cut

/-! ## What stands between -/

/-- Rows with a separator at the end of each but the last. -/
def separated (sep : List α) : List (List α) → List (List α)
  | [] => []
  | [last] => [last]
  | row :: rest => (row ++ sep) :: separated sep rest

section Separated
variable {sep row : List α} {rows : List (List α)}

theorem separated_cons (h : rows ≠ []) :
    separated sep (row :: rows) = (row ++ sep) :: separated sep rows := separated.eq_3 sep row rows h

theorem flatten_separated (sep : List α) (rows : List (List α)) :
    (separated sep rows).flatten = sep.intercalate rows := by
  induction rows with
  | nil => rfl
  | cons row rows ih =>
    cases rows with
    | nil => simp [separated]
    | cons next rows =>
      rw [separated_cons (List.cons_ne_nil next rows), List.flatten_cons, ih]
      simp

theorem forall_mem_separated {P : List α → Prop} (hsep : ∀ row, P row → P (row ++ sep))
    (h : ∀ row ∈ rows, P row) : ∀ row ∈ separated sep rows, P row := by
  induction rows with
  | nil => exact h
  | cons row rows ih =>
    obtain ⟨hrow, hrows⟩ := List.forall_mem_cons.mp h
    by_cases hnil : rows = []
    · subst hnil
      exact h
    · rw [separated_cons hnil, List.forall_mem_cons]
      exact ⟨hsep row hrow, ih hrows⟩

theorem map_separated {β : Type} {f : List α → List β} {sep' : List β}
    (hsep : ∀ row, f (row ++ sep) = f row ++ sep') (rows : List (List α)) :
    (separated sep rows).map f = separated sep' (rows.map f) := by
  induction rows with
  | nil => rfl
  | cons row rows ih =>
    by_cases hnil : rows = []
    · rw [hnil]
      rfl
    · rw [separated_cons hnil, List.map_cons, ih, hsep, List.map_cons,
        separated_cons (mt List.map_eq_nil_iff.mp hnil)]

end Separated

/-! ## Sections -/

/-- A text of ended lines, of which the first is the given one and no other is. -/
def IsSection (head text : List Char) : Prop :=
  ∃ later, text = unlines (head :: later) ∧ ∀ line ∈ later, '\n' ∉ line ∧ dropReturn line ≠ head

/-- A text cut before each line that is equal to the given one. -/
def cutAtLines (head text : List Char) : List Char × List (List Char) :=
  let cut := cutBefore (fun line => withoutEnd line = head) (endedLines text)
  (cut.1.flatten, cut.2.map List.flatten)

/-- A text without the line feed at its end. -/
def dropFeed (text : List Char) : List Char :=
  if text.getLast? = some '\n' then text.dropLast else text

/-- Texts without the line feed that separates each from the next one. -/
def dropSeparators : List (List Char) → List (List Char)
  | [] => []
  | [last] => [last]
  | text :: rest => dropFeed text :: dropSeparators rest

/-- The texts that begin with the given line, taken out of a text that is made of
them. -/
def takeApart (head text : List Char) : List (List Char) := dropSeparators (cutAtLines head text).2

theorem dropSeparators_separated (texts : List (List Char)) :
    dropSeparators (separated ['\n'] texts) = texts := by
  induction texts with
  | nil => rfl
  | cons text texts ih =>
    cases texts with
    | nil => rfl
    | cons next rest =>
      have hne : separated ['\n'] (next :: rest) ≠ [] := by
        cases rest <;> simp [separated]
      rw [separated_cons (List.cons_ne_nil next rest), dropSeparators.eq_3 _ _ hne, ih]
      simp [dropFeed]

section Sections
variable {head text : List Char} {texts : List (List Char)}

theorem IsSection.getLast?_eq (h : IsSection head text) : text.getLast? = some '\n' := by
  obtain ⟨later, rfl, _⟩ := h
  rw [unlines, ← List.dropLast_append_getLast (List.cons_ne_nil head later), List.flatMap_append,
    List.flatMap_singleton, ← List.append_assoc, List.getLast?_concat]

/-- The lines of a section: the first is the one before which it is cut. -/
theorem IsSection.exists_endedLines (h : IsSection head text) (hhead : NoBreak head) :
    ∃ later, endedLines text = (head ++ ['\n']) :: later ∧ ∀ line ∈ later, withoutEnd line ≠ head := by
  obtain ⟨later, rfl, hlater⟩ := h
  have hfeeds : ∀ line ∈ head :: later, '\n' ∉ line :=
    List.forall_mem_cons.mpr ⟨hhead.1, fun line hline => (hlater line hline).1⟩
  refine ⟨later.map (· ++ ['\n']), endedLines_unlines hfeeds, ?_⟩
  rw [List.forall_mem_map]
  intro line hline
  rw [withoutEnd_append_feed]
  exact (hlater line hline).2

theorem IsSection.exists_lines {head text : String} (h : IsSection head.toList text.toList)
    (hhead : NoBreak head.toList) : ∃ later, lines text = head :: later ∧ head ∉ later := by
  obtain ⟨later, hlines, hlater⟩ := h.exists_endedLines hhead
  refine ⟨later.map fun line => String.ofList (withoutEnd line), ?_, ?_⟩
  · rw [lines_eq_map_endedLines, hlines, List.map_cons, withoutEnd_append_feed,
      dropReturn_of_getLast? hhead.unbroken.getLast?_ne, String.ofList_toList]
  · intro hmem
    obtain ⟨line, hline, heq⟩ := List.mem_map.mp hmem
    apply hlater line hline
    rw [← heq, String.toList_ofList]

/-- The lines of texts with an empty line between them. -/
theorem endedLines_intercalate (h : ∀ text ∈ texts, text.getLast? = some '\n') :
    endedLines (['\n'].intercalate texts) = [['\n']].intercalate (texts.map endedLines) := by
  induction texts with
  | nil => rfl
  | cons text texts ih =>
    obtain ⟨htext, htexts⟩ := List.forall_mem_cons.mp h
    cases texts with
    | nil => simp
    | cons next rest =>
      obtain ⟨front, rfl⟩ := List.getLast?_eq_some_iff.mp htext
      have hjoined : ['\n'].intercalate ((front ++ ['\n']) :: next :: rest) =
          front ++ '\n' :: '\n' :: ['\n'].intercalate (next :: rest) := by
        simp
      rw [hjoined, endedLines_append_feed, endedLines, if_pos rfl, ih htexts]
      simp

theorem lines_intercalate {texts : List String}
    (h : ∀ text ∈ texts, text.toList.getLast? = some '\n') :
    lines ("\n".intercalate texts) = [""].intercalate (texts.map lines) := by
  have hended : endedLines ("\n".intercalate texts).toList =
      [['\n']].intercalate ((texts.map String.toList).map endedLines) := by
    rw [String.toList_intercalate]
    exact endedLines_intercalate (List.forall_mem_map.mpr h)
  have hbare : ∀ rows : List (List Char),
      (rows ++ [['\n']]).map (fun line => String.ofList (withoutEnd line)) =
        rows.map (fun line => String.ofList (withoutEnd line)) ++ [""] := by
    intro rows
    rw [List.map_append]
    rfl
  rw [lines_eq_map_endedLines, hended, ← flatten_separated, ← flatten_separated, List.map_flatten,
    map_separated hbare, List.map_map, List.map_map]
  congr 2
  exact List.map_congr_left fun text _ => (lines_eq_map_endedLines text).symm

/-- **Sections put together are cut into sections**, each but the last with the line
feed that separates it from the next. -/
theorem cutAtLines_intercalate (hhead : NoBreak head) (hne : head ≠ [])
    (h : ∀ text ∈ texts, IsSection head text) :
    cutAtLines head (['\n'].intercalate texts) = ([], separated ['\n'] texts) := by
  have hpieces : ∀ piece ∈ separated [['\n']] (texts.map endedLines),
      ∃ first others, piece = first :: others ∧ decide (withoutEnd first = head) = true ∧
        ∀ line ∈ others, decide (withoutEnd line = head) = false := by
    apply forall_mem_separated
    · -- the empty line between two texts is none before which the whole is cut
      rintro _ ⟨first, others, rfl, hfirst, hothers⟩
      refine ⟨first, others ++ [['\n']], rfl, hfirst, ?_⟩
      rw [List.forall_mem_append, List.forall_mem_singleton]
      exact ⟨hothers, decide_eq_false (Ne.symm hne)⟩
    · rw [List.forall_mem_map]
      intro text htext
      obtain ⟨later, hlines, hlater⟩ := (h text htext).exists_endedLines hhead
      refine ⟨head ++ ['\n'], later, hlines, ?_, fun line hline => decide_eq_false (hlater line hline)⟩
      rw [withoutEnd_append_feed, dropReturn_of_getLast? hhead.unbroken.getLast?_ne]
      exact decide_eq_true rfl
  have hflat : (separated [['\n']] (texts.map endedLines)).map List.flatten =
      separated ['\n'] texts := by
    have hfeed : ∀ row : List (List Char), (row ++ [['\n']]).flatten = row.flatten ++ ['\n'] := by
      simp
    rw [map_separated hfeed, List.map_map]
    exact congrArg _ (List.map_id'' flatten_endedLines texts)
  have hlines := endedLines_intercalate fun text htext => (h text htext).getLast?_eq
  rw [cutAtLines, hlines, ← flatten_separated, cutBefore_flatten hpieces, hflat]
  rfl

theorem takeApart_intercalate (hhead : NoBreak head) (hne : head ≠ [])
    (h : ∀ text ∈ texts, IsSection head text) :
    takeApart head (['\n'].intercalate texts) = texts := by
  rw [takeApart, cutAtLines_intercalate hhead hne h, dropSeparators_separated]

end Sections
end Text
end MessageDump
