import MessageDump.Proofs.Text.Split
/-! # Texts made of lines

Lines that are each ended by a line feed make a text that is cut into these lines
again, provided that no line holds a line feed and, where a carriage return belongs
to the line end, none ends in one.
-/
namespace MessageDump
namespace Text

/-- A line is not broken by a line feed, nor shortened by a carriage return. -/
def NoBreak (line : List Char) : Prop := '\n' ∉ line ∧ '\r' ∉ line

instance (line : List Char) : Decidable (NoBreak line) := inferInstanceAs (Decidable (_ ∧ _))

@[simp] theorem noBreak_append {a b : List Char} : NoBreak (a ++ b) ↔ NoBreak a ∧ NoBreak b := by
  simp only [NoBreak, List.mem_append, not_or]
  exact and_and_and_comm

@[simp] theorem noBreak_cons {c : Char} {rest : List Char} :
    NoBreak (c :: rest) ↔ (c ≠ '\n' ∧ c ≠ '\r') ∧ NoBreak rest := by
  simp only [NoBreak, List.mem_cons, not_or, ne_comm]
  exact and_and_and_comm

@[simp] theorem noBreak_nil : NoBreak [] := by decide

/-- A line that is a line of any text it is put into: it is not broken by a line feed,
and does not end in a carriage return, which would belong to the line end. -/
structure Unbroken (line : List Char) : Prop where
  feed_not_mem : '\n' ∉ line
  getLast?_ne : line.getLast? ≠ some '\r'

theorem NoBreak.unbroken {line : List Char} (h : NoBreak line) : Unbroken line :=
  ⟨h.1, fun hlast => h.2 (List.mem_of_getLast? hlast)⟩

/-- The characters of lines that are each ended by a line feed. -/
def unlines (ls : List (List Char)) : List Char := ls.flatMap (· ++ ['\n'])

@[simp] theorem unlines_nil : unlines [] = [] := rfl

@[simp] theorem unlines_cons (l : List Char) (ls : List (List Char)) :
    unlines (l :: ls) = l ++ '\n' :: unlines ls := by
  simp [unlines]

@[simp] theorem unlines_append (ls ls' : List (List Char)) :
    unlines (ls ++ ls') = unlines ls ++ unlines ls' := List.flatMap_append

/-- The pieces between line feeds are the lines, and nothing after the last. -/
theorem splitAt_unlines {ls : List (List Char)} (h : ∀ l ∈ ls, '\n' ∉ l) :
    splitAt '\n' (unlines ls) = ls ++ [[]] := by
  induction ls with
  | nil => rfl
  | cons l ls ih =>
    obtain ⟨hl, hls⟩ := List.forall_mem_cons.mp h
    rw [unlines_cons, splitAt_append_sep, splitAt_of_not_mem hl, ih hls]
    rfl

theorem dropReturn_of_getLast? {l : List Char} (h : l.getLast? ≠ some '\r') : dropReturn l = l := by
  induction l with
  | nil => rfl
  | cons c rest ih =>
    have hlone : c :: rest ≠ ['\r'] := by
      intro heq
      rw [heq] at h
      exact absurd rfl h
    have hrest : rest.getLast? ≠ some '\r' := by
      intro heq
      rw [List.getLast?_cons, heq] at h
      exact absurd rfl h
    rw [dropReturn, ih hrest]
    rintro rfl rfl
    exact absurd rfl hlone

theorem linesOfPieces_cons {piece : List Char} {pieces : List (List Char)} (h : pieces ≠ []) :
    linesOfPieces (piece :: pieces) = dropReturn piece :: linesOfPieces pieces :=
  linesOfPieces.eq_3 piece pieces h

/-- The piece behind the last line feed is not a line. -/
theorem linesOfPieces_append_nil (ls : List (List Char)) :
    linesOfPieces (ls ++ [[]]) = ls.map dropReturn := by
  induction ls with
  | nil => rfl
  | cons l ls ih => rw [List.cons_append, linesOfPieces_cons (by simp), ih, List.map_cons]

/-- The lines of a text that is made of lines, which may end in a carriage return. -/
theorem lines_unlines_eq_map {ls : List (List Char)} (h : ∀ l ∈ ls, '\n' ∉ l) :
    lines (String.ofList (unlines ls)) = (ls.map dropReturn).map String.ofList := by
  rw [lines, String.toList_ofList, splitAt_unlines h, linesOfPieces_append_nil]

/-- **The lines of a text are those it was made of.** -/
theorem lines_unlines {ls : List (List Char)} (h : ∀ l ∈ ls, Unbroken l) :
    lines (String.ofList (unlines ls)) = ls.map String.ofList := by
  have hkept : ls.map dropReturn = ls.map id :=
    List.map_congr_left fun l hl => dropReturn_of_getLast? (h l hl).getLast?_ne
  rw [lines_unlines_eq_map fun l hl => (h l hl).feed_not_mem, hkept, List.map_id]

theorem lines_of_toList_eq_unlines {text : String} {ls : List (List Char)}
    (htext : text.toList = unlines ls) (h : ∀ l ∈ ls, Unbroken l) :
    lines text = ls.map String.ofList := by
  rw [← lines_unlines h, ← htext, String.ofList_toList]

/-! ## Parts of lines -/

theorem mem_of_mem_dropReturn {c : Char} {l : List Char} (h : c ∈ dropReturn l) : c ∈ l := by
  induction l with
  | nil => cases h
  | cons first rest ih =>
    by_cases hlone : first :: rest = ['\r']
    · rw [hlone] at h
      cases h
    · rw [dropReturn] at h
      · rcases List.mem_cons.mp h with rfl | hrest
        · exact List.mem_cons_self
        · exact List.mem_cons_of_mem _ (ih hrest)
      · rintro rfl rfl
        exact hlone rfl

/-- A line holds no characters but those of a piece. -/
theorem exists_piece_of_mem_linesOfPieces {l : List Char} {pieces : List (List Char)}
    (h : l ∈ linesOfPieces pieces) : ∃ piece ∈ pieces, ∀ c ∈ l, c ∈ piece := by
  induction pieces with
  | nil => cases h
  | cons piece pieces ih =>
    by_cases hlast : pieces = []
    · subst hlast
      rw [linesOfPieces] at h
      split at h
      · cases h
      · rw [List.mem_singleton.mp h]
        exact ⟨piece, List.mem_cons_self, fun _ hc => hc⟩
    · rw [linesOfPieces_cons hlast] at h
      rcases List.mem_cons.mp h with rfl | h
      · exact ⟨piece, List.mem_cons_self, fun _ => mem_of_mem_dropReturn⟩
      · obtain ⟨other, hother, hall⟩ := ih h
        exact ⟨other, List.mem_cons_of_mem _ hother, hall⟩

/-- No line of a text holds a line feed. -/
theorem feed_not_mem_of_mem_lines {text line : String} (h : line ∈ lines text) :
    '\n' ∉ line.toList := by
  obtain ⟨l, hl, rfl⟩ := List.mem_map.mp h
  obtain ⟨piece, hpiece, hall⟩ := exists_piece_of_mem_linesOfPieces hl
  rw [String.toList_ofList]
  exact fun hfeed => not_mem_of_mem_splitAt hpiece (hall _ hfeed)

/-- A line that is ended is the first of the lines of the text. -/
theorem lines_append_cons {l : List Char} (h : Unbroken l) (rest : List Char) :
    lines (String.ofList (l ++ '\n' :: rest)) = String.ofList l :: lines (String.ofList rest) := by
  rw [lines, lines, String.toList_ofList, String.toList_ofList, splitAt_append_sep,
    splitAt_of_not_mem h.feed_not_mem, List.singleton_append,
    linesOfPieces_cons (splitAt_ne_nil _ _), dropReturn_of_getLast? h.getLast?_ne, List.map_cons]

/-- Lines that are ended are the first of the lines of the text. -/
theorem lines_unlines_append {ls : List (List Char)} (h : ∀ l ∈ ls, NoBreak l)
    (rest : List Char) :
    lines (String.ofList (unlines ls ++ rest)) =
      ls.map String.ofList ++ lines (String.ofList rest) := by
  induction ls with
  | nil => rfl
  | cons l ls ih =>
    obtain ⟨hl, hls⟩ := List.forall_mem_cons.mp h
    rw [unlines_cons, List.append_assoc, List.cons_append, lines_append_cons hl.unbroken, ih hls]
    rfl

theorem dropReturn_append {l : List Char} (front : List Char) (h : l ≠ []) :
    dropReturn (front ++ l) = front ++ dropReturn l := by
  induction front with
  | nil => rfl
  | cons c front ih =>
    rw [List.cons_append, dropReturn, ih, List.cons_append]
    rintro _ heq
    exact absurd heq (by simp [h])

section
variable {part : List Char} (hpart : NoBreak part) (hne : part ≠ [])
include hpart

/-- The piece of a text that holds a part of it without a line feed. -/
theorem exists_piece_of_noBreak (before after : List Char) :
    ∃ earlier front back later, splitAt '\n' (before ++ (part ++ after)) =
      earlier ++ (front ++ (part ++ back)) :: later := by
  induction before with
  | nil =>
    obtain ⟨back, later, hafter⟩ := exists_splitAt_eq_cons '\n' after
    have hpieces := splitAt_append_of_not_mem hpart.1 hafter
    exact ⟨[], [], back, later, hpieces⟩
  | cons c before ih =>
    obtain ⟨earlier, front, back, later, hpieces⟩ := ih
    by_cases hc : c = '\n'
    · subst hc
      refine ⟨[] :: earlier, front, back, later, ?_⟩
      rw [List.cons_append, splitAt_cons_sep, hpieces, List.cons_append]
    · cases earlier with
      | nil => exact ⟨[], c :: front, back, later, splitAt_cons_of_ne hc hpieces⟩
      | cons piece earlier =>
        exact ⟨(c :: piece) :: earlier, front, back, later, splitAt_cons_of_ne hc hpieces⟩

include hne

theorem exists_dropReturn_eq (front back : List Char) :
    ∃ kept, dropReturn (front ++ (part ++ back)) = front ++ (part ++ kept) := by
  cases back with
  | nil =>
    refine ⟨[], dropReturn_of_getLast? ?_⟩
    rw [List.append_nil, List.getLast?_append_of_ne_nil _ hne]
    exact hpart.unbroken.getLast?_ne
  | cons c back =>
    refine ⟨dropReturn (c :: back), ?_⟩
    rw [← List.append_assoc, dropReturn_append _ (List.cons_ne_nil c back), List.append_assoc]

/-- What a text begins with, without a line end, is the start of its first line. -/
theorem exists_line_of_start (after : List Char) :
    ∃ back later, lines (String.ofList (part ++ after)) = String.ofList (part ++ back) :: later := by
  obtain ⟨piece, pieces, hafter⟩ := exists_splitAt_eq_cons '\n' after
  rw [lines, String.toList_ofList, splitAt_append_of_not_mem hpart.1 hafter]
  cases pieces with
  | nil => exact ⟨piece, [], by simp [linesOfPieces, hne]⟩
  | cons next pieces =>
    obtain ⟨kept, hkept⟩ := exists_dropReturn_eq hpart hne [] piece
    rw [List.nil_append, List.nil_append] at hkept
    rw [linesOfPieces_cons (List.cons_ne_nil _ _), hkept]
    exact ⟨kept, _, rfl⟩

/-- **A part of a text without line ends stays on one line**, whatever stands around it. -/
theorem exists_line_of_noBreak (before after : List Char) :
    ∃ earlier front back later, lines (String.ofList (before ++ (part ++ after))) =
      earlier ++ String.ofList (front ++ (part ++ back)) :: later := by
  obtain ⟨earlier, front, back, later, hpieces⟩ := exists_piece_of_noBreak hpart before after
  have hlines : ∃ earlier' back' later', linesOfPieces (earlier ++ (front ++ (part ++ back)) :: later) =
      earlier' ++ (front ++ (part ++ back')) :: later' := by
    clear hpieces
    induction earlier with
    | nil =>
      cases later with
      | nil => exact ⟨[], back, [], by simp [linesOfPieces, hne]⟩
      | cons piece later =>
        obtain ⟨kept, hkept⟩ := exists_dropReturn_eq hpart hne front back
        refine ⟨[], kept, linesOfPieces (piece :: later), ?_⟩
        rw [List.nil_append, linesOfPieces_cons (List.cons_ne_nil _ _), hkept, List.nil_append]
    | cons piece earlier ih =>
      obtain ⟨earlier', back', later', hrest⟩ := ih
      refine ⟨dropReturn piece :: earlier', back', later', ?_⟩
      rw [List.cons_append, linesOfPieces_cons (by simp), hrest, List.cons_append]
  obtain ⟨earlier', back', later', hlines⟩ := hlines
  refine ⟨earlier'.map String.ofList, front, back', later'.map String.ofList, ?_⟩
  rw [lines, String.toList_ofList, hpieces, hlines, List.map_append, List.map_cons]

end
end Text
end MessageDump
