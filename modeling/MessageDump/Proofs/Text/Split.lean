import MessageDump.Text.Split
import Mathlib.Data.List.Basic
/-! # Putting pieces together

A separator between two texts is a cut of the whole, and the pieces of the whole
are those of the one followed by those of the other.  Cutting undoes joining as long
as no piece holds a separator (`Text.splitAt_intercalate`); in particular a text with
a first piece that holds none can be taken apart in one way only
(`Text.append_sep_inj`).
-/
namespace MessageDump
namespace Text

variable {sep c : Char} {cs piece : List Char} {pieces : List (List Char)}

theorem exists_splitAt_eq_cons (sep : Char) (cs : List Char) :
    ∃ piece pieces, splitAt sep cs = piece :: pieces :=
  List.exists_cons_of_ne_nil (splitAt_ne_nil sep cs)

/-- A character that is no separator joins the first piece of what follows. -/
theorem splitAt_cons_of_ne (hc : c ≠ sep) (h : splitAt sep cs = piece :: pieces) :
    splitAt sep (c :: cs) = (c :: piece) :: pieces := by
  rw [splitAt, if_neg hc, h]

theorem splitAt_of_not_mem (h : sep ∉ cs) : splitAt sep cs = [cs] := by
  induction cs with
  | nil => rfl
  | cons c rest ih =>
    rw [List.mem_cons, not_or] at h
    exact splitAt_cons_of_ne (Ne.symm h.1) (ih h.2)

/-- A start without a separator joins the first piece of what follows. -/
theorem splitAt_append_of_not_mem {front : List Char} (h : sep ∉ front)
    (hcs : splitAt sep cs = piece :: pieces) :
    splitAt sep (front ++ cs) = (front ++ piece) :: pieces := by
  induction front with
  | nil => exact hcs
  | cons c front ih =>
    rw [List.mem_cons, not_or] at h
    exact splitAt_cons_of_ne (Ne.symm h.1) (ih h.2)

/-- A separator stands before every piece but the first. -/
theorem intercalate_cons (sep : Char) (piece : List Char) (pieces : List (List Char)) :
    [sep].intercalate (piece :: pieces) = piece ++ pieces.flatMap (sep :: ·) := by
  induction pieces generalizing piece with
  | nil => simp
  | cons next pieces ih =>
    rw [List.intercalate_cons_cons, ih, List.flatMap_cons, List.append_assoc]
    rfl

/-- The pieces are the segments of the text as a list. -/
theorem splitAt_eq_splitOn (sep : Char) (cs : List Char) : splitAt sep cs = cs.splitOn sep := by
  have hpieces : ∀ piece ∈ splitAt sep cs, sep ∉ piece := fun _ => not_mem_of_mem_splitAt
  have h := List.splitOn_intercalate sep hpieces (splitAt_ne_nil sep cs)
  rw [intercalate_splitAt] at h
  exact h.symm

/-- Cutting undoes joining. -/
theorem splitAt_intercalate (h : ∀ piece ∈ pieces, sep ∉ piece) (hne : pieces ≠ []) :
    splitAt sep ([sep].intercalate pieces) = pieces := by
  rw [splitAt_eq_splitOn, List.splitOn_intercalate sep h hne]

theorem splitAt_append_sep (a b : List Char) :
    splitAt sep (a ++ sep :: b) = splitAt sep a ++ splitAt sep b := by
  induction a with
  | nil => exact splitAt_cons_sep sep b
  | cons c a ih =>
    by_cases hc : c = sep
    · subst hc
      rw [List.cons_append, splitAt_cons_sep, splitAt_cons_sep, ih, List.cons_append]
    · obtain ⟨piece, pieces, h⟩ := exists_splitAt_eq_cons sep a
      rw [h, List.cons_append] at ih
      rw [List.cons_append, splitAt_cons_of_ne hc ih, splitAt_cons_of_ne hc h, List.cons_append]

/-- The pieces hold no characters but those of the whole. -/
theorem mem_of_mem_splitAt (hpiece : piece ∈ splitAt sep cs) (hc : c ∈ piece) : c ∈ cs := by
  induction cs generalizing piece with
  | nil =>
    rw [splitAt_nil, List.mem_singleton] at hpiece
    rwa [hpiece] at hc
  | cons first rest ih =>
    by_cases hsep : first = sep
    · subst hsep
      rw [splitAt_cons_sep] at hpiece
      rcases List.mem_cons.mp hpiece with rfl | hpiece
      · cases hc
      · exact List.mem_cons_of_mem _ (ih hpiece hc)
    · obtain ⟨p, ps, hrest⟩ := exists_splitAt_eq_cons sep rest
      rw [splitAt_cons_of_ne hsep hrest] at hpiece
      rcases List.mem_cons.mp hpiece with rfl | hpiece
      · rcases List.mem_cons.mp hc with rfl | hc
        · exact List.mem_cons_self
        · exact List.mem_cons_of_mem _ (ih (hrest ▸ List.mem_cons_self) hc)
      · exact List.mem_cons_of_mem _ (ih (hrest ▸ List.mem_cons_of_mem _ hpiece) hc)

/-- **What precedes the first separator, and what follows it, are determined by the
whole.** -/
theorem append_sep_inj {a a' b b' : List Char} (h : sep ∉ a) (h' : sep ∉ a') :
    a ++ sep :: b = a' ++ sep :: b' ↔ a = a' ∧ b = b' := by
  constructor
  · intro heq
    have hpieces := congrArg (splitAt sep) heq
    rw [splitAt_append_sep, splitAt_append_sep, splitAt_of_not_mem h, splitAt_of_not_mem h',
      List.singleton_append, List.singleton_append] at hpieces
    obtain rfl := (List.cons.inj hpieces).1
    exact ⟨rfl, (List.cons.inj (List.append_cancel_left heq)).2⟩
  · rintro ⟨rfl, rfl⟩
    rfl

end Text
end MessageDump
