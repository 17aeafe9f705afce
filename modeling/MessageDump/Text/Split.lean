/-! # Cutting a text into pieces

A text is cut at every occurrence of a separator, so that the pieces joined by
the separator are the text again and no piece holds one.  Lines are the special
case of the line feed, with two conventions on top: a carriage return right
before a line feed belongs to the line end, and a text that ends in a line feed
has no further, empty line.

What counts as white space, and which texts are blank, is told here as well.
-/
namespace MessageDump
namespace Text

/-- The Unicode property White_Space. -/
def isBlank (c : Char) : Bool :=
  (0x9 ≤ c.toNat && c.toNat ≤ 0xD) || c.toNat = 0x20 || c.toNat = 0x85 || c.toNat = 0xA0 ||
    c.toNat = 0x1680 || (0x2000 ≤ c.toNat && c.toNat ≤ 0x200A) || c.toNat = 0x2028 ||
    c.toNat = 0x2029 || c.toNat = 0x202F || c.toNat = 0x205F || c.toNat = 0x3000

/-- Whether a text is empty or holds white space only. -/
def allBlank (text : String) : Bool :=
  text.toList.all isBlank

/-- The pieces of a text between the occurrences of a separator.  There is
always at least one piece. -/
def splitAt (sep : Char) : List Char → List (List Char)
  | [] => [[]]
  | c :: rest =>
    if c = sep then
      [] :: splitAt sep rest
    else
      match splitAt sep rest with
      | [] => [[c]]
      | piece :: pieces => (c :: piece) :: pieces

/-- A text without the one carriage return it may end in. -/
def dropReturn : List Char → List Char
  | [] => []
  | ['\r'] => []
  | c :: rest => c :: dropReturn rest

/-- The lines that the pieces between line feeds stand for: all but the last
piece were ended by a line feed, and the last is a line only if it is not empty. -/
def linesOfPieces : List (List Char) → List (List Char)
  | [] => []
  | [last] => if last = [] then [] else [last]
  | piece :: pieces => dropReturn piece :: linesOfPieces pieces

/-- The lines of a text, without their ends. -/
def lines (text : String) : List String :=
  (linesOfPieces (splitAt '\n' text.toList)).map String.ofList

theorem splitAt_ne_nil (sep : Char) (cs : List Char) : splitAt sep cs ≠ [] := by
  cases cs with
  | nil => simp [splitAt]
  | cons c rest =>
    unfold splitAt
    split
    · simp
    · split <;> simp

@[simp] theorem splitAt_nil (sep : Char) : splitAt sep [] = [[]] := rfl

theorem splitAt_cons_sep (sep : Char) (cs : List Char) :
    splitAt sep (sep :: cs) = [] :: splitAt sep cs := by
  simp [splitAt]

/-- Joining the pieces by the separator gives the text back. -/
theorem intercalate_splitAt (sep : Char) (cs : List Char) :
    [sep].intercalate (splitAt sep cs) = cs := by
  induction cs with
  | nil => rfl
  | cons c rest ih =>
    unfold splitAt
    rcases h : splitAt sep rest with _ | ⟨piece, pieces⟩
    · exact absurd h (splitAt_ne_nil sep rest)
    · rw [h] at ih
      split
      · next hc => subst hc; rw [← ih]; simp [List.intercalate]
      · rw [← ih]
        cases pieces <;> simp [List.intercalate]

/-- No piece holds the separator. -/
theorem not_mem_of_mem_splitAt {sep : Char} {cs piece : List Char}
    (h : piece ∈ splitAt sep cs) : sep ∉ piece := by
  induction cs generalizing piece with
  | nil => simp_all
  | cons c rest ih =>
    unfold splitAt at h
    split at h
    · rcases List.mem_cons.mp h with rfl | h
      · simp
      · exact ih h
    · next hc =>
      split at h
      · next hnil => exact absurd hnil (splitAt_ne_nil sep rest)
      · next p ps hps =>
        rcases List.mem_cons.mp h with rfl | h
        · have hp : sep ∉ p := ih (by simp [hps])
          simp only [List.mem_cons, not_or]
          exact ⟨fun he => hc he.symm, hp⟩
        · exact ih (by simp [hps, h])

end Text
end MessageDump
