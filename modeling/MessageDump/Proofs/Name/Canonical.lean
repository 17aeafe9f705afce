import MessageDump.Generation
import MessageDump.Proofs.Name.Segments
import Mathlib
/-! # Canonical names

A word is a capital with lower-case letters or digits behind it.  A list of words
makes a name in each of two conventions: one word behind the other, or all in lower
case with underscores between them.  The conversions lead from each of these names
to the other (`Name.snake_pascalOf`, `Name.pascal_snakeOf`): since a word is more
than its capital, no two capitals meet, and snake case starts a word at each capital
but the first.  So canonical names can be told from what is made of them
(`Name.canonical_names_convert`).
-/
namespace MessageDump
namespace Name

/-- A word of a canonical name. -/
structure Word where
  /-- The capital that the word begins with. -/
  capital : Char
  /-- What follows the capital. -/
  tail : List Char
  isUpper_capital : capital.isUpper = true
  tail_ne_nil : tail ≠ []
  isLower_or_isDigit_of_mem_tail : ∀ c ∈ tail, (c.isLower || c.isDigit) = true

variable {words others : List Word} {c : Char}

namespace Word
variable (word : Word)

/-- The characters of a word. -/
def chars : List Char := word.capital :: word.tail

/-- The word in lower case. -/
def lower : List Char := word.chars.map Char.toLower

/-- The last character of a word. -/
def last : Char := word.tail.getLast word.tail_ne_nil

theorem isLower_or_isDigit_last : (word.last.isLower || word.last.isDigit) = true :=
  word.isLower_or_isDigit_of_mem_tail _ (List.getLast_mem _)

theorem isUpper_of_mem_tail (hc : c ∈ word.tail) : c.isUpper = false := by
  rcases Bool.or_eq_true_iff.mp (word.isLower_or_isDigit_of_mem_tail c hc) with h | h
  · exact Bool.eq_false_of_not_eq_true (Char.not_isUpper_of_isLower h)
  · exact Bool.eq_false_of_not_eq_true (not_isUpper_of_isDigit h)

theorem isPart_of_mem_chars (hc : c ∈ word.chars) : isPart c = true := by
  rcases List.mem_cons.mp hc with rfl | hc
  · exact isPart_of_isAlpha (isAlpha_of_isUpper word.isUpper_capital)
  · rcases Bool.or_eq_true_iff.mp (word.isLower_or_isDigit_of_mem_tail c hc) with h | h
    · exact isPart_of_isAlpha (isAlpha_of_isLower h)
    · simp [isPart, Char.isAlphanum, h]

/-- Only the capital of a word is no lower case. -/
theorem lower_eq : word.lower = word.capital.toLower :: word.tail := by
  have htail : word.tail.map Char.toLower = word.tail.map id :=
    List.map_congr_left fun c hc =>
      Char.toLower_eq_of_not_isUpper (by simp [word.isUpper_of_mem_tail hc])
  rw [lower, chars, List.map_cons, htail, List.map_id]

theorem underscore_not_mem_lower : '_' ∉ word.lower := by
  rw [lower_eq, List.mem_cons, not_or]
  refine ⟨(toLower_ne_underscore word.isUpper_capital).symm, fun hmem => ?_⟩
  exact absurd (word.isLower_or_isDigit_of_mem_tail '_' hmem) (by decide)

/-- A word in lower case, capitalized, is the word. -/
theorem capitalized_lower : capitalized word.lower = word.chars := by
  have hascii : word.capital.toLower.toNat < 0x80 :=
    toNat_lt_of_isPart (isPart_toLower (word.isPart_of_mem_chars List.mem_cons_self))
  rw [lower_eq, capitalized, Text.uppercase_of_ascii hascii, toUpper_toLower word.isUpper_capital]
  rfl

/-- Behind its capital, snake case leaves a word as it is. -/
theorem snakeChars_tail_append (rest : List Char) :
    snakeChars (some word.capital) (word.tail ++ rest) =
      word.tail ++ snakeChars (some word.last) rest := by
  rw [snakeChars_append fun c => word.isUpper_of_mem_tail,
    List.getLast?_eq_some_getLast word.tail_ne_nil]
  rfl

end Word

/-! ## The names that words make -/

/-- The name of words in Pascal case, one behind the other. -/
def pascalOf (words : List Word) : String := String.ofList (words.flatMap Word.chars)

/-- The name of words in snake case, in lower case with underscores between them. -/
def snakeOf (words : List Word) : String :=
  String.ofList (['_'].intercalate (words.map Word.lower))

/-- Behind the end of a word, snake case puts an underscore before every word. -/
theorem snakeChars_flatMap_chars {p : Char} (hp : (p.isLower || p.isDigit) = true)
    (words : List Word) :
    snakeChars (some p) (words.flatMap Word.chars) =
      (words.map Word.lower).flatMap ('_' :: ·) := by
  induction words generalizing p with
  | nil => rfl
  | cons word words ih =>
    -- `p` ends the word before and is no capital, so that what follows does not matter
    have hstarts (after : Option Char) : startsWord (some p) after = true := by
      rw [startsWord, if_pos hp]
    rw [List.flatMap_cons, Word.chars, List.cons_append, snakeChars,
      if_pos word.isUpper_capital, if_pos (hstarts _), word.snakeChars_tail_append,
      ih word.isLower_or_isDigit_last, List.map_cons, List.flatMap_cons, word.lower_eq]
    rfl

/-- **Snake case takes the words of a name in Pascal case apart.** -/
theorem snake_pascalOf (words : List Word) : snake (pascalOf words) = snakeOf words := by
  rw [snake, pascalOf, String.toList_ofList, snakeOf]
  congr 1
  cases words with
  | nil => rfl
  | cons word words =>
    rw [List.flatMap_cons, Word.chars, List.cons_append, snakeChars_none_cons,
      word.snakeChars_tail_append, snakeChars_flatMap_chars word.isLower_or_isDigit_last,
      List.map_cons, Text.intercalate_cons, word.lower_eq]
    rfl

/-- **Pascal case puts the words of a name in snake case together.** -/
theorem pascal_snakeOf (hne : words ≠ []) : pascal (snakeOf words) = pascalOf words := by
  have hplain : ∀ piece ∈ words.map Word.lower, '_' ∉ piece :=
    List.forall_mem_map.mpr fun word _ => word.underscore_not_mem_lower
  rw [pascal, snakeOf, String.toList_ofList, pascalChars,
    Text.splitAt_intercalate hplain (by simpa using hne), List.flatMap_map, pascalOf]
  congr 2
  exact funext Word.capitalized_lower

theorem isIdentifier_pascalOf (hne : words ≠ []) : isIdentifier (pascalOf words) = true := by
  have hpart : ∀ c ∈ words.flatMap Word.chars, isPart c = true := by
    intro c hc
    obtain ⟨word, -, hc⟩ := List.mem_flatMap.mp hc
    exact word.isPart_of_mem_chars hc
  rw [isIdentifier, pascalOf, String.toList_ofList]
  cases words with
  | nil => exact absurd rfl hne
  | cons word words =>
    have hstart : isStart word.capital = true := by
      simp [isStart, isAlpha_of_isUpper word.isUpper_capital]
    have hcapital : word.capital ≠ '_' := by
      intro heq
      exact absurd (heq ▸ word.isUpper_capital) (by decide)
    rw [List.flatMap_cons, Word.chars, List.cons_append] at hpart ⊢
    have hrest : (word.tail ++ words.flatMap Word.chars).all isPart = true :=
      List.all_eq_true.mpr fun c hc => hpart c (List.mem_cons_of_mem _ hc)
    simp [identifierChars, hstart, hcapital, hrest]

/-! ## Conventions -/

/-- How words are written as one name. -/
inductive Convention where
  | pascal
  | snake

namespace Convention
variable {convention : Convention}

/-- The name of words in a convention. -/
def write : Convention → List Word → String
  | pascal => pascalOf
  | snake => snakeOf

/-- A name is canonical in a convention if it consists of words. -/
def IsCanonical (convention : Convention) (name : String) : Prop :=
  ∃ words : List Word, words ≠ [] ∧ name = convention.write words

/-- Snake case only depends on the words. -/
theorem snake_write (convention : Convention) (words : List Word) :
    Name.snake (convention.write words) = snakeOf words := by
  cases convention with
  | pascal => exact snake_pascalOf words
  | snake => rw [write, ← snake_pascalOf, snake_snake]

/-- Pascal case only depends on the words. -/
theorem pascal_write (convention : Convention) (hne : words ≠ []) :
    Name.pascal (convention.write words) = pascalOf words := by
  cases convention with
  | pascal =>
    have hascii := toNat_lt_of_mem (isIdentifier_snake (isIdentifier_pascalOf hne))
    rw [snake_pascalOf] at hascii
    rw [write, ← pascal_snakeOf hne, pascal_pascal hascii]
  | snake => exact pascal_snakeOf hne

namespace IsCanonical
variable {name other : String}

theorem isIdentifier_snake (h : convention.IsCanonical name) :
    isIdentifier (Name.snake name) = true := by
  obtain ⟨words, hne, rfl⟩ := h
  rw [snake_write, ← snake_pascalOf]
  exact Name.isIdentifier_snake (isIdentifier_pascalOf hne)

/-- Snake case on the way does not change Pascal case. -/
theorem pascal_snake (h : convention.IsCanonical name) :
    Name.pascal (Name.snake name) = Name.pascal name := by
  obtain ⟨words, hne, rfl⟩ := h
  rw [snake_write, pascal_snakeOf hne, pascal_write convention hne]

/-- **Canonical names have different Pascal cases.** -/
theorem eq_of_pascal_eq (h : convention.IsCanonical name) (h' : convention.IsCanonical other)
    (heq : Name.pascal name = Name.pascal other) : name = other := by
  obtain ⟨words, hne, rfl⟩ := h
  obtain ⟨others, hne', rfl⟩ := h'
  rw [pascal_write convention hne, pascal_write convention hne'] at heq
  cases convention with
  | pascal => exact heq
  | snake => rw [write, ← snake_pascalOf, heq, snake_pascalOf]

/-- **Canonical names have different snake cases**, since their Pascal cases can be
told from these. -/
theorem eq_of_snake_eq (h : convention.IsCanonical name) (h' : convention.IsCanonical other)
    (heq : Name.snake name = Name.snake other) : name = other :=
  h.eq_of_pascal_eq h' (by rw [← h.pascal_snake, heq, h'.pascal_snake])

/-- Escaping keeps the snake cases apart: none of them is a reserved word with an
underscore behind. -/
theorem eq_of_escaped_snake_eq (h : convention.IsCanonical name)
    (h' : convention.IsCanonical other)
    (heq : escaped (Name.snake name) = escaped (Name.snake other)) : name = other := by
  have hpascal := pascal_eq_of_escaped_eq h.isIdentifier_snake h'.isIdentifier_snake heq
  rw [h.pascal_snake, h'.pascal_snake] at hpascal
  exact h.eq_of_pascal_eq h' hpascal

end IsCanonical
end Convention
end Name

/-- **On canonical names, snake case and Pascal case undo each other.**  So messages
with canonical names have different files and different modules, and oneofs and
fields with canonical names different enums and different variants, whether these
names are written in Pascal case or in snake case. -/
theorem Name.canonical_names_convert :
    (∀ words : List Word, words ≠ [] →
      snake (pascalOf words) = snakeOf words ∧ pascal (snakeOf words) = pascalOf words) ∧
    ∀ convention : Convention,
      (∀ a b : Message, convention.IsCanonical a.name → convention.IsCanonical b.name →
        (a.fileName = b.fileName → a.name = b.name) ∧
        (escaped (snake a.name) = escaped (snake b.name) → a.name = b.name)) ∧
      (∀ a b : Oneof, convention.IsCanonical a.name → convention.IsCanonical b.name →
        pascal a.name = pascal b.name → a.name = b.name) ∧
      ∀ a b : Field, convention.IsCanonical a.name → convention.IsCanonical b.name →
        a.variant = b.variant → a.name = b.name := by
  refine ⟨fun words hne => ⟨snake_pascalOf words, pascal_snakeOf hne⟩,
    fun convention => ⟨fun a b ha hb => ⟨fun heq => ?_, ?_⟩, fun a b ha hb => ?_, fun a b ha hb => ?_⟩⟩
  · exact ha.eq_of_snake_eq hb ((String.append_left_inj _).mp heq)
  · exact ha.eq_of_escaped_snake_eq hb
  · exact ha.eq_of_pascal_eq hb
  · exact ha.eq_of_pascal_eq hb

namespace Sample

/-- The words of `PhotoAlbum2`. -/
def photoWord : Name.Word where
  capital := 'P'
  tail := ['h', 'o', 't', 'o']
  isUpper_capital := by decide
  tail_ne_nil := by decide
  isLower_or_isDigit_of_mem_tail := by simp

def albumWord : Name.Word where
  capital := 'A'
  tail := ['l', 'b', 'u', 'm', '2']
  isUpper_capital := by decide
  tail_ne_nil := by decide
  isLower_or_isDigit_of_mem_tail := by simp

theorem isCanonical_photo (convention : Name.Convention) :
    convention.IsCanonical (convention.write [photoWord]) :=
  ⟨[photoWord], by simp, rfl⟩

theorem isCanonical_photoAlbum (convention : Name.Convention) :
    convention.IsCanonical (convention.write [photoWord, albumWord]) :=
  ⟨[photoWord, albumWord], by simp, rfl⟩

end Sample

/-- `PhotoAlbum2` and `photo_album2` are made of each other.  The file of an album is
not that of a photo, and neither is the variant. -/
theorem Sample.photo_album_converts :
    [photoWord, albumWord] ≠ [] ∧ Name.snake "PhotoAlbum2" = "photo_album2" ∧
    Name.pascal "photo_album2" = "PhotoAlbum2" ∧
    Name.Convention.pascal.IsCanonical "PhotoAlbum2" ∧ Name.Convention.pascal.IsCanonical "Photo" ∧
    (⟨"PhotoAlbum2", [], []⟩ : Message).fileName ≠ (⟨"Photo", [], []⟩ : Message).fileName ∧
    Name.Convention.snake.IsCanonical "photo_album2" ∧ Name.Convention.snake.IsCanonical "photo" ∧
    (Field.ofName "photo_album2" (.scalar .string)).variant ≠
      (Field.ofName "photo" (.scalar .string)).variant := by
  obtain ⟨hconvert, hinjective⟩ := Name.canonical_names_convert
  have hne : [photoWord, albumWord] ≠ [] := by simp
  obtain ⟨hsnake, hpascal⟩ := hconvert [photoWord, albumWord] hne
  have halbum := isCanonical_photoAlbum
  have hphoto := isCanonical_photo
  obtain ⟨hfile, -⟩ := (hinjective .pascal).1 ⟨"PhotoAlbum2", [], []⟩ ⟨"Photo", [], []⟩
    (halbum .pascal) (hphoto .pascal)
  have hvariant := (hinjective .snake).2.2 (Field.ofName "photo_album2" (.scalar .string))
    (Field.ofName "photo" (.scalar .string)) (halbum .snake) (hphoto .snake)
  exact ⟨hne, hsnake, hpascal, halbum .pascal, hphoto .pascal,
    fun heq => absurd (hfile heq) (by decide), halbum .snake, hphoto .snake,
    fun heq => absurd (hvariant heq) (by decide)⟩

end MessageDump
