import MessageDump.Name.Identifier
import Mathlib
/-! # Identifiers and their escaped form

An identifier consists of ASCII letters, digits and underscores, so that it can
be told apart from the separators that the generated source puts around it, and
from the mark of a raw name.  Escaping keeps two identifiers apart with one
exception: a reserved word takes an underscore behind, and so meets the
identifier that already has it (`Name.escaped_eq_escaped_iff`).
-/
namespace MessageDump
namespace Name

variable {name other : String} {c : Char}

/-! ## The characters of an identifier -/

theorem toNat_lt_of_isPart (h : isPart c = true) : c.toNat < 0x80 := by
  simp only [isPart, Char.isAlphanum, Char.isAlpha, Char.isUpper, Char.isLower, Char.isDigit,
    Bool.or_eq_true, Bool.and_eq_true, decide_eq_true_eq, UInt32.le_iff_toNat_le, ge_iff_le] at h
  rcases h with h | rfl
  · change ((65 ≤ c.toNat ∧ c.toNat ≤ 90) ∨ (97 ≤ c.toNat ∧ c.toNat ≤ 122)) ∨
      (48 ≤ c.toNat ∧ c.toNat ≤ 57) at h
    omega
  · decide

theorem isPart_of_isStart (h : isStart c = true) : isPart c = true := by
  simp only [isStart, isPart, Char.isAlphanum, Bool.or_eq_true] at h ⊢
  exact h.imp_left Or.inl

theorem isPart_of_mem (h : isIdentifier name = true) (hc : c ∈ name.toList) : isPart c = true := by
  unfold isIdentifier at h
  cases hcs : name.toList with
  | nil => rw [hcs] at hc; cases hc
  | cons first rest =>
    rw [hcs] at h hc
    simp only [identifierChars, Bool.and_eq_true, List.all_eq_true] at h
    rcases List.mem_cons.mp hc with rfl | hc
    · exact isPart_of_isStart h.1.1
    · exact h.2 c hc

/-- Identifiers are ASCII. -/
theorem toNat_lt_of_mem (h : isIdentifier name = true) : ∀ c ∈ name.toList, c.toNat < 0x80 :=
  fun _ hc => toNat_lt_of_isPart (isPart_of_mem h hc)

/-- A character that no identifier may hold is a separator between identifiers. -/
theorem not_mem_of_isIdentifier (h : isIdentifier name = true) (hc : isPart c = false) :
    c ∉ name.toList := by
  intro hmem
  rw [isPart_of_mem h hmem] at hc
  cases hc

/-! ## Escaping -/

theorem escaped_of_reserved (h : name ∈ reservedWords) : escaped name = name ++ "_" := by
  rw [escaped, if_pos (List.contains_iff_mem.mpr h)]

theorem escaped_of_keyword (hreserved : name ∉ reservedWords) (h : name ∈ keywords) :
    escaped name = "r#" ++ name := by
  rw [escaped, if_neg (by simpa using hreserved), if_pos (List.contains_iff_mem.mpr h)]

theorem escaped_of_plain (hreserved : name ∉ reservedWords) (hkeyword : name ∉ keywords) :
    escaped name = name := by
  rw [escaped, if_neg (by simpa using hreserved), if_neg (by simpa using hkeyword)]

/-- The identifiers that a reserved word is escaped to are plain ones. -/
theorem plain_of_reserved (h : name ∈ reservedWords) :
    name ++ "_" ∉ reservedWords ∧ name ++ "_" ∉ keywords := by
  simp only [reservedWords, List.mem_cons, List.not_mem_nil, or_false] at h
  rcases h with rfl | rfl | rfl | rfl <;> decide

/-- A raw name is none of the other escaped forms, which have no mark. -/
theorem raw_ne_of_not_mem (h : '#' ∉ other.toList) : "r#" ++ name ≠ other := by
  rintro rfl
  simp at h

theorem mark_not_mem (h : isIdentifier name = true) : '#' ∉ name.toList :=
  not_mem_of_isIdentifier h (by decide)

theorem mark_not_mem_append_underscore (h : isIdentifier name = true) :
    '#' ∉ (name ++ "_").toList := by
  simpa using mark_not_mem h

/-- A reserved word and an identifier that is none meet only in the identifier that
is the word with an underscore behind. -/
theorem escaped_reserved_eq_iff (hname : isIdentifier name = true) (h : name ∈ reservedWords)
    (hother : other ∉ reservedWords) : escaped name = escaped other ↔ other = name ++ "_" := by
  rw [escaped_of_reserved h]
  by_cases hkeyword : other ∈ keywords
  · rw [escaped_of_keyword hother hkeyword]
    constructor
    · intro heq
      exact absurd heq.symm (raw_ne_of_not_mem (mark_not_mem_append_underscore hname))
    · rintro rfl
      exact absurd hkeyword (plain_of_reserved h).2
  · rw [escaped_of_plain hother hkeyword, eq_comm]

/-- Identifiers that are no reserved words are kept apart. -/
theorem eq_of_escaped_eq (hname : isIdentifier name = true) (hother : isIdentifier other = true)
    (h : name ∉ reservedWords) (h' : other ∉ reservedWords) (heq : escaped name = escaped other) :
    name = other := by
  by_cases hkey : name ∈ keywords <;> by_cases hkey' : other ∈ keywords
  · rw [escaped_of_keyword h hkey, escaped_of_keyword h' hkey'] at heq
    exact (String.append_right_inj _).mp heq
  · rw [escaped_of_keyword h hkey, escaped_of_plain h' hkey'] at heq
    exact absurd heq (raw_ne_of_not_mem (mark_not_mem hother))
  · rw [escaped_of_plain h hkey, escaped_of_keyword h' hkey'] at heq
    exact absurd heq.symm (raw_ne_of_not_mem (mark_not_mem hname))
  · rwa [escaped_of_plain h hkey, escaped_of_plain h' hkey'] at heq

/-- **Escaping keeps identifiers apart, but for a reserved word and the same word
with an underscore behind.** -/
theorem escaped_eq_escaped_iff (hname : isIdentifier name = true)
    (hother : isIdentifier other = true) :
    escaped name = escaped other ↔
      name = other ∨ (name ∈ reservedWords ∧ other = name ++ "_") ∨
      (other ∈ reservedWords ∧ name = other ++ "_") := by
  by_cases h : name ∈ reservedWords <;> by_cases h' : other ∈ reservedWords
  · have hne : ∀ {a b : String}, a ∈ reservedWords → b ∈ reservedWords → b ≠ a ++ "_" :=
      fun ha hb heq => (plain_of_reserved ha).1 (heq ▸ hb)
    rw [escaped_of_reserved h, escaped_of_reserved h', String.append_left_inj]
    simp [hne h h', hne h' h]
  · rw [escaped_reserved_eq_iff hname h h']
    have hne : name ≠ other := fun heq => h' (heq ▸ h)
    simp [h, h', hne]
  · rw [eq_comm, escaped_reserved_eq_iff hother h' h]
    have hne : name ≠ other := fun heq => h (heq ▸ h')
    simp [h, h', hne]
  · simp only [h, h', false_and, or_false]
    exact ⟨eq_of_escaped_eq hname hother h h', congrArg escaped⟩

/-- Escaping puts nothing but underscores and the mark of raw names beside the
characters of a name. -/
theorem mem_of_mem_escaped (h : c ∈ (escaped name).toList) :
    c ∈ name.toList ∨ c = '_' ∨ c = 'r' ∨ c = '#' := by
  unfold escaped at h
  split at h
  · simp at h
    tauto
  · split at h
    · simp at h
      tauto
    · exact Or.inl h

/-- A separator stays one when names are escaped, but for the mark of raw names. -/
theorem not_mem_escaped (h : isIdentifier name = true) (hc : isPart c = false) (hmark : c ≠ '#') :
    c ∉ (escaped name).toList := by
  intro hmem
  rcases mem_of_mem_escaped hmem with hmem | rfl | rfl | rfl
  · exact not_mem_of_isIdentifier h hc hmem
  · exact absurd hc (by decide)
  · exact absurd hc (by decide)
  · exact hmark rfl

end Name
end MessageDump
