import MessageDump.Proofs.Name.Legality
import MessageDump.Routine.Block
import Mathlib
/-! # Camel and Pascal case by segments

Camel case is made in one pass over a name that remembers whether an underscore
was just dropped; Pascal case is put together from the segments between the
underscores.  Said by segments, camel case keeps the first of them and puts the
first characters of the others in upper case, so that nothing is left to drop
(`Name.toList_camel`, `Name.camel_camel`).  On ASCII names the two differ in the
first character only (`Name.toList_pascal_eq_upperFirst`), so that the camel case
of a name fixes its Pascal case.  Beyond ASCII they do not: only Pascal case knows
the capitals of other alphabets.
-/
namespace MessageDump
namespace Name

variable {name other : String} {c : Char} {cs : List Char}

/-! ## Camel case -/

/-- Segments in camel case: the first as it is, the others with their first
characters in upper case. -/
def joinCamel : List (List Char) → List Char
  | [] => []
  | first :: others => first ++ others.flatMap upperFirst

/-- **The scan for underscores is the conversion by segments.** -/
theorem toList_camel (name : String) :
    (camel name).toList = joinCamel (name.toList.splitOn '_') := by
  obtain ⟨first, others, hcut⟩ := Text.exists_splitAt_eq_cons '_' name.toList
  rw [camel, String.toList_ofList, camelChars_eq_of_splitAt hcut, ← Text.splitAt_eq_splitOn, hcut]
  rfl

theorem underscore_not_mem_camelChars {afterUnderscore : Bool} :
    '_' ∉ camelChars afterUnderscore cs := by
  intro hmem
  obtain ⟨d, -, hne, heq | heq⟩ := exists_of_mem_camelChars hmem
  · exact hne heq.symm
  · exact toUpper_ne_underscore hne heq.symm

theorem underscore_not_mem_camel (name : String) : '_' ∉ (camel name).toList := by
  rw [camel, String.toList_ofList]
  exact underscore_not_mem_camelChars

/-- A name without underscores is one segment. -/
theorem camel_of_not_mem (h : '_' ∉ name.toList) : camel name = name := by
  rw [← String.toList_inj, camel, String.toList_ofList,
    camelChars_eq_of_splitAt (Text.splitAt_of_not_mem h)]
  exact List.append_nil _

theorem camel_camel (name : String) : camel (camel name) = camel name :=
  camel_of_not_mem (underscore_not_mem_camel name)

/-! ## Pascal case -/

theorem upperFirst_upperFirst (cs : List Char) : upperFirst (upperFirst cs) = upperFirst cs := by
  cases cs with
  | nil => rfl
  | cons c rest => rw [upperFirst, upperFirst, Char.toUpper_toUpper_eq_toUpper]

/-- An underscore in front has no effect but on the first character. -/
theorem camelChars_true_eq_upperFirst (cs : List Char) :
    camelChars true cs = upperFirst (camelChars false cs) := by
  induction cs with
  | nil => rfl
  | cons c rest ih =>
    by_cases hc : c = '_'
    · -- behind the underscore both go on as if one had been dropped
      rw [camelChars, if_pos hc, camelChars, if_pos hc, ih, upperFirst_upperFirst]
    · rw [camelChars_true_cons hc, camelChars, if_neg hc]
      rfl

theorem toNat_toUpper_lt (h : c.toNat < 0x80) : c.toUpper.toNat < 0x80 := by
  by_cases hlower : c.isLower = true
  · have halpha := (Char.isAlpha_toUpper_eq_isAlpha c).trans (isAlpha_of_isLower hlower)
    exact toNat_lt_of_isPart (isPart_of_isAlpha halpha)
  · rwa [Char.toUpper_eq_of_not_isLower hlower]

theorem toNat_lt_of_mem_camelChars {afterUnderscore : Bool} (h : ∀ c ∈ cs, c.toNat < 0x80) :
    ∀ c ∈ camelChars afterUnderscore cs, c.toNat < 0x80 := by
  intro c hc
  obtain ⟨d, hd, -, rfl | rfl⟩ := exists_of_mem_camelChars hc
  · exact h c hd
  · exact toNat_toUpper_lt (h d hd)

/-- **On ASCII names, Pascal case is camel case with the first character in upper
case.** -/
theorem toList_pascal_eq_upperFirst (h : ∀ c ∈ name.toList, c.toNat < 0x80) :
    (pascal name).toList = upperFirst (camel name).toList := by
  rw [pascal, String.toList_ofList, pascalChars_eq_camelChars h, camelChars_true_eq_upperFirst,
    camel, String.toList_ofList]

theorem toNat_lt_of_mem_camel (h : ∀ c ∈ name.toList, c.toNat < 0x80) :
    ∀ c ∈ (camel name).toList, c.toNat < 0x80 := by
  rw [camel, String.toList_ofList]
  exact toNat_lt_of_mem_camelChars h

theorem pascal_camel (h : ∀ c ∈ name.toList, c.toNat < 0x80) :
    pascal (camel name) = pascal name := by
  rw [← String.toList_inj, toList_pascal_eq_upperFirst (toNat_lt_of_mem_camel h), camel_camel,
    toList_pascal_eq_upperFirst h]

/-- The camel case of an ASCII name fixes its Pascal case. -/
theorem pascal_eq_of_camel_eq (h : ∀ c ∈ name.toList, c.toNat < 0x80)
    (h' : ∀ c ∈ other.toList, c.toNat < 0x80) (heq : camel name = camel other) :
    pascal name = pascal other := by
  rw [← pascal_camel h, heq, pascal_camel h']

/-- A name in Pascal case stays as it is. -/
theorem pascal_pascal (h : ∀ c ∈ name.toList, c.toNat < 0x80) :
    pascal (pascal name) = pascal name := by
  have hchars : (pascal name).toList = camelChars true name.toList := by
    rw [pascal, String.toList_ofList, pascalChars_eq_camelChars h]
  have hplain : '_' ∉ (pascal name).toList := hchars ▸ underscore_not_mem_camelChars
  have hascii : ∀ c ∈ (pascal name).toList, c.toNat < 0x80 :=
    hchars ▸ toNat_lt_of_mem_camelChars h
  rw [← String.toList_inj, toList_pascal_eq_upperFirst hascii, camel_of_not_mem hplain,
    toList_pascal_eq_upperFirst h, upperFirst_upperFirst]

end Name

/-- **Camel case by segments, and what it says of Pascal case.**  Camel case is the
conversion by segments, it holds no underscore and stays as it is.  The Pascal case
of an ASCII name is its camel case with the first character in upper case, and also
the Pascal case of its camel case; so fields with one derived JSON name are given
one variant. -/
theorem Name.camel_by_segments :
    (∀ name : String, (camel name).toList = joinCamel (name.toList.splitOn '_') ∧
      '_' ∉ (camel name).toList ∧ camel (camel name) = camel name) ∧
    (∀ name : String, (∀ c ∈ name.toList, c.toNat < 0x80) →
      (pascal name).toList = upperFirst (camel name).toList ∧
      pascal (camel name) = pascal name) ∧
    ∀ a b : Field, (∀ c ∈ a.name.toList, c.toNat < 0x80) →
      (∀ c ∈ b.name.toList, c.toNat < 0x80) → camel a.name = camel b.name →
      a.variant = b.variant := by
  refine ⟨fun name => ?_, fun name hascii => ?_, fun a b ha hb heq => ?_⟩
  · exact ⟨toList_camel name, underscore_not_mem_camel name, camel_camel name⟩
  · exact ⟨toList_pascal_eq_upperFirst hascii, pascal_camel hascii⟩
  · exact pascal_eq_of_camel_eq ha hb heq

/-- Only Pascal case knows a capital of `é`. -/
example : Name.camel "état_major" = "étatMajor" ∧ Name.pascal "état_major" = "ÉtatMajor" := by decide

namespace Sample

/-- Two fields that differ in their underscores only. -/
def pageSize : Field := Field.ofName "page_2_size" (.scalar .int32)

def spacedPageSize : Field := Field.ofName "page__2_size_" (.scalar .int32)

end Sample

/-- The camel case of `_page__2` comes from its segments; both page sizes are one
variant. -/
theorem Sample.page_sizes_convert :
    (Name.camel "_page__2").toList = Name.joinCamel [[], ['p', 'a', 'g', 'e'], [], ['2']] ∧
    Name.camel "Page2" = "Page2" ∧
    (∀ c ∈ pageSize.name.toList, c.toNat < 0x80) ∧
    (∀ c ∈ spacedPageSize.name.toList, c.toNat < 0x80) ∧
    Name.camel pageSize.name = Name.camel spacedPageSize.name ∧
    Name.pascal "page2Size" = Name.pascal "page_2_size" ∧
    pageSize.variant = spacedPageSize.variant := by
  obtain ⟨hcamel, hpascal, hvariant⟩ := Name.camel_by_segments
  have hascii : ∀ c ∈ pageSize.name.toList, c.toNat < 0x80 := Name.toNat_lt_of_mem (by decide)
  have hascii' : ∀ c ∈ spacedPageSize.name.toList, c.toNat < 0x80 :=
    Name.toNat_lt_of_mem (by decide)
  have heq : Name.camel pageSize.name = Name.camel spacedPageSize.name := by decide
  exact ⟨(hcamel "_page__2").1, (hcamel "_page__2").2.2, hascii, hascii', heq,
    (hpascal pageSize.name hascii).2, hvariant pageSize spacedPageSize hascii hascii' heq⟩

end MessageDump
