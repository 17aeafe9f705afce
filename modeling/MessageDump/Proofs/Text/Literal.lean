import MessageDump.Document.Json
import MessageDump.Proofs.Text.Quoted
/-! # Reading string literals

The generated source holds texts that nothing has checked, between double quotes.
Here is how such a literal is read: from its opening quote to the first quote that is
not escaped, with a backslash and a letter for six characters and a number between
braces for any other.  A literal that was written by quoting a text is read as that
text and ends at its own closing quote, whatever follows it (`readQuoted_quotedChars`).
-/
namespace MessageDump
namespace Text

open Document.Json (hexDigit? prepend)

/-- Where the reader of a literal stands. -/
inductive Reading where
  /-- Between characters. -/
  | plain
  /-- Behind a backslash. -/
  | escape
  /-- Behind a backslash and `u`. -/
  | number
  /-- Between the braces behind them, with the value and the number of the digits so
  far. -/
  | digits (value count : Nat)

/-- The character that a letter behind a backslash stands for. -/
def shortEscape? : Char → Option Char
  | '0' => some '\x00'
  | 't' => some '\t'
  | 'r' => some '\r'
  | 'n' => some '\n'
  | '"' => some '"'
  | '\\' => some '\\'
  | _ => none

/-- Reads a literal from the given place on: the characters up to its closing quote,
and what follows the quote.  A number has one to six hexadecimal digits and is that
of a character; a bare carriage return is no part of a literal. -/
def readFrom : Reading → List Char → Option (List Char × List Char)
  | _, [] => none
  | .plain, c :: rest =>
    if c = '"' then some ([], rest)
    else if c = '\\' then readFrom .escape rest
    else if c = '\r' then none
    else prepend c (readFrom .plain rest)
  | .escape, c :: rest =>
    match shortEscape? c with
    | some d => prepend d (readFrom .plain rest)
    | none => if c = 'u' then readFrom .number rest else none
  | .number, c :: rest => if c = '\x7b' then readFrom (.digits 0 0) rest else none
  | .digits value count, c :: rest =>
    if c = '\x7d' then
      if 0 < count ∧ value.isValidChar then prepend (Char.ofNat value) (readFrom .plain rest)
      else none
    else
      match hexDigit? c with
      | some digit =>
        if count < 6 then readFrom (.digits (16 * value + digit) (count + 1)) rest else none
      | none => none

/-- Reads a literal: the text it stands for, and what follows it. -/
def readQuoted : List Char → Option (List Char × List Char)
  | '"' :: rest => readFrom .plain rest
  | _ => none

variable {c : Char} {cs rest : List Char}

theorem readFrom_plain_of_ne (hquote : c ≠ '"') (hescape : c ≠ '\\') (hreturn : c ≠ '\r') :
    readFrom .plain (c :: rest) = prepend c (readFrom .plain rest) := by
  rw [readFrom, if_neg hquote, if_neg hescape, if_neg hreturn]

theorem readFrom_plain_escape : readFrom .plain ('\\' :: rest) = readFrom .escape rest := rfl

theorem readFrom_shortEscape {d : Char} (h : shortEscape? c = some d) :
    readFrom .plain ('\\' :: c :: rest) = prepend d (readFrom .plain rest) := by
  rw [readFrom_plain_escape, readFrom, h]

/-! ## Numbers -/

theorem hexDigit?_digitChar {digit : Nat} (h : digit < 16) :
    hexDigit? (Nat.digitChar digit) = some digit := by
  have hall : ∀ digit < 16, hexDigit? (Nat.digitChar digit) = some digit := by decide
  exact hall digit h

theorem digitChar_ne_brace {digit : Nat} (h : digit < 16) : Nat.digitChar digit ≠ '\x7d' := by
  have hall : ∀ digit < 16, Nat.digitChar digit ≠ '\x7d' := by decide
  exact hall digit h

theorem readFrom_digits_cons {digit value count : Nat} (h : digit < 16) (hcount : count < 6) :
    readFrom (.digits value count) (Nat.digitChar digit :: rest) =
      readFrom (.digits (16 * value + digit) (count + 1)) rest := by
  rw [readFrom, if_neg (digitChar_ne_brace h), hexDigit?_digitChar h]
  exact if_pos hcount

/-- The digits of a number are read as the number, if there are no more than six. -/
theorem readFrom_hexDigits {n : Nat} (hlength : (hexDigits n).length ≤ 6) :
    readFrom (.digits 0 0) (hexDigits n ++ rest) = readFrom (.digits n (hexDigits n).length) rest := by
  -- the last digit is read last, so what is behind the other digits has to be general
  induction n using Nat.strongRecOn generalizing rest with
  | ind n ih =>
    rw [hexDigits, Nat.toDigits_eq_if (by decide)] at hlength ⊢
    split
    · next hlt =>
      rw [List.singleton_append, readFrom_digits_cons hlt (by decide)]
      simp
    · next hle =>
      rw [if_neg hle, List.length_append, List.length_singleton] at hlength
      have hshort : (hexDigits (n / 16)).length ≤ 6 := by
        rw [hexDigits]
        omega
      have hinit : readFrom (.digits 0 0) (hexDigits (n / 16) ++ Nat.digitChar (n % 16) :: rest) =
        readFrom (.digits (n / 16) (hexDigits (n / 16)).length) (Nat.digitChar (n % 16) :: rest) :=
        ih (n / 16) (by omega) hshort
      rw [hexDigits] at hinit
      rw [List.append_assoc, List.singleton_append, hinit,
        readFrom_digits_cons (Nat.mod_lt _ (by decide)) (by omega), Nat.div_add_mod,
        List.length_append, List.length_singleton]

theorem length_hexDigits_toNat (c : Char) : (hexDigits c.toNat).length ≤ 6 := by
  have hvalid : c.toNat.isValidChar := c.valid
  have hlt : c.toNat < 16 ^ 6 := by
    unfold Nat.isValidChar at hvalid
    omega
  exact (Nat.length_toDigits_le_iff (by decide) (by decide)).mpr hlt

theorem readFrom_numbered :
    readFrom .plain (['\\', 'u', '\x7b'] ++ hexDigits c.toNat ++ ['\x7d'] ++ rest) =
      prepend c (readFrom .plain rest) := by
  have hcount : 0 < (hexDigits c.toNat).length := Nat.length_toDigits_pos
  have hvalid : c.toNat.isValidChar := c.valid
  rw [List.append_assoc, List.append_assoc]
  change readFrom (.digits 0 0) (hexDigits c.toNat ++ '\x7d' :: rest) = _
  rw [readFrom_hexDigits (length_hexDigits_toNat c), readFrom, if_pos rfl, if_pos ⟨hcount, hvalid⟩,
    Char.ofNat_toNat]

/-! ## Texts -/

/-- The escape of a character is read as the character. -/
theorem readFrom_escape (c : Char) (rest : List Char) :
    readFrom .plain (escape c ++ rest) = prepend c (readFrom .plain rest) := by
  unfold escape
  split_ifs with hnull htab hreturn hfeed hquote hslash hhidden
  · rw [hnull]
    exact readFrom_shortEscape rfl
  · rw [htab]
    exact readFrom_shortEscape rfl
  · rw [hreturn]
    exact readFrom_shortEscape rfl
  · rw [hfeed]
    exact readFrom_shortEscape rfl
  · rw [hquote]
    exact readFrom_shortEscape rfl
  · rw [hslash]
    exact readFrom_shortEscape rfl
  · exact readFrom_numbered
  · exact readFrom_plain_of_ne hquote hslash hreturn

theorem readFrom_flatMap_escape (cs rest : List Char) :
    readFrom .plain (cs.flatMap escape ++ '"' :: rest) = some (cs, rest) := by
  induction cs with
  | nil => rfl
  | cons c cs ih =>
    rw [List.flatMap_cons, List.append_assoc, readFrom_escape, ih]
    rfl

/-- **A quoted text is read back**, up to its own closing quote. -/
theorem readQuoted_quotedChars (cs rest : List Char) :
    readQuoted (quotedChars cs ++ rest) = some (cs, rest) := by
  have hread := readFrom_flatMap_escape cs rest
  rw [quotedChars, List.cons_append, List.append_assoc]
  exact hread

/-- Characters that take no part in an escape are read as they stand. -/
theorem readFrom_append_of_plain {read after : List Char}
    (h : ∀ c ∈ cs, c ≠ '"' ∧ c ≠ '\\' ∧ c ≠ '\r') (hrest : readFrom .plain rest = some (read, after)) :
    readFrom .plain (cs ++ rest) = some (cs ++ read, after) := by
  induction cs with
  | nil => exact hrest
  | cons c cs ih =>
    obtain ⟨⟨hquote, hescape, hreturn⟩, hcs⟩ := List.forall_mem_cons.mp h
    rw [List.cons_append, readFrom_plain_of_ne hquote hescape hreturn, ih hcs]
    rfl

example : readQuoted "\"a\\\"\\u\x7b301\x7d\\n\", \"b\"".toList =
    some ("a\"\u0301\n".toList, ", \"b\"".toList) := by rfl

end Text
end MessageDump
