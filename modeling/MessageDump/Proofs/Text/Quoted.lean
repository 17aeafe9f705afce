import MessageDump.Text.Quoted
import MessageDump.Proofs.Text.Lines
import Mathlib.Data.List.Basic
/-! # Quoted texts are of one line

A line feed and a carriage return have escapes of their own, and no other escape
holds one, so that a quoted text never ends the line that it stands in.
-/
namespace MessageDump
namespace Text

theorem exists_digitChar_of_mem_hexDigits {n : Nat} {c : Char} (h : c ∈ hexDigits n) :
    ∃ digit < 16, c = Nat.digitChar digit := by
  induction n using Nat.strongRecOn with
  | ind n ih =>
    rw [hexDigits, Nat.toDigits_eq_if (by decide)] at h
    split at h
    · next hlt => exact ⟨n, hlt, List.mem_singleton.mp h⟩
    · next hle =>
      rcases List.mem_append.mp h with hinit | hlast
      · exact ih (n / 16) (by omega) hinit
      · exact ⟨n % 16, Nat.mod_lt _ (by decide), List.mem_singleton.mp hlast⟩

theorem noBreak_hexDigits (n : Nat) : NoBreak (hexDigits n) := by
  have hdigits : ∀ digit < 16, Nat.digitChar digit ≠ '\n' ∧ Nat.digitChar digit ≠ '\r' := by decide
  constructor
  · intro h
    obtain ⟨digit, hlt, heq⟩ := exists_digitChar_of_mem_hexDigits h
    exact (hdigits digit hlt).1 heq.symm
  · intro h
    obtain ⟨digit, hlt, heq⟩ := exists_digitChar_of_mem_hexDigits h
    exact (hdigits digit hlt).2 heq.symm

theorem noBreak_escape (c : Char) : NoBreak (escape c) := by
  have hpair : ∀ d, d ≠ '\n' → d ≠ '\r' → NoBreak ['\\', d] := by
    intro d hfeed hreturn
    simp [hfeed, hreturn]
  unfold escape
  split_ifs with _ _ hreturn hfeed
  · exact hpair '0' (by decide) (by decide)
  · exact hpair 't' (by decide) (by decide)
  · exact hpair 'r' (by decide) (by decide)
  · exact hpair 'n' (by decide) (by decide)
  · exact hpair '"' (by decide) (by decide)
  · exact hpair '\\' (by decide) (by decide)
  · exact noBreak_append.mpr ⟨noBreak_append.mpr ⟨by decide, noBreak_hexDigits _⟩, by decide⟩
  · exact noBreak_cons.mpr ⟨⟨hfeed, hreturn⟩, noBreak_nil⟩

theorem noBreak_quote (text : String) : NoBreak (quote text).toList := by
  rw [quote, String.toList_ofList, quotedChars, noBreak_cons, noBreak_append]
  refine ⟨by decide, ?_, by decide⟩
  induction text.toList with
  | nil => exact noBreak_nil
  | cons c rest ih =>
    rw [List.flatMap_cons]
    exact noBreak_append.mpr ⟨noBreak_escape c, ih⟩

end Text
end MessageDump
