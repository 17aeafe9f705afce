import MessageDump.Proofs.Name.Casing
import Mathlib
/-! # Which names stay legal

Pascal case drops underscores and changes the case of letters, so that what it
makes of an identifier need not be one, and may be a keyword although the name is
none.  Both happen at the underscores a name begins with: behind them a digit may
stand, or nothing, and `self` becomes `Self`.  Nothing else can go wrong
(`Name.isLegal_pascal_iff`), since Pascal case begins with no lower-case letter
and all other keywords do.
-/
namespace MessageDump
namespace Name

variable {name : String} {c d : Char} {cs w : List Char}

/-- A name that the generated source can use as it stands. -/
def IsLegal (name : String) : Prop :=
  isIdentifier name = true ∧ isKeyword name = false

/-- Whether the underscores that a name begins with are followed by a letter. -/
def leadsToLetter (name : String) : Bool :=
  (name.toList.dropWhile (· == '_')).head?.any Char.isAlpha

/-- The name is the word `self` or `Self`, apart from underscores around it. -/
def IsSelf (name : String) : Prop :=
  ∃ m n word, (word = "self" ∨ word = "Self") ∧
    name.toList = List.replicate m '_' ++ word.toList ++ List.replicate n '_'

/-! ## The first character -/

theorem toUpper_ne_underscore (h : c ≠ '_') : c.toUpper ≠ '_' := by
  by_cases hlower : c.isLower = true
  · intro heq
    have halpha := (Char.isAlpha_toUpper_eq_isAlpha c).trans (isAlpha_of_isLower hlower)
    rw [heq] at halpha
    exact absurd halpha (by decide)
  · rwa [Char.toUpper_eq_of_not_isLower hlower]

theorem isStart_toUpper_iff (h : c ≠ '_') : isStart c.toUpper = true ↔ c.isAlpha = true := by
  have hne := toUpper_ne_underscore h
  rw [isStart, Char.isAlpha_toUpper_eq_isAlpha]
  simp [hne]

/-- At the start, underscores are dropped. -/
theorem camelChars_true_dropWhile (cs : List Char) :
    camelChars true cs = camelChars true (cs.dropWhile (· == '_')) := by
  induction cs with
  | nil => rfl
  | cons c rest ih =>
    by_cases hc : c = '_'
    · subst hc
      rw [camelChars, if_pos rfl, ih]
      rfl
    · rw [List.dropWhile_cons_of_neg (by simpa using hc)]

/-- Behind underscores comes nothing, or a character that is none. -/
theorem dropWhile_underscore_cases (cs : List Char) :
    cs.dropWhile (· == '_') = [] ∨
      ∃ c rest, cs.dropWhile (· == '_') = c :: rest ∧ c ≠ '_' := by
  cases h : cs.dropWhile (· == '_') with
  | nil => exact Or.inl rfl
  | cons c rest =>
    have hc := List.head?_dropWhile_not (· == '_') cs
    rw [h] at hc
    exact Or.inr ⟨c, rest, rfl, by simpa using hc⟩

theorem camelChars_true_cons {rest : List Char} (h : c ≠ '_') :
    camelChars true (c :: rest) = c.toUpper :: camelChars false rest := by
  rw [camelChars, if_neg h, if_pos rfl]

theorem isLower_of_camelChars_eq_cons (h : camelChars true cs = d :: w) : d.isLower = false := by
  rw [camelChars_true_dropWhile] at h
  rcases dropWhile_underscore_cases cs with hnil | ⟨c, rest, hcons, hc⟩
  · rw [hnil] at h
    cases h
  · rw [hcons, camelChars_true_cons hc] at h
    rw [← (List.cons.inj h).1]
    exact Char.isLower_toUpper_eq_false c

/-! ## Identifiers -/

/-- **The Pascal case of an identifier is an identifier exactly if a letter follows
the underscores at its start.** -/
theorem isIdentifier_pascal_iff (h : isIdentifier name = true) :
    isIdentifier (pascal name) = true ↔ leadsToLetter name = true := by
  have hpart : ∀ c ∈ camelChars true name.toList, isPart c = true :=
    isPart_of_mem_camelChars fun _ => isPart_of_mem h
  rw [isIdentifier, toList_pascal h]
  rw [camelChars_true_dropWhile] at hpart ⊢
  unfold leadsToLetter
  rcases dropWhile_underscore_cases name.toList with hnil | ⟨c, rest, hcons, hc⟩
  · rw [hnil]
    decide
  · rw [hcons, camelChars_true_cons hc] at hpart ⊢
    have hstart := isStart_toUpper_iff hc
    have hrest : (camelChars false rest).all isPart = true :=
      List.all_eq_true.mpr fun d hd => hpart d (List.mem_cons_of_mem _ hd)
    have hlone : c.toUpper :: camelChars false rest ≠ ['_'] := fun heq =>
      toUpper_ne_underscore hc (List.cons.inj heq).1
    simp [identifierChars, hrest, hlone, hstart]

/-! ## Keywords -/

/-- Every keyword but `Self` begins with a lower-case letter. -/
theorem beginsLower_of_isKeyword (h : isKeyword name = true) (hne : name ≠ "Self") :
    beginsLower name = true := by
  have hmem : name ∈ keywords ++ reservedWords := by
    rw [isKeyword, Bool.or_eq_true, List.contains_iff_mem, List.contains_iff_mem] at h
    exact List.mem_append.mpr h
  have hall : ∀ word ∈ keywords ++ reservedWords, word ≠ "Self" → beginsLower word = true := by
    decide
  exact hall name hmem hne

theorem beginsLower_pascal (h : isIdentifier name = true) : beginsLower (pascal name) = false := by
  unfold beginsLower
  rw [toList_pascal h]
  cases hchars : camelChars true name.toList with
  | nil => rfl
  | cons d w => simpa using isLower_of_camelChars_eq_cons hchars

theorem isKeyword_pascal_iff_eq (h : isIdentifier name = true) :
    isKeyword (pascal name) = true ↔ pascal name = "Self" := by
  constructor
  · intro hkeyword
    by_contra hne
    have hlower := beginsLower_of_isKeyword hkeyword hne
    rw [beginsLower_pascal h] at hlower
    cases hlower
  · intro heq
    rw [heq]
    decide

/-- Nothing is left of underscores alone. -/
theorem camelChars_replicate (afterUnderscore : Bool) (n : Nat) :
    camelChars afterUnderscore (List.replicate n '_') = [] := by
  induction n generalizing afterUnderscore with
  | zero => rfl
  | succ n ih => rw [List.replicate_succ, camelChars, if_pos rfl, ih]

theorem camelChars_true_replicate_append (m : Nat) (cs : List Char) :
    camelChars true (List.replicate m '_' ++ cs) = camelChars true cs := by
  induction m with
  | zero => rfl
  | succ m ih => rw [List.replicate_succ, List.cons_append, camelChars, if_pos rfl, ih]

theorem exists_replicate_of_camelChars_eq_nil {afterUnderscore : Bool}
    (h : camelChars afterUnderscore cs = []) : ∃ n, cs = List.replicate n '_' := by
  induction cs generalizing afterUnderscore with
  | nil => exact ⟨0, rfl⟩
  | cons c rest ih =>
    rw [camelChars] at h
    split at h
    · next hc =>
      obtain ⟨n, hrest⟩ := ih h
      exact ⟨n + 1, by rw [hc, hrest, List.replicate_succ]⟩
    · cases h

/-- Behind the first character, letters in lower case come from themselves: an
underscore before one would have put it in upper case. -/
theorem exists_append_of_camelChars_eq (hw : ∀ c ∈ w, c.isLower = true)
    (h : camelChars false cs = w) : ∃ n, cs = w ++ List.replicate n '_' := by
  induction cs generalizing w with
  | nil => exact ⟨0, by rw [← h]; rfl⟩
  | cons c rest ih =>
    rw [camelChars] at h
    split at h
    · next hc =>
      cases w with
      | nil =>
        obtain ⟨n, hrest⟩ := exists_replicate_of_camelChars_eq_nil h
        exact ⟨n + 1, by rw [hc, hrest, List.nil_append, List.replicate_succ]⟩
      | cons d w =>
        have hlower := hw d List.mem_cons_self
        rw [isLower_of_camelChars_eq_cons h] at hlower
        cases hlower
    · subst h
      obtain ⟨n, hrest⟩ := ih (fun d hd => hw d (List.mem_cons_of_mem _ hd)) rfl
      exact ⟨n, congrArg (c :: ·) hrest⟩

theorem eq_of_toUpper_eq_S (h : c.toUpper = 'S') : c = 's' ∨ c = 'S' := by
  by_cases hlower : c.isLower = true
  · rw [← toLower_toUpper hlower, h]
    exact Or.inl rfl
  · rw [Char.toUpper_eq_of_not_isLower hlower] at h
    exact Or.inr h

theorem pascal_eq_Self_iff (h : isIdentifier name = true) : pascal name = "Self" ↔ IsSelf name := by
  rw [← String.toList_inj, toList_pascal h]
  change camelChars true name.toList = ['S', 'e', 'l', 'f'] ↔ IsSelf name
  constructor
  · intro heq
    have hlead : ∃ m, name.toList.takeWhile (· == '_') = List.replicate m '_' :=
      ⟨_, List.eq_replicate_of_mem fun c hc => by simpa using List.mem_takeWhile_imp hc⟩
    obtain ⟨m, hm⟩ := hlead
    rw [camelChars_true_dropWhile] at heq
    rcases dropWhile_underscore_cases name.toList with hnil | ⟨c, rest, hcons, hc⟩
    · rw [hnil] at heq
      cases heq
    · rw [hcons, camelChars_true_cons hc] at heq
      obtain ⟨hfirst, hrest⟩ := List.cons.inj heq
      have hlower : ∀ d ∈ ['e', 'l', 'f'], d.isLower = true := by simp
      obtain ⟨n, hn⟩ := exists_append_of_camelChars_eq hlower hrest
      have hname : name.toList = List.replicate m '_' ++ c :: rest := by
        rw [← hm, ← hcons, List.takeWhile_append_dropWhile]
      rw [hn] at hname
      rcases eq_of_toUpper_eq_S hfirst with rfl | rfl
      · exact ⟨m, n, "self", Or.inl rfl, by rw [hname, List.append_assoc]; rfl⟩
      · exact ⟨m, n, "Self", Or.inr rfl, by rw [hname, List.append_assoc]; rfl⟩
  · rintro ⟨m, n, word, hword, hname⟩
    have hend : camelChars false (List.replicate n '_') = [] := camelChars_replicate false n
    rw [hname, List.append_assoc, camelChars_true_replicate_append]
    rcases hword with rfl | rfl
    · change 'S' :: 'e' :: 'l' :: 'f' :: camelChars false (List.replicate n '_') = _
      rw [hend]
    · change 'S' :: 'e' :: 'l' :: 'f' :: camelChars false (List.replicate n '_') = _
      rw [hend]

/-- **The Pascal case of an identifier is a keyword only for `self` and `Self`.** -/
theorem isKeyword_pascal_iff (h : isIdentifier name = true) :
    isKeyword (pascal name) = true ↔ IsSelf name :=
  (isKeyword_pascal_iff_eq h).trans (pascal_eq_Self_iff h)

theorem isLegal_pascal_iff (h : isIdentifier name = true) :
    IsLegal (pascal name) ↔ leadsToLetter name = true ∧ ¬ IsSelf name := by
  rw [IsLegal, isIdentifier_pascal_iff h, ← isKeyword_pascal_iff h, Bool.not_eq_true]

end Name
end MessageDump
