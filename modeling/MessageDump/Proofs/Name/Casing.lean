import MessageDump.Name.Casing
import MessageDump.Proofs.Name.Identifier
import MessageDump.Proofs.Text.Split
import Mathlib
/-! # What the casing conventions forget

Each of the conversions drops or changes characters, so that different names may
become one.  This module says which.  Pascal case is camel case with the first
character in upper case, and so tells as much apart, but for the case of that
character (`Name.camel_eq_of_pascal_eq`).  Snake case keeps everything but the
case of letters and the underscores (`Name.folded_snake`), changes nothing the
second time (`Name.snake_snake`), and can be undone where a name has no underscores
and no two capitals in a row (`Name.pascal_snake`).
-/
namespace MessageDump
namespace Name

variable {name other : String} {c : Char} {cs : List Char}

/-! ## Single characters -/

theorem isPart_of_isAlpha (h : c.isAlpha = true) : isPart c = true := by
  simp [isPart, Char.isAlphanum, h]

theorem isAlpha_of_isUpper (h : c.isUpper = true) : c.isAlpha = true := by
  simp [Char.isAlpha, h]

theorem isAlpha_of_isLower (h : c.isLower = true) : c.isAlpha = true := by
  simp [Char.isAlpha, h]

theorem not_isUpper_of_isDigit (h : c.isDigit = true) : ¬ c.isUpper = true := by
  intro hupper
  simp only [Char.isUpper, Char.isDigit, Bool.and_eq_true, decide_eq_true_eq] at h hupper
  exact absurd (UInt32.le_trans hupper.1 h.2) (by decide)

theorem not_isLower_of_isDigit (h : c.isDigit = true) : ¬ c.isLower = true := by
  intro hlower
  simp only [Char.isLower, Char.isDigit, Bool.and_eq_true, decide_eq_true_eq] at h hlower
  exact absurd (UInt32.le_trans hlower.1 h.2) (by decide)

theorem isDigit_of_isStart (h : isStart c = true) : c.isDigit = false := by
  by_contra hdigit
  have hc : c.isDigit = true := by simpa using hdigit
  simp only [isStart, Char.isAlpha, Bool.or_eq_true, decide_eq_true_eq] at h
  rcases h with (hupper | hlower) | rfl
  · exact not_isUpper_of_isDigit hc hupper
  · exact not_isLower_of_isDigit hc hlower
  · exact absurd hc (by decide)

theorem toLower_ne_underscore (h : c.isUpper = true) : c.toLower ≠ '_' := by
  intro heq
  have halpha := (Char.isAlpha_toLower_eq_isAlpha c).trans (isAlpha_of_isUpper h)
  rw [heq] at halpha
  exact absurd halpha (by decide)

theorem toLower_eq_underscore_iff : c.toLower = '_' ↔ c = '_' := by
  by_cases hupper : c.isUpper = true
  · have hne : c ≠ '_' := by rintro rfl; exact absurd hupper (by decide)
    exact iff_of_false (toLower_ne_underscore hupper) hne
  · rw [Char.toLower_eq_of_not_isUpper hupper]

theorem toUpper_toLower (h : c.isUpper = true) : c.toLower.toUpper = c := by
  rw [Char.toUpper_toLower_eq_toUpper]
  exact Char.toUpper_eq_of_not_isLower (Char.not_isLower_of_isUpper h)

theorem toLower_toUpper (h : c.isLower = true) : c.toUpper.toLower = c := by
  rw [Char.toLower_toUpper_eq_toLower]
  exact Char.toLower_eq_of_not_isUpper (Char.not_isUpper_of_isLower h)

theorem isPart_toUpper (h : isPart c = true) : isPart c.toUpper = true := by
  by_cases hlower : c.isLower = true
  · exact isPart_of_isAlpha
      ((Char.isAlpha_toUpper_eq_isAlpha c).trans (isAlpha_of_isLower hlower))
  · rwa [Char.toUpper_eq_of_not_isLower hlower]

theorem isPart_toLower (h : isPart c = true) : isPart c.toLower = true := by
  by_cases hupper : c.isUpper = true
  · exact isPart_of_isAlpha
      ((Char.isAlpha_toLower_eq_isAlpha c).trans (isAlpha_of_isUpper hupper))
  · rwa [Char.toLower_eq_of_not_isUpper hupper]

theorem isStart_toLower (h : isStart c = true) : isStart c.toLower = true := by
  rw [isStart, Bool.or_eq_true] at h
  rcases h with halpha | hunderscore
  · rw [isStart, Char.isAlpha_toLower_eq_isAlpha, halpha, Bool.true_or]
  · rw [of_decide_eq_true hunderscore]
    decide

/-! ## Camel and Pascal case -/

/-- A word with its first character in upper case, if that is an ASCII letter. -/
def upperFirst : List Char → List Char
  | [] => []
  | c :: rest => c.toUpper :: rest

theorem capitalized_eq_upperFirst (h : ∀ c ∈ cs, c.toNat < 0x80) :
    capitalized cs = upperFirst cs := by
  cases cs with
  | nil => rfl
  | cons c rest =>
    rw [capitalized, Text.uppercase_of_ascii (h c List.mem_cons_self)]
    rfl

/-- Camel case keeps the first word and puts the first characters of the others in
upper case. -/
theorem camelChars_eq_of_splitAt {afterUnderscore : Bool} {piece : List Char}
    {pieces : List (List Char)} (h : Text.splitAt '_' cs = piece :: pieces) :
    camelChars afterUnderscore cs =
      (if afterUnderscore then upperFirst piece else piece) ++ pieces.flatMap upperFirst := by
  induction cs generalizing afterUnderscore piece pieces with
  | nil =>
    obtain ⟨rfl, rfl⟩ := List.cons.inj h
    cases afterUnderscore <;> rfl
  | cons c rest ih =>
    obtain ⟨p, ps, hrest⟩ := Text.exists_splitAt_eq_cons '_' rest
    by_cases hc : c = '_'
    · subst hc
      rw [Text.splitAt_cons_sep, hrest] at h
      obtain ⟨rfl, rfl⟩ := List.cons.inj h
      rw [camelChars, if_pos rfl, ih hrest, if_pos rfl, List.flatMap_cons]
      cases afterUnderscore <;> rfl
    · rw [Text.splitAt_cons_of_ne hc hrest] at h
      obtain ⟨rfl, rfl⟩ := List.cons.inj h
      rw [camelChars, if_neg hc, ih hrest]
      cases afterUnderscore <;> rfl

/-- Pascal case is camel case as behind an underscore. -/
theorem pascalChars_eq_camelChars (h : ∀ c ∈ cs, c.toNat < 0x80) :
    pascalChars cs = camelChars true cs := by
  obtain ⟨piece, pieces, hcs⟩ := Text.exists_splitAt_eq_cons '_' cs
  rw [camelChars_eq_of_splitAt hcs, if_pos rfl, pascalChars, ← List.flatMap_cons, ← hcs]
  refine List.flatMap_congr fun word hword => capitalized_eq_upperFirst fun c hc => ?_
  exact h c (Text.mem_of_mem_splitAt hword hc)

/-- The characters of a camel case are those of the name but for the underscores, some
of them in upper case. -/
theorem exists_of_mem_camelChars {afterUnderscore : Bool}
    (hc : c ∈ camelChars afterUnderscore cs) : ∃ d ∈ cs, d ≠ '_' ∧ (c = d ∨ c = d.toUpper) := by
  induction cs generalizing afterUnderscore with
  | nil => cases hc
  | cons first rest ih =>
    have hrest : ∀ {flag : Bool}, c ∈ camelChars flag rest →
        ∃ d ∈ first :: rest, d ≠ '_' ∧ (c = d ∨ c = d.toUpper) := fun hc =>
      let ⟨d, hd, h⟩ := ih hc
      ⟨d, List.mem_cons_of_mem _ hd, h⟩
    rw [camelChars] at hc
    split at hc
    · exact hrest hc
    · next hne =>
      rcases List.mem_cons.mp hc with rfl | hc
      · refine ⟨first, List.mem_cons_self, hne, ?_⟩
        cases afterUnderscore
        · exact Or.inl rfl
        · exact Or.inr rfl
      · exact hrest hc

theorem isPart_of_mem_camelChars {afterUnderscore : Bool} (h : ∀ c ∈ cs, isPart c = true) :
    ∀ c ∈ camelChars afterUnderscore cs, isPart c = true := by
  intro c hc
  obtain ⟨d, hd, -, rfl | rfl⟩ := exists_of_mem_camelChars hc
  · exact h c hd
  · exact isPart_toUpper (h d hd)

theorem toList_pascal (h : isIdentifier name = true) :
    (pascal name).toList = camelChars true name.toList := by
  rw [pascal, String.toList_ofList]
  exact pascalChars_eq_camelChars (toNat_lt_of_mem h)

theorem isPart_of_mem_pascal (h : isIdentifier name = true) (hc : c ∈ (pascal name).toList) :
    isPart c = true := by
  rw [toList_pascal h] at hc
  exact isPart_of_mem_camelChars (fun _ => isPart_of_mem h) c hc

theorem not_mem_pascal (h : isIdentifier name = true) (hc : isPart c = false) :
    c ∉ (pascal name).toList := by
  intro hmem
  rw [isPart_of_mem_pascal h hmem] at hc
  cases hc

/-- Whether a name begins with a lower-case letter. -/
def beginsLower (name : String) : Bool := name.toList.head?.any Char.isLower

theorem exists_cons_of_beginsLower (h : beginsLower name = true) :
    ∃ c rest, name.toList = c :: rest ∧ c.isLower = true ∧ c ≠ '_' := by
  unfold beginsLower at h
  cases hname : name.toList with
  | nil => simp [hname] at h
  | cons c rest =>
    have hc : c.isLower = true := by simpa [hname] using h
    refine ⟨c, rest, rfl, hc, ?_⟩
    rintro rfl
    exact absurd hc (by decide)

/-- **Names that begin with a lower-case letter have the same Pascal case only if
they have the same camel case.** -/
theorem camel_eq_of_pascal_eq (hname : isIdentifier name = true) (hother : isIdentifier other = true)
    (hlower : beginsLower name = true) (hlower' : beginsLower other = true)
    (heq : pascal name = pascal other) : camel name = camel other := by
  obtain ⟨c, rest, hc, hclower, hcne⟩ := exists_cons_of_beginsLower hlower
  obtain ⟨d, rest', hd, hdlower, hdne⟩ := exists_cons_of_beginsLower hlower'
  have hchars : camelChars true (c :: rest) = camelChars true (d :: rest') := by
    rw [← hc, ← hd, ← toList_pascal hname, ← toList_pascal hother, heq]
  simp only [camelChars, if_neg hcne, if_neg hdne, if_true, List.cons.injEq] at hchars
  -- the first letters are in lower case, so that they can be told from those in upper case
  have hfirst : c = d := by
    rw [← toLower_toUpper hclower, ← toLower_toUpper hdlower, hchars.1]
  rw [camel, camel, hc, hd, camelChars, camelChars, if_neg hcne, if_neg hdne, hfirst, hchars.2]

/-- An underscore behind a name is dropped like any other. -/
theorem camelChars_append_underscore (afterUnderscore : Bool) (cs : List Char) :
    camelChars afterUnderscore (cs ++ ['_']) = camelChars afterUnderscore cs := by
  induction cs generalizing afterUnderscore with
  | nil => rfl
  | cons c rest ih => simp only [List.cons_append, camelChars, ih]

theorem camel_append_underscore (name : String) : camel (name ++ "_") = camel name := by
  have hend : (name ++ "_").toList = name.toList ++ ['_'] := String.toList_append
  rw [camel, hend, camelChars_append_underscore, camel]

/-- The word behind it is empty. -/
theorem pascal_append_underscore (name : String) : pascal (name ++ "_") = pascal name := by
  have hend : (name ++ "_").toList = name.toList ++ ['_'] := String.toList_append
  rw [pascal, hend, pascalChars, Text.splitAt_append_sep, Text.splitAt_nil, List.flatMap_append,
    List.flatMap_singleton, capitalized, List.append_nil, pascal, pascalChars]

/-! ## Snake case -/

/-- Snake case consists of underscores and of the characters of the name in lower case. -/
theorem eq_or_exists_of_mem_snakeChars {before : Option Char} (hc : c ∈ snakeChars before cs) :
    c = '_' ∨ ∃ d ∈ cs, c = d.toLower := by
  induction cs generalizing before with
  | nil => cases hc
  | cons first rest ih =>
    have hrest (h : c ∈ snakeChars (some first) rest) :
        c = '_' ∨ ∃ d ∈ first :: rest, c = d.toLower :=
      (ih h).imp_right fun ⟨d, hd, heq⟩ => ⟨d, List.mem_cons_of_mem _ hd, heq⟩
    have hfirst : c = first.toLower → c = '_' ∨ ∃ d ∈ first :: rest, c = d.toLower := fun heq =>
      Or.inr ⟨first, List.mem_cons_self, heq⟩
    rw [snakeChars] at hc
    split at hc
    · split at hc
      · rcases List.mem_cons.mp hc with rfl | hc
        · exact Or.inl rfl
        · exact (List.mem_cons.mp hc).elim hfirst hrest
      · exact (List.mem_cons.mp hc).elim hfirst hrest
    · next hupper =>
      have hsame := (Char.toLower_eq_of_not_isUpper hupper).symm
      exact (List.mem_cons.mp hc).elim (fun heq => hfirst (heq.trans hsame)) hrest

theorem isPart_of_mem_snakeChars {before : Option Char} (h : ∀ c ∈ cs, isPart c = true) :
    ∀ c ∈ snakeChars before cs, isPart c = true := by
  intro c hc
  rcases eq_or_exists_of_mem_snakeChars hc with rfl | ⟨d, hd, rfl⟩
  · decide
  · exact isPart_toLower (h d hd)

/-- No capital is left. -/
theorem isUpper_of_mem_snakeChars {before : Option Char} (hc : c ∈ snakeChars before cs) :
    c.isUpper = false := by
  rcases eq_or_exists_of_mem_snakeChars hc with rfl | ⟨d, -, rfl⟩
  · decide
  · exact Char.isUpper_toLower_eq_false d

/-- Characters that are no capitals stay as they are; what follows sees the last of
them before it. -/
theorem snakeChars_append {before : Option Char} {rest : List Char}
    (h : ∀ c ∈ cs, c.isUpper = false) :
    snakeChars before (cs ++ rest) = cs ++ snakeChars (cs.getLast?.or before) rest := by
  induction cs generalizing before with
  | nil => rfl
  | cons c cs ih =>
    have hc : ¬ c.isUpper = true := by simp [h c List.mem_cons_self]
    -- the last of `c :: cs` is `c` itself if nothing follows it
    have hlast : cs.getLast?.or (some c) = (c :: cs).getLast?.or before := by
      rw [List.getLast?_cons]
      cases cs.getLast? <;> rfl
    rw [List.cons_append, snakeChars, if_neg hc, ih fun d hd => h d (List.mem_cons_of_mem _ hd),
      hlast, List.cons_append]

theorem snakeChars_of_not_isUpper {before : Option Char} (h : ∀ c ∈ cs, c.isUpper = false) :
    snakeChars before cs = cs := by
  have happend : snakeChars before (cs ++ []) = cs ++ snakeChars (cs.getLast?.or before) [] :=
    snakeChars_append h
  rwa [List.append_nil, snakeChars, List.append_nil] at happend

/-- **A name in snake case stays as it is.** -/
theorem snake_snake (name : String) : snake (snake name) = snake name := by
  have h : snakeChars none (snakeChars none name.toList) = snakeChars none name.toList :=
    snakeChars_of_not_isUpper fun _ => isUpper_of_mem_snakeChars
  rw [snake, snake, String.toList_ofList, h]

/-- At the start no underscore is put before a capital. -/
theorem snakeChars_none_cons (first : Char) (rest : List Char) :
    snakeChars none (first :: rest) = first.toLower :: snakeChars (some first) rest := by
  rw [snakeChars]
  split
  · rfl
  · next h => rw [Char.toLower_eq_of_not_isUpper h]

theorem snakeChars_eq_nil_iff {before : Option Char} : snakeChars before cs = [] ↔ cs = [] := by
  cases cs with
  | nil => exact ⟨fun _ => rfl, fun _ => rfl⟩
  | cons first rest =>
    rw [snakeChars]
    split
    · split <;> simp
    · simp

/-- The snake case of an identifier is an identifier. -/
theorem isIdentifier_snake (h : isIdentifier name = true) : isIdentifier (snake name) = true := by
  have hpart : ∀ c ∈ name.toList, isPart c = true := fun _ => isPart_of_mem h
  unfold isIdentifier at h ⊢
  rw [snake, String.toList_ofList]
  cases hname : name.toList with
  | nil => rw [hname] at h; cases h
  | cons first rest =>
    rw [hname] at h hpart
    simp only [identifierChars, Bool.and_eq_true, bne_iff_ne, ne_eq] at h
    rw [snakeChars_none_cons]
    simp only [identifierChars, Bool.and_eq_true, bne_iff_ne, ne_eq, List.all_eq_true]
    refine ⟨⟨isStart_toLower h.1.1, ?_⟩, ?_⟩
    · intro hlone
      rw [List.cons.injEq, snakeChars_eq_nil_iff] at hlone
      by_cases hupper : first.isUpper = true
      · exact toLower_ne_underscore hupper hlone.1
      · rw [Char.toLower_eq_of_not_isUpper hupper] at hlone
        exact h.1.2 (by rw [hlone.1, hlone.2])
    · exact isPart_of_mem_snakeChars fun c hc => hpart c (List.mem_cons_of_mem _ hc)

/-- Apart from underscores, snake case is the lower case of the name. -/
theorem filter_snakeChars (before : Option Char) (cs : List Char) :
    (snakeChars before cs).filter (· != '_') = (cs.filter (· != '_')).map Char.toLower := by
  induction cs generalizing before with
  | nil => rfl
  | cons first rest ih =>
    rw [snakeChars]
    by_cases hupper : first.isUpper = true
    · have hne : first ≠ '_' := by rintro rfl; exact absurd hupper (by decide)
      have hne' := toLower_ne_underscore hupper
      rw [if_pos hupper]
      split <;> simp [hne, hne', ih]
    · have hsame := Char.toLower_eq_of_not_isUpper hupper
      rw [if_neg hupper]
      by_cases hne : first = '_'
      · simp [hne, ih]
      · simp [hne, hsame, ih]

/-- What is left of a name without underscores and the case of its letters. -/
def folded (name : String) : List Char :=
  (name.toList.filter (· != '_')).map Char.toLower

theorem folded_snake (name : String) : folded (snake name) = folded name := by
  rw [folded, snake, String.toList_ofList, filter_snakeChars, List.map_map, folded]
  exact List.map_congr_left fun c _ => Char.toLower_toLower_eq_toLower c

theorem folded_eq_of_snake_eq (heq : snake name = snake other) : folded name = folded other := by
  rw [← folded_snake name, heq, folded_snake]

theorem folded_append_underscore (name : String) : folded (name ++ "_") = folded name := by
  simp [folded]

/-- **Names whose escaped snake case is the same agree up to underscores and the
case of letters.** -/
theorem folded_eq_of_escaped_snake_eq (hname : isIdentifier name = true)
    (hother : isIdentifier other = true) (heq : escaped (snake name) = escaped (snake other)) :
    folded name = folded other := by
  rw [← folded_snake name, ← folded_snake other]
  rcases (escaped_eq_escaped_iff (isIdentifier_snake hname) (isIdentifier_snake hother)).mp heq with
    h | ⟨_, h⟩ | ⟨_, h⟩
  · rw [h]
  · rw [h, folded_append_underscore]
  · rw [h, folded_append_underscore]

/-! ## Names that snake case keeps apart -/

/-- A name in Pascal case without acronyms: it begins with a capital, no capital
follows another, and there are no underscores. -/
structure IsPascal (name : String) : Prop where
  begins_upper : name.toList.head?.any Char.isUpper = true
  no_underscore : '_' ∉ name.toList
  no_acronym : name.toList.IsChain fun c d => ¬ (c.isUpper = true ∧ d.isUpper = true)

theorem isLower_or_isDigit (hpart : isPart c = true) (hne : c ≠ '_') (h : ¬ c.isUpper = true) :
    (c.isLower || c.isDigit) = true := by
  simpa [isPart, Char.isAlphanum, Char.isAlpha, hne, h] using hpart

/-- Behind a character of a word, camel case undoes snake case: the underscore
before each capital is dropped and the capital put back. -/
theorem camelChars_snakeChars {p : Char} (hpart : ∀ c ∈ p :: cs, isPart c = true)
    (hplain : '_' ∉ p :: cs)
    (hchain : (p :: cs).IsChain fun c d => ¬ (c.isUpper = true ∧ d.isUpper = true)) :
    camelChars false (snakeChars (some p) cs) = cs := by
  induction cs generalizing p with
  | nil => rfl
  | cons c rest ih =>
    rw [List.isChain_cons_cons] at hchain
    have hp : p ≠ '_' := fun he => hplain (he ▸ List.mem_cons_self)
    have hplain' : '_' ∉ c :: rest := fun hmem => hplain (List.mem_cons_of_mem _ hmem)
    have hc : c ≠ '_' := fun he => hplain' (he ▸ List.mem_cons_self)
    have hrest := ih (fun d hd => hpart d (List.mem_cons_of_mem _ hd)) hplain' hchain.2
    rw [snakeChars]
    by_cases hupper : c.isUpper = true
    · have hstarts : startsWord (some p) rest.head? = true := by
        have hbefore := isLower_or_isDigit (hpart p List.mem_cons_self) hp
          fun hpupper => hchain.1 ⟨hpupper, hupper⟩
        rw [startsWord, if_pos hbefore]
      rw [if_pos hupper, if_pos hstarts, camelChars, if_pos rfl, camelChars,
        if_neg (toLower_ne_underscore hupper), if_pos rfl, toUpper_toLower hupper, hrest]
    · rw [if_neg hupper, camelChars, if_neg hc, hrest]
      rfl

/-- **Pascal case undoes snake case where there are no acronyms.** -/
theorem pascal_snake (h : isIdentifier name = true) (hpascal : IsPascal name) :
    pascal (snake name) = name := by
  rw [← String.toList_inj, toList_pascal (isIdentifier_snake h), snake, String.toList_ofList]
  have hpart : ∀ c ∈ name.toList, isPart c = true := fun _ => isPart_of_mem h
  obtain ⟨hupper, hplain, hchain⟩ := hpascal
  cases hname : name.toList with
  | nil => rfl
  | cons first rest =>
    rw [hname] at hupper hplain hchain hpart
    have hfirst : first.isUpper = true := by simpa using hupper
    rw [snakeChars_none_cons, camelChars, if_neg (toLower_ne_underscore hfirst), if_pos rfl,
      toUpper_toLower hfirst, camelChars_snakeChars hpart hplain hchain]

/-- **Snake case keeps names in Pascal case without acronyms apart.** -/
theorem eq_of_snake_eq (hname : isIdentifier name = true) (hother : isIdentifier other = true)
    (hpascal : IsPascal name) (hpascal' : IsPascal other) (heq : snake name = snake other) :
    name = other := by
  rw [← pascal_snake hname hpascal, heq, pascal_snake hother hpascal']

theorem pascal_eq_of_escaped_eq (hname : isIdentifier name = true)
    (hother : isIdentifier other = true) (heq : escaped name = escaped other) :
    pascal name = pascal other := by
  rcases (escaped_eq_escaped_iff hname hother).mp heq with rfl | ⟨_, rfl⟩ | ⟨_, rfl⟩
  · rfl
  · exact (pascal_append_underscore name).symm
  · exact pascal_append_underscore other

/-- Escaped snake case keeps them apart, too. -/
theorem eq_of_escaped_snake_eq (hname : isIdentifier name = true) (hother : isIdentifier other = true)
    (hpascal : IsPascal name) (hpascal' : IsPascal other)
    (heq : escaped (snake name) = escaped (snake other)) : name = other := by
  have h := pascal_eq_of_escaped_eq (isIdentifier_snake hname) (isIdentifier_snake hother) heq
  rwa [pascal_snake hname hpascal, pascal_snake hother hpascal'] at h

end Name
end MessageDump
