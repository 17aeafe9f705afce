import MessageDump.Proofs.Text.Literal
/-! # Reading format templates

A template is the first argument of a formatting call: a string literal whose text is
in turn read by a grammar of its own, in which braces hold placeholders and a doubled
brace is a brace.  A text that is spelled out of characters and placeholders is read as
these (`parseTemplate_flatMap_chars`), and a literal around it as well, if nothing in it
takes part in an escape (`isTemplate_of_plain`).
-/
namespace MessageDump
namespace Text

/-- How a placeholder shows its argument. -/
inductive Placeholder where
  /-- As it is shown to a user. -/
  | display
  /-- Quoted, if it is a text. -/
  | debug
  deriving DecidableEq, Repr

/-- What a template is made of. -/
inductive Item where
  | char (c : Char)
  | hole (placeholder : Placeholder)
  deriving DecidableEq, Repr

namespace Item

/-- How an item is spelled in the text of a template. -/
def chars : Item → List Char
  | char '\x7b' => ['\x7b', '\x7b']
  | char '\x7d' => ['\x7d', '\x7d']
  | char c => [c]
  | hole .display => ['\x7b', '\x7d']
  | hole .debug => ['\x7b', ':', '?', '\x7d']

/-- Whether an item takes an argument. -/
def isHole : Item → Bool
  | char _ => false
  | hole _ => true

/-- A text that is written as it is shown. -/
def ofText (text : String) : List Item := text.toList.map char

end Item

/-- Reads the text of a template.  A brace that is not doubled has to be that of a
placeholder. -/
def parseTemplate : List Char → Option (List Item)
  | [] => some []
  | '\x7b' :: '\x7b' :: rest => (parseTemplate rest).map (.char '\x7b' :: ·)
  | '\x7b' :: '\x7d' :: rest => (parseTemplate rest).map (.hole .display :: ·)
  | '\x7b' :: ':' :: '?' :: '\x7d' :: rest => (parseTemplate rest).map (.hole .debug :: ·)
  | '\x7d' :: '\x7d' :: rest => (parseTemplate rest).map (.char '\x7d' :: ·)
  | c :: rest =>
    if c = '\x7b' ∨ c = '\x7d' then none else (parseTemplate rest).map (.char c :: ·)

/-- A string literal that is read as a template with the given items, up to its own
closing quote. -/
def IsTemplate (literal : String) (items : List Item) : Prop :=
  ∃ text, (∀ rest, readQuoted (literal.toList ++ rest) = some (text, rest)) ∧
    parseTemplate text = some items

theorem parseTemplate_cons_of_ne {c : Char} (rest : List Char) (hopen : c ≠ '\x7b')
    (hclose : c ≠ '\x7d') : parseTemplate (c :: rest) = (parseTemplate rest).map (.char c :: ·) := by
  rw [parseTemplate]
  · simp [hopen, hclose]
  all_goals simp_all

theorem parseTemplate_chars (item : Item) (rest : List Char) :
    parseTemplate (item.chars ++ rest) = (parseTemplate rest).map (item :: ·) := by
  cases item with
  | hole placeholder => cases placeholder <;> rfl
  | char c =>
    by_cases hopen : c = '\x7b'
    · subst hopen
      rfl
    by_cases hclose : c = '\x7d'
    · subst hclose
      rfl
    rw [Item.chars]
    · exact parseTemplate_cons_of_ne rest hopen hclose
    · exact hopen
    · exact hclose

/-- **A template is read as the items that it is spelled out of.** -/
theorem parseTemplate_flatMap_chars (items : List Item) :
    parseTemplate (items.flatMap Item.chars) = some items := by
  induction items with
  | nil => rfl
  | cons item items ih =>
    rw [List.flatMap_cons, parseTemplate_chars, ih]
    rfl

theorem flatMap_chars_ofText {text : String} (h : ∀ c ∈ text.toList, c ≠ '\x7b' ∧ c ≠ '\x7d') :
    (Item.ofText text).flatMap Item.chars = text.toList := by
  have hchars : ∀ c ∈ text.toList, (Item.char c).chars = [c] := by
    intro c hc
    rw [Item.chars]
    · exact (h c hc).1
    · exact (h c hc).2
  rw [Item.ofText, List.flatMap_map, List.flatMap_congr hchars]
  exact List.flatMap_singleton' text.toList

/-- A literal that ends in the escape of a line feed, if no other character in it takes
part in an escape. -/
theorem isTemplate_of_plain {literal : String} {items : List Item}
    (hplain : ∀ c ∈ items.flatMap Item.chars, c ≠ '"' ∧ c ≠ '\\' ∧ c ≠ '\r')
    (hliteral : literal.toList = '"' :: (items.flatMap Item.chars ++ ['\\', 'n', '"'])) :
    IsTemplate literal (items ++ [.char '\n']) := by
  refine ⟨items.flatMap Item.chars ++ ['\n'], fun rest => ?_, ?_⟩
  · rw [hliteral, List.cons_append, List.append_assoc]
    exact readFrom_append_of_plain hplain rfl
  · have hchars : items.flatMap Item.chars ++ ['\n'] =
        (items ++ [Item.char '\n']).flatMap Item.chars := by
      rw [List.flatMap_append]
      rfl
    rw [hchars, parseTemplate_flatMap_chars]

/-- A formatting call with the given arguments, whose template has the given items: it
has a placeholder for each argument and no other. -/
structure IsFormat (call : String) (items : List Item) (arguments : List String) : Prop where
  exists_literal : ∃ literal, IsTemplate literal items ∧
    call = "format!(" ++ literal ++ ", " ++ ", ".intercalate arguments ++ ")"
  countP_isHole : items.countP Item.isHole = arguments.length

theorem IsTemplate.items_eq {literal : String} {items items' : List Item}
    (h : IsTemplate literal items) (h' : IsTemplate literal items') : items = items' := by
  obtain ⟨text, hread, hparse⟩ := h
  obtain ⟨text', hread', hparse'⟩ := h'
  have hsame := (hread []).symm.trans (hread' [])
  obtain rfl := (Prod.mk.inj (Option.some.inj hsame)).1
  exact Option.some.inj (hparse.symm.trans hparse')

/-- A call means one thing: what its template is made of follows from its text. -/
theorem IsFormat.items_eq {call : String} {items items' : List Item} {arguments : List String}
    (h : IsFormat call items arguments) (h' : IsFormat call items' arguments) : items = items' := by
  obtain ⟨literal, hliteral, hcall⟩ := h.exists_literal
  obtain ⟨literal', hliteral', hcall'⟩ := h'.exists_literal
  have hsame : literal = literal' := by
    have htexts := congrArg String.toList (hcall.symm.trans hcall')
    simp only [String.toList_append, List.append_assoc] at htexts
    exact String.toList_injective (List.append_cancel_right (List.append_cancel_left htexts))
  subst hsame
  exact hliteral.items_eq hliteral'

example : parseTemplate "\x7b\x7dnote: \x7b:?\x7d\x7d\x7d\n".toList =
    some (.hole .display :: (Item.ofText "note: " ++ .hole .debug :: Item.ofText "\x7d\n")) := by rfl

end Text
end MessageDump
