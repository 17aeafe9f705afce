import MessageDump.Proofs.Generation.Files
import MessageDump.Proofs.Storage.Tree
import Mathlib
/-! # Stems

The snake case of a message's name is used as it stands before the extension of its
file, and escaped as the module of its enums.  Linking has found the name to be an
identifier; its snake case is one, too, without capitals (`Name.isStem_snake`).  So
the name of the file is a single step on a path, which stays in the directory it is
joined to.  Snake case may turn a name that is no keyword into one, but the module
is escaped after it (`Schema.generated_names_legal`).
-/
namespace MessageDump

namespace Name
variable {name : String} {c : Char}

/-- A name that any file can be called by: lower-case letters, digits and underscores,
of which no digit is the first, and not an underscore alone. -/
structure IsStem (name : String) : Prop where
  ne_empty : name ≠ ""
  plain : ∀ c ∈ name.toList, c.isLower = true ∨ c.isDigit = true ∨ c = '_'
  begins : ∀ c ∈ name.toList.head?, c.isDigit = false
  ne_underscore : name ≠ "_"

/-- A name of a module: a stem that is no keyword, the raw form of a keyword that has
one, or a reserved word with an underscore behind. -/
inductive IsModule : String → Prop
  | stem {name : String} (isStem : IsStem name) (free : isKeyword name = false) : IsModule name
  | raw {word : String} (mem : word ∈ keywords) : IsModule ("r#" ++ word)
  | reserved {word : String} (mem : word ∈ reservedWords) : IsModule (word ++ "_")

theorem isStart_of_mem_head? (h : isIdentifier name = true) (hc : c ∈ name.toList.head?) :
    isStart c = true := by
  unfold isIdentifier at h
  cases hname : name.toList with
  | nil => rw [hname] at hc; cases hc
  | cons first rest =>
    rw [hname] at h hc
    simp only [identifierChars, Bool.and_eq_true] at h
    obtain rfl := Option.some.inj hc
    exact h.1.1

/-- Identifiers without capitals are stems. -/
theorem isStem_of_isIdentifier (h : isIdentifier name = true)
    (hlower : ∀ c ∈ name.toList, c.isUpper = false) : IsStem name where
  ne_empty := by
    rintro rfl
    exact absurd h (by decide)
  plain c hc := by
    by_cases hne : c = '_'
    · exact Or.inr (Or.inr hne)
    · have hor := isLower_or_isDigit (isPart_of_mem h hc) hne (by simp [hlower c hc])
      exact (Bool.or_eq_true_iff.mp hor).imp_right Or.inl
  begins c hc := isDigit_of_isStart (isStart_of_mem_head? h hc)
  ne_underscore := by
    rintro rfl
    exact absurd h (by decide)

/-- **The snake case of an identifier is a stem.** -/
theorem isStem_snake (h : isIdentifier name = true) : IsStem (snake name) := by
  refine isStem_of_isIdentifier (isIdentifier_snake h) fun c hc => ?_
  rw [snake, String.toList_ofList] at hc
  exact isUpper_of_mem_snakeChars hc

/-- **A stem in escaped form names a module.** -/
theorem IsStem.isModule_escaped (h : IsStem name) : IsModule (escaped name) := by
  by_cases hreserved : name ∈ reservedWords
  · rw [escaped_of_reserved hreserved]
    exact .reserved hreserved
  · by_cases hkeyword : name ∈ keywords
    · rw [escaped_of_keyword hreserved hkeyword]
      exact .raw hkeyword
    · rw [escaped_of_plain hreserved hkeyword]
      exact .stem h (by simp [isKeyword, hreserved, hkeyword])

/-- Snake case keeps the characters of a name, in lower case, and adds nothing but
underscores. -/
theorem filter_snake (name : String) :
    (snake name).toList.filter (· != '_') = name.toLower.toList.filter (· != '_') := by
  have hsame : ((· != '_') ∘ Char.toLower : Char → Bool) = (· != '_') := by
    funext c
    simp [bne, toLower_eq_underscore_iff]
  rw [snake, String.toList_ofList, filter_snakeChars, String.toLower, String.toList_map,
    List.filter_map, hsame]

end Name

/-- No file is called like the directory it is in, or the one above. -/
theorem Message.nameOf?_fileName (message : Message) :
    Storage.nameOf? message.fileName = some message.fileName := by
  have hlast : message.fileName.toList.getLast? = some 's' := by
    rw [fileName, String.toList_append]
    simp
  have hne : ∀ step : String, step.toList.getLast? ≠ some 's' → message.fileName ≠ step := by
    rintro step h rfl
    exact h hlast
  rw [Storage.nameOf?, if_neg]
  rintro (heq | heq | heq)
  · exact hne "" (by decide) heq
  · exact hne "." (by decide) heq
  · exact hne ".." (by decide) heq

/-- **Generated names are legal.**  The name of every file is a stem with the extension,
which is one step on a path and leads neither to the directory it is in nor to the
one above.  The enum of every oneof is in a module that is a stem and no keyword,
the raw form of a keyword, or a reserved word with an underscore behind.  Snake case,
of which both are made, changes nothing the second time, and underscores aside it
only puts a name in lower case. -/
theorem Schema.generated_names_legal {messages : List Message} {schema : Schema}
    {settings : Settings} {files : List OutputFile} (hlink : link messages = .ok schema)
    (h : schema.generate settings = .ok files) :
    (∀ file ∈ files, ∃ stem, Name.IsStem stem ∧ file.name = stem ++ ".rs" ∧
      Storage.steps file.name = [file.name] ∧ Storage.nameOf? file.name = some file.name) ∧
    (∀ message ∈ schema.messages, ∀ oneof : Oneof,
      oneof.enumPath message =
        Name.escaped (Name.snake message.name) ++ "::" ++ Name.pascal oneof.name ∧
      Name.IsModule (Name.escaped (Name.snake message.name))) ∧
    ∀ name : String, Name.snake (Name.snake name) = Name.snake name ∧
      (Name.snake name).toList.filter (· != '_') = name.toLower.toList.filter (· != '_') := by
  have hidentifier : ∀ message ∈ schema.messages, Name.isIdentifier message.name = true :=
    fun message hmem => (wellFormed_of_link_eq_ok hlink hmem).name_identifier
  refine ⟨fun file hfile => ?_, fun message hmem oneof => ⟨rfl, ?_⟩, fun name => ⟨?_, ?_⟩⟩
  · obtain ⟨message, hmem, source, rfl⟩ :=
      exists_ofSource_of_mem (outputFiles_of_generate h) hfile
    have hslash := Message.slash_not_mem_fileName (hidentifier message hmem)
    exact ⟨Name.snake message.name, Name.isStem_snake (hidentifier message hmem), rfl,
      Storage.steps_of_not_mem hslash, message.nameOf?_fileName⟩
  · exact (Name.isStem_snake (hidentifier message hmem)).isModule_escaped
  · exact Name.snake_snake name
  · exact Name.filter_snake name

namespace Sample

/-- A message whose name is a keyword in snake case. -/
def keywordNamed : Message where
  name := "Type"
  fields := [{ Field.ofName "text" (.scalar .string) with oneof := some "body" }]
  oneofs := [⟨"body"⟩]

/-- A message whose name is a reserved word in snake case. -/
def reservedNamed : Message where
  name := "SELF"
  fields := [Field.ofName "id" (.scalar .int32)]

theorem link_keywords :
    Schema.link [keywordNamed, reservedNamed] = .ok ⟨[keywordNamed, reservedNamed]⟩ := by rfl

theorem generate_keywords :
    faultOf? (Schema.generate {} ⟨[keywordNamed, reservedNamed]⟩) = none := by rfl

end Sample

/-- The files of both are called by stems, and their modules by `r#type` and `self_`. -/
theorem Sample.keywords_escaped :
    Schema.link [keywordNamed, reservedNamed] = .ok ⟨[keywordNamed, reservedNamed]⟩ ∧
    ∃ files, Schema.generate {} ⟨[keywordNamed, reservedNamed]⟩ = .ok files ∧
      (∀ file ∈ files, ∃ stem, Name.IsStem stem ∧ file.name = stem ++ ".rs") ∧
      Oneof.enumPath keywordNamed ⟨"body"⟩ = "r#type" ++ "::" ++ "Body" ∧
      Name.IsModule "r#type" ∧ Name.IsModule "self_" := by
  obtain ⟨files, hfiles⟩ := faultOf?_eq_none_iff.mp generate_keywords
  obtain ⟨hnames, hmodules, -⟩ := Schema.generated_names_legal link_keywords hfiles
  obtain ⟨hpath, hkeyword⟩ := hmodules keywordNamed (by simp) ⟨"body"⟩
  obtain ⟨-, hreserved⟩ := hmodules reservedNamed (by simp) ⟨"body"⟩
  refine ⟨link_keywords, files, hfiles, fun file hfile => ?_, hpath, hkeyword, hreserved⟩
  obtain ⟨stem, hstem, hname, -⟩ := hnames file hfile
  exact ⟨stem, hstem, hname⟩

end MessageDump
