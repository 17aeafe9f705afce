import MessageDump.Loading
import MessageDump.Proofs.Document.Tree
import Mathlib
/-! # The two formats of schema documents

A schema may be written in either of two formats.  What they can both say, that is
texts, truth values, sequences and maps without repeated keys, they say alike: a
document is refused in both formats or in neither, and what is not refused makes the
same messages, whatever the order of the keys (`Schema.ofParsed_alike`).  One reader
ignores the surplus items of a record that is written as a sequence and the other
does not, so that there must be none (`Schema.NoSurplus`).
-/
namespace MessageDump

open Document (Node Record Shape Slot)

/-- No record in a message that is written as a sequence has surplus items. -/
structure MessageDocument.NoSurplus (node : Node) : Prop where
  message : (record false).Fits node
  fields : ∀ field ∈ (record false).itemsAt "fields" node, FieldDocument.record.Fits field
  oneofs : ∀ oneof ∈ (record false).itemsAt "oneofs" node, oneofRecord.Fits oneof

/-- No record in a schema that is written as a sequence has surplus items. -/
structure Schema.NoSurplus (root : Node) : Prop where
  schema : (record false).Fits root
  messages : ∀ message ∈ (record false).itemsAt "messages" root, MessageDocument.NoSurplus message

/-- Two attempts to load a schema end alike: neither document has the shape of a
schema, or both schemas have the same fault, or both are the same. -/
inductive Schema.EndAlike : Except Fault Schema → Except Fault Schema → Prop
  | unreadable (fault fault' : DocumentFault) :
      EndAlike (.error (.document fault)) (.error (.document fault'))
  | invalid (fault : SchemaFault) : EndAlike (.error (.schema fault)) (.error (.schema fault))
  | loaded (schema : Schema) : EndAlike (.ok schema) (.ok schema)

/-! ## The same documents are accepted -/

namespace FieldDocument

theorem shape_agree (b b' : Bool) :
    Shape.Agree record.Fits (record.shape b) (record.shape b') := by
  have hparts : ∀ slot ∈ record.slots, Shape.Agree (fun _ => True) slot.shape slot.shape := by
    simp [record, Shape.text_agree, Shape.optionalText_agree, Shape.flag_agree]
  have hslots := List.forall₂_same.mpr fun slot hslot =>
    (⟨rfl, rfl, hparts slot hslot⟩ : Slot.Alike (fun _ _ => True) slot slot)
  exact Record.shape_agree_of_fits (by decide) hslots b b'

end FieldDocument

namespace MessageDocument

theorem oneof_shape_agree (b b' : Bool) :
    Shape.Agree oneofRecord.Fits (oneofRecord.shape b) (oneofRecord.shape b') :=
  Record.shape_agree_of_fits (by decide) (.cons ⟨rfl, rfl, Shape.text_agree⟩ .nil) b b'

/-- What `NoSurplus` says of the part of a message under a key. -/
def PartFits (key : String) (part : Node) : Prop :=
  (key = "fields" → ∀ field ∈ part.items, FieldDocument.record.Fits field) ∧
  (key = "oneofs" → ∀ oneof ∈ part.items, oneofRecord.Fits oneof)

theorem names_record (b : Bool) : (record b).names = names := by
  simp only [names, record, Record.names, List.map_cons, List.map_nil]

theorem length_slots (b : Bool) : (record b).slots.length = (record false).slots.length := by
  simp only [record, List.length_cons]

theorem nodup_names : names.Nodup := by
  rw [names, Record.names, record]
  decide

theorem shape_agree (b b' : Bool) :
    Shape.Agree NoSurplus ((record b).shape b) ((record b').shape b') := by
  have hslots : List.Forall₂ (Slot.Alike PartFits) (record b).slots (record b').slots := by
    refine .cons ⟨rfl, rfl, ?_⟩ (.cons ⟨rfl, rfl, ?_⟩ (.cons ⟨rfl, rfl, ?_⟩ .nil))
    · intro node node' hsame _
      exact Shape.text_agree hsame trivial
    · intro node node' hsame hfits
      exact Shape.sequence_agree (FieldDocument.shape_agree b b') hsame (hfits.1 rfl)
    · intro node node' hsame hfits
      exact Shape.sequence_agree (oneof_shape_agree b b') hsame (hfits.2 rfl)
  intro node node' hsame hfits
  refine Record.shape_agree (names_record b ▸ nodup_names) hslots b b' hsame
    ⟨hfits.message.congr (length_slots b).symm, fun key part hpart => ?_⟩
  rw [names_record] at hpart
  have hitems : (record false).itemsAt key node = part.items := Record.itemsAt_of_part? hpart
  constructor
  · rintro rfl
    exact hitems ▸ hfits.fields
  · rintro rfl
    exact hitems ▸ hfits.oneofs

end MessageDocument

namespace Schema

theorem names_record (b : Bool) : (record b).names = ["messages"] := by
  simp only [record, Record.names, List.map_cons, List.map_nil]

theorem shape_agree (b b' : Bool) :
    Shape.Agree NoSurplus ((record b).shape b) ((record b').shape b') := by
  have hslots : List.Forall₂
      (Slot.Alike fun key part =>
        key = "messages" → ∀ message ∈ part.items, MessageDocument.NoSurplus message)
      (record b).slots (record b').slots := by
    refine .cons ⟨rfl, rfl, ?_⟩ .nil
    intro node node' hsame hfits
    exact Shape.sequence_agree (MessageDocument.shape_agree b b') hsame (hfits rfl)
  have hnames : (record b).names.Nodup := names_record b ▸ List.nodup_singleton _
  have hlength : (record false).slots.length = (record b).slots.length := by
    simp only [record, List.length_cons]
  intro node node' hsame hfits
  refine Record.shape_agree hnames hslots b b' hsame
    ⟨hfits.schema.congr hlength, fun key part hpart => ?_⟩
  rw [names_record, ← names_record false] at hpart
  have hitems : (record false).itemsAt key node = part.items := Record.itemsAt_of_part? hpart
  rintro rfl
  exact hitems ▸ hfits.messages

end Schema

/-! ## They make the same messages -/

section
variable {node node' : Node}

theorem Document.Node.SameTree.itemsAt_rel (h : node.SameTree node') (record : Record)
    (key : String) : List.Forall₂ Node.SameTree (record.itemsAt key node)
      (record.itemsAt key node') := by
  have hpart := h.part?_rel record.names key
  rw [Record.itemsAt, Record.itemsAt]
  generalize node.part? record.names key = part?, node'.part? record.names key = part?' at hpart ⊢
  cases hpart with
  | none => exact .nil
  | some hsame => exact hsame.items_rel

theorem Document.Node.SameTree.partText?_eq (h : node.SameTree node') (names : List String)
    (key : String) : (node.part? names key).bind Node.text? =
      (node'.part? names key).bind Node.text? :=
  Document.bind_eq_of_rel (h.part?_rel names key) fun _ _ => Node.SameTree.text?_eq

theorem Document.Node.SameTree.partIsTrue_eq (h : node.SameTree node') (names : List String)
    (key : String) : (node.part? names key).any Node.isTrue =
      (node'.part? names key).any Node.isTrue :=
  Document.any_eq_of_rel (h.part?_rel names key) fun _ _ => Node.SameTree.isTrue_eq

theorem FieldDocument.ofNode_eq (h : node.SameTree node') : ofNode node = ofNode node' := by
  simp only [ofNode, h.partText?_eq, h.partIsTrue_eq]

theorem MessageDocument.oneofOfNode_eq (h : node.SameTree node') :
    oneofOfNode node = oneofOfNode node' := by
  rw [oneofOfNode, oneofOfNode, h.partText?_eq]

theorem MessageDocument.ofNode_eq (h : node.SameTree node') : ofNode node = ofNode node' := by
  have hfields := map_eq_map_of_forall₂ (h.itemsAt_rel (record false) "fields")
    fun _ _ => FieldDocument.ofNode_eq
  have honeofs := map_eq_map_of_forall₂ (h.itemsAt_rel (record false) "oneofs")
    fun _ _ => oneofOfNode_eq
  have hname := h.partText?_eq names "name"
  rw [ofNode, ofNode, hname]
  exact congrArg₂ (MessageDocument.mk _) hfields honeofs

theorem Schema.documentsOfNode_eq (h : node.SameTree node') :
    documentsOfNode node = documentsOfNode node' :=
  map_eq_map_of_forall₂ (h.itemsAt_rel (record false) "messages")
    fun _ _ => MessageDocument.ofNode_eq

end

namespace Schema
variable {root root' : Node}

theorem ofParsed_of_accepted {b : Bool} (h : (record b).shape b root = .ok ()) :
    ofParsed b ⟨root, false⟩ = (ofDocuments (documentsOfNode root)).mapError .schema := by
  rw [ofParsed, Document.Parsed.check, h]
  rfl

theorem ofParsed_of_refused {b : Bool} {fault : DocumentFault}
    (h : (record b).shape b root = .error fault) :
    ofParsed b ⟨root, false⟩ = .error (.document fault) := by
  rw [ofParsed, Document.Parsed.check, h]
  rfl

theorem EndAlike.refl_mapError (result : Except SchemaFault Schema) :
    EndAlike (result.mapError .schema) (result.mapError .schema) := by
  cases result with
  | ok schema => exact .loaded schema
  | error fault => exact .invalid fault

/-- **What is read from a tree does not depend on the order of its keys**, nor on
whether the reader ignores surplus items, provided that there are none. -/
theorem ofParsed_alike (hsame : root.SameTree root') (hfits : NoSurplus root) (b b' : Bool) :
    EndAlike (ofParsed b ⟨root, false⟩) (ofParsed b' ⟨root', false⟩) := by
  have hagree := shape_agree b b' hsame hfits
  cases hshape : (record b).shape b root with
  | ok _ =>
    rw [ofParsed_of_accepted hshape, ofParsed_of_accepted (hagree.mp hshape),
      documentsOfNode_eq hsame]
    exact .refl_mapError _
  | error fault =>
    cases hshape' : (record b').shape b' root' with
    | ok _ => rw [hagree.mpr hshape'] at hshape; cases hshape
    | error fault' =>
      rw [ofParsed_of_refused hshape, ofParsed_of_refused hshape']
      exact .unreadable fault fault'

/-- **The two formats agree.**  Texts from which the two readers take one tree, with
its keys in any order, load alike. -/
theorem ofJson_ofToml_endAlike {json toml : String} (hjson : Document.Json.read json = ⟨root, false⟩)
    (htoml : Document.Toml.read toml = ⟨root', false⟩) (hsame : root.SameTree root')
    (hfits : NoSurplus root) : EndAlike (ofJson json) (ofToml toml) := by
  rw [ofJson, hjson, ofToml, htoml]
  exact ofParsed_alike hsame hfits false true

end Schema

namespace Sample

/-- A schema of one message, written in one format. -/
def photoJson : String :=
  "\x7b\"messages\": [\x7b\"name\": \"Photo\", \"fields\": [[\"url\", \"string\"]]\x7d]\x7d"

/-- The same schema, written in the other. -/
def photoToml : String :=
  "[[messages]]\nname = 'Photo'\nfields = [['url', 'string']]\n"

/-- The field of `photo`, written as a sequence. -/
def urlTree : Node := .array [.text "url", .text "string"] true

/-- The keys of `photo` and what stands under them. -/
def photoEntries : List (String × Node) :=
  [("name", .text "Photo"), ("fields", .array [urlTree] true)]

/-- The tree of a schema with one message of the given entries. -/
def schemaTree (entries : List (String × Node)) : Node :=
  .object [("messages", .array [.object entries true] true)] true

theorem sameTree_photo : (schemaTree photoEntries).SameTree (schemaTree photoEntries.reverse) := by
  have hurl : urlTree.SameTree urlTree := .array (.cons (.text _) (.cons (.text _) .nil))
  have hvalues : List.Forall₂ Node.SameTree (photoEntries.map Prod.snd)
      (photoEntries.map Prod.snd) :=
    .cons (.text "Photo") (.cons (.array (.cons hurl .nil)) .nil)
  have hmessage : (Node.object photoEntries true).SameTree (.object photoEntries.reverse true) :=
    .object (by decide) rfl hvalues (List.reverse_perm _).symm
  have hkeys : ["messages"].Nodup := List.nodup_singleton _
  exact @Node.SameTree.object _ [("messages", .array [.object photoEntries.reverse true] true)] _
    hkeys rfl (.cons (.array (.cons hmessage .nil)) .nil) (.refl _)

theorem noSurplus_photo : Schema.NoSurplus (schemaTree photoEntries) := by
  refine ⟨trivial, fun message hmessage => ?_⟩
  have hobject : message = .object photoEntries true := List.mem_singleton.mp hmessage
  subst hobject
  refine ⟨trivial, fun field hfield => ?_, fun oneof honeof => ?_⟩
  · have hurl : field = urlTree := List.mem_singleton.mp hfield
    subst hurl
    change 2 ≤ 10
    decide
  · cases honeof

end Sample

/-- The same message with its keys in two orders and in two formats, its field
written as a sequence. -/
theorem Sample.photo_loads_alike :
    Document.Json.read photoJson = ⟨schemaTree photoEntries, false⟩ ∧
    Document.Toml.read photoToml = ⟨schemaTree photoEntries.reverse, false⟩ ∧
    (schemaTree photoEntries).SameTree (schemaTree photoEntries.reverse) ∧
    Schema.NoSurplus (schemaTree photoEntries) ∧
    Schema.EndAlike (Schema.ofJson photoJson) (Schema.ofToml photoToml) := by
  have hjson : Document.Json.read photoJson = ⟨schemaTree photoEntries, false⟩ := by cbv
  have htoml : Document.Toml.read photoToml = ⟨schemaTree photoEntries.reverse, false⟩ := by cbv
  exact ⟨hjson, htoml, sameTree_photo, noSurplus_photo,
    Schema.ofJson_ofToml_endAlike hjson htoml sameTree_photo noSurplus_photo⟩

end MessageDump
