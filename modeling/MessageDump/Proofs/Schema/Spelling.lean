import MessageDump.Loading
import MessageDump.Proofs.Fault.Sequence
import MessageDump.Proofs.Schema.Linking
import MessageDump.Routine.FieldType
import Mathlib
/-! # Which fields a document can spell

A field has up to five texts for its kind, of which `type` may belong to the field,
to the elements of a list or to the values of a map, and all three read it with one
function.  This module says which kinds come out of them: the *flat* ones
(`Kind.Flat`), that is single values, lists of single values, and maps from keys to
single values.  `FieldDocument.Spells` says which texts a document must have for a
given field; what it has besides is not looked at.

`Kind.parse_eq_ok_iff` reads the function for single values,
`FieldDocument.toKind_eq_ok_iff` the texts of a kind and
`FieldDocument.toField_eq_ok_iff` the whole field.  Nothing deeper than a flat kind
comes out of a document, so that in a loaded schema a list always has a type, and a
field without a type is a map (`FieldType.resolve_eq_error_iff`).  The main
statement is `FieldDocument.encodes_flat`.
-/
namespace MessageDump

/-! ## Flat kinds -/

/-- The numbers without fractions. -/
def Scalar.integers : List Scalar :=
  [.int32, .sint32, .sfixed32, .uint32, .fixed32, .int64, .sint64, .sfixed64, .uint64, .fixed64]

/-- The kinds of a single value: a scalar, or an enum or message whose type has a
name. -/
inductive Kind.Single : Kind → Prop
  | scalar (type : Scalar) : Single (.scalar type)
  | enum {type : String} : type ≠ "" → Single (.enum type)
  | message {type : String} : type ≠ "" → Single (.message type)

/-- The kinds of keys. -/
inductive Kind.Key : Kind → Prop
  | bool : Key (.scalar .bool)
  | integer {type : Scalar} : type ∈ Scalar.integers → Key (.scalar type)
  | string : Key (.scalar .string)

/-- The kinds without lists or maps inside of lists or maps. -/
inductive Kind.Flat : Kind → Prop
  | single {kind : Kind} : kind.Single → Flat kind
  | list {element : Kind} : element.Single → Flat (.list element)
  | map {key value : Kind} : key.Key → value.Single → Flat (.map key value)

/-- The name of the enum or message type in which a kind ends. -/
def Kind.typeName? : Kind → Option String
  | .scalar _ => none
  | .enum type | .message type => some type
  | .list element => element.typeName?
  | .map _ value => value.typeName?

/-- The spelling of the elements of a list. -/
def Kind.elementName? : Kind → Option String
  | .list element => some element.name
  | _ => none

/-- The spelling of the keys of a map. -/
def Kind.keyName? : Kind → Option String
  | .map key _ => some key.name
  | _ => none

/-- The spelling of the values of a map. -/
def Kind.valueName? : Kind → Option String
  | .map _ value => some value.name
  | _ => none

/-- The document that spells a field, with no more texts than it needs. -/
def FieldDocument.ofField (field : Field) : FieldDocument where
  name := field.name
  kind := field.kind.name
  jsonName := some field.jsonName
  optional := field.optional
  weak := field.weak
  oneof := field.oneof
  type := field.kind.typeName?
  element := field.kind.elementName?
  key := field.kind.keyName?
  value := field.kind.valueName?

/-- A spelling and the name of a type make a kind of single values.  A kind that has
no type can do without the name. -/
structure Kind.SpelledBy (spelling : String) (type? : Option String) (kind : Kind) : Prop where
  single : kind.Single
  name_eq : kind.name = spelling
  type_eq : ∀ type, kind.typeName? = some type → type? = some type

/-- A document has the texts that a kind needs. -/
structure FieldDocument.SpellsKind (doc : FieldDocument) (kind : Kind) : Prop where
  flat : kind.Flat
  name_eq : kind.name = doc.kind
  type_eq : ∀ type, kind.typeName? = some type → doc.type = some type
  element_eq : ∀ spelling, kind.elementName? = some spelling → doc.element = some spelling
  key_eq : ∀ spelling, kind.keyName? = some spelling → doc.key = some spelling
  value_eq : ∀ spelling, kind.valueName? = some spelling → doc.value = some spelling

/-- A document spells a field. -/
structure FieldDocument.Spells (doc : FieldDocument) (field : Field) : Prop where
  name_eq : field.name = doc.name
  kind : doc.SpellsKind field.kind
  /-- A field without a JSON name of its own has the conventional one. -/
  jsonName_eq : field.jsonName = doc.jsonName.getD (Name.camel doc.name)
  optional_eq : field.optional = doc.optional
  weak_eq : field.weak = doc.weak
  oneof_eq : field.oneof = doc.oneof

/-! ## Single values and keys -/

section
variable {spelling : String} {type? : Option String} {type : String} {kind : Kind}

theorem Scalar.name_ne_of_ofName?_eq_none (h : Scalar.ofName? spelling = none) (s : Scalar) :
    s.name ≠ spelling := by
  rintro rfl
  rw [Scalar.ofName?_name] at h
  cases h

/-- A single value is not spelled like a list or a map. -/
theorem Kind.Single.name_ne (h : kind.Single) (hscalar : Scalar.ofName? spelling = none)
    (henum : "enum" ≠ spelling) (hmessage : "message" ≠ spelling) : kind.name ≠ spelling := by
  cases h with
  | scalar s => exact Scalar.name_ne_of_ofName?_eq_none hscalar s
  | enum _ => exact henum
  | message _ => exact hmessage

theorem Kind.Key.single (h : kind.Key) : kind.Single := by
  cases h <;> exact .scalar _

/-- The name of a type is of no use to a key. -/
theorem Kind.Key.typeName?_eq_none (h : kind.Key) : kind.typeName? = none := by
  cases h <;> rfl

theorem Kind.isKey_iff : kind.isKey = true ↔ kind.Key := by
  constructor
  · intro h
    cases kind with
    | scalar s =>
      cases s with
      | bool => exact .bool
      | string => exact .string
      | float | double | bytes => cases h
      | _ => exact .integer (by decide)
    | _ => cases h
  · intro h
    cases h with
    | bool | string => rfl
    | @integer s hs =>
      have hall : ∀ s ∈ Scalar.integers, (Kind.scalar s).isKey = true := by decide
      exact hall s hs

theorem Kind.requireType_eq_ok_iff (what : String) :
    Kind.requireType what type? = .ok type ↔ type? = some type ∧ type ≠ "" := by
  cases type? with
  | none => simp [Kind.requireType]
  | some given =>
    rw [Kind.requireType]
    by_cases hempty : given = ""
    · rw [if_pos hempty]
      refine ⟨fun h => (nomatch h), fun ⟨hgiven, hne⟩ => absurd ?_ hne⟩
      rw [← Option.some.inj hgiven, hempty]
    · rw [if_neg hempty, Except.ok.injEq, Option.some.injEq]
      exact ⟨fun h => ⟨h, h ▸ hempty⟩, And.left⟩

/-- **What is read as a kind of single values**: its own spelling, with the name of
its type if it has one. -/
theorem Kind.parse_eq_ok_iff :
    Kind.parse spelling type? = .ok kind ↔ Kind.SpelledBy spelling type? kind := by
  constructor
  · intro h
    rw [Kind.parse] at h
    cases hscalar : Scalar.ofName? spelling with
    | some s =>
      simp only [hscalar, Except.ok.injEq] at h
      subst h
      exact ⟨.scalar s, Scalar.name_of_ofName? hscalar, nofun⟩
    | none =>
      simp only [hscalar] at h
      split at h
      · next hspelling =>
        obtain ⟨type, htype, rfl⟩ := map_eq_ok_iff.mp h
        obtain ⟨htype, hne⟩ := (Kind.requireType_eq_ok_iff _).mp htype
        exact ⟨.enum hne, hspelling.symm, fun _ hname => htype.trans hname⟩
      · split at h
        · next hspelling =>
          obtain ⟨type, htype, rfl⟩ := map_eq_ok_iff.mp h
          obtain ⟨htype, hne⟩ := (Kind.requireType_eq_ok_iff _).mp htype
          exact ⟨.message hne, hspelling.symm, fun _ hname => htype.trans hname⟩
        · cases h
  · rintro ⟨hsingle, rfl, htype⟩
    cases hsingle with
    | scalar s => rw [Kind.parse, Kind.name, Scalar.ofName?_name]
    | @enum type hne =>
      have hrequired := (Kind.requireType_eq_ok_iff "enum").mpr ⟨htype type rfl, hne⟩
      exact congrArg (Except.map Kind.enum) hrequired
    | @message type hne =>
      have hrequired := (Kind.requireType_eq_ok_iff "message").mpr ⟨htype type rfl, hne⟩
      exact congrArg (Except.map Kind.message) hrequired

end

/-! ## The texts of a kind -/

namespace FieldDocument
variable {doc : FieldDocument} {kind : Kind} {field : Field}

theorem spellsKind_iff_of_list (hlist : doc.kind = "list") :
    doc.SpellsKind kind ↔ ∃ spelling element, doc.element = some spelling ∧
      Kind.SpelledBy spelling doc.type element ∧ .list element = kind := by
  constructor
  · intro h
    cases h.flat with
    | single hsingle =>
      exact absurd (h.name_eq.trans hlist) (hsingle.name_ne rfl (by decide) (by decide))
    | @list element hsingle =>
      exact ⟨element.name, element, h.element_eq _ rfl, ⟨hsingle, rfl, h.type_eq⟩, rfl⟩
    | map _ _ => exact absurd (h.name_eq.trans hlist) (by decide : "map" ≠ "list")
  · rintro ⟨_, element, helement, ⟨hsingle, rfl, htype⟩, rfl⟩
    exact ⟨.list hsingle, hlist.symm, htype, fun _ hname => helement.trans hname, nofun, nofun⟩

theorem spellsKind_iff_of_map (hmap : doc.kind = "map") :
    doc.SpellsKind kind ↔ ∃ keyName valueName key value, doc.key = some keyName ∧
      doc.value = some valueName ∧ Kind.SpelledBy keyName none key ∧ key.Key ∧
      Kind.SpelledBy valueName doc.type value ∧ .map key value = kind := by
  constructor
  · intro h
    cases h.flat with
    | single hsingle =>
      exact absurd (h.name_eq.trans hmap) (hsingle.name_ne rfl (by decide) (by decide))
    | list _ => exact absurd (h.name_eq.trans hmap) (by decide : "list" ≠ "map")
    | @map key value hkey hsingle =>
      have hnone : ∀ type, key.typeName? = some type → none = some type :=
        fun type htype => hkey.typeName?_eq_none.symm.trans htype
      exact ⟨key.name, value.name, key, value, h.key_eq _ rfl, h.value_eq _ rfl,
        ⟨hkey.single, rfl, hnone⟩, hkey, ⟨hsingle, rfl, h.type_eq⟩, rfl⟩
  · rintro ⟨_, _, key, value, hkeyName, hvalueName, ⟨_, rfl, _⟩, hkey, ⟨hsingle, rfl, htype⟩, rfl⟩
    exact ⟨.map hkey hsingle, hmap.symm, htype, nofun,
      fun _ hname => hkeyName.trans hname, fun _ hname => hvalueName.trans hname⟩

theorem spellsKind_iff_of_ne (hlist : doc.kind ≠ "list") (hmap : doc.kind ≠ "map") :
    doc.SpellsKind kind ↔ Kind.SpelledBy doc.kind doc.type kind := by
  constructor
  · intro h
    cases h.flat with
    | single hsingle => exact ⟨hsingle, h.name_eq, h.type_eq⟩
    | list _ => exact absurd h.name_eq.symm hlist
    | map _ _ => exact absurd h.name_eq.symm hmap
  · rintro ⟨hsingle, hname, htype⟩
    refine ⟨.single hsingle, hname, htype, ?_, ?_, ?_⟩ <;> cases hsingle <;> exact nofun

/-- **Which kind a document spells**: the one whose texts it has, if that is flat. -/
theorem toKind_eq_ok_iff : doc.toKind = .ok kind ↔ doc.SpellsKind kind := by
  rw [toKind]
  by_cases hlist : doc.kind = "list"
  · rw [if_pos hlist, spellsKind_iff_of_list hlist]
    cases doc.element with
    | none => simp
    | some spelling => simp [map_eq_ok_iff, Kind.parse_eq_ok_iff]
  by_cases hmap : doc.kind = "map"
  · rw [if_neg hlist, if_pos hmap, spellsKind_iff_of_map hmap]
    cases doc.key with
    | none => simp
    | some keyName =>
      cases doc.value with
      | none => simp
      | some valueName =>
        simp only [bind_eq_ok, if_error_eq_ok_iff, map_eq_ok_iff, Kind.parse_eq_ok_iff,
          Kind.isKey_iff, Option.some.injEq]
        constructor
        · rintro ⟨key, hkeyName, hkey, value, hvalueName, hkind⟩
          exact ⟨_, _, key, value, rfl, rfl, hkeyName, hkey, hvalueName, hkind⟩
        · rintro ⟨_, _, key, value, rfl, rfl, hkeyName, hkey, hvalueName, hkind⟩
          exact ⟨key, hkeyName, hkey, value, hvalueName, hkind⟩
  · rw [if_neg hlist, if_neg hmap, spellsKind_iff_of_ne hlist hmap, Kind.parse_eq_ok_iff]

/-- **Which field a document spells.** -/
theorem toField_eq_ok_iff : doc.toField = .ok field ↔ doc.Spells field := by
  simp only [toField, bind_eq_ok, toKind_eq_ok_iff, pure_eq_ok]
  constructor
  · rintro ⟨kind, hkind, rfl⟩
    exact ⟨rfl, hkind, rfl, rfl, rfl, rfl⟩
  · rintro ⟨hname, hkind, hjsonName, hoptional, hweak, honeof⟩
    refine ⟨field.kind, hkind, ?_⟩
    rw [← hjsonName, ← hname, ← hoptional, ← hweak, ← honeof]

/-- What stands under `element` is not looked at if the kind is no list. -/
example : ({ name := "size", kind := "int32", element := some "list" } : FieldDocument).toField =
    .ok (Field.ofName "size" (.scalar .int32)) := by rfl

/-- A field of a flat kind is spelled by its document. -/
theorem ofField_spells (hflat : field.kind.Flat) : (ofField field).Spells field :=
  ⟨rfl, ⟨hflat, rfl, fun _ h => h, fun _ h => h, fun _ h => h, fun _ h => h⟩, rfl, rfl, rfl, rfl⟩

end FieldDocument

/-! ## Loaded schemas -/

/-- A schema that comes out of a document: a text in one of the formats, or a file. -/
inductive Schema.Loaded (schema : Schema) : Prop
  | json {text : String} : Schema.ofJson text = .ok schema → Loaded schema
  | toml {text : String} : Schema.ofToml text = .ok schema → Loaded schema
  | file {read : FileReader} {path : String} : Schema.load read path = .ok schema → Loaded schema

section
variable {schema : Schema} {message : Message} {field : Field} {kind : Kind}

theorem Schema.exists_documents_of_ofParsed {ignoreSurplus : Bool} {parsed : Document.Parsed}
    (h : Schema.ofParsed ignoreSurplus parsed = .ok schema) :
    ∃ documents, Schema.ofDocuments documents = .ok schema := by
  obtain ⟨root, _, h⟩ := bind_eq_ok.mp h
  exact ⟨_, mapError_eq_ok_iff.mp h⟩

theorem Schema.Loaded.exists_documents (h : schema.Loaded) :
    ∃ documents, Schema.ofDocuments documents = .ok schema := by
  cases h with
  | json h => exact Schema.exists_documents_of_ofParsed h
  | toml h => exact Schema.exists_documents_of_ofParsed h
  | @file read path h =>
    obtain ⟨text, _, h⟩ := bind_eq_ok.mp h
    split at h
    · exact Schema.exists_documents_of_ofParsed h
    · exact Schema.exists_documents_of_ofParsed h
    · cases h

/-- Every field of a schema made from documents is spelled by one of them. -/
theorem Schema.exists_spells {documents : List MessageDocument}
    (h : Schema.ofDocuments documents = .ok schema) (hmessage : message ∈ schema.messages)
    (hfield : field ∈ message.fields) :
    ∃ document ∈ documents, ∃ doc ∈ document.fields, doc.Spells field := by
  obtain ⟨messages, hmessages, hlink⟩ := bind_eq_ok.mp h
  obtain ⟨_, rfl⟩ := Schema.link_eq_ok_iff.mp hlink
  obtain ⟨document, hdocument, hmade⟩ := exists_mem_of_forall₂ (mapM_eq_ok_iff.mp hmessages) hmessage
  obtain ⟨fields, hfields, hmade⟩ := bind_eq_ok.mp hmade
  obtain rfl := pure_eq_ok.mp hmade
  obtain ⟨doc, hdoc, hspelled⟩ := exists_mem_of_forall₂ (mapM_eq_ok_iff.mp hfields) hfield
  exact ⟨document, hdocument, doc, hdoc,
    FieldDocument.toField_eq_ok_iff.mp (mapError_eq_ok_iff.mp hspelled)⟩

/-- Nothing but flat kinds is in a loaded schema. -/
theorem Schema.Loaded.flat (h : schema.Loaded) (hmessage : message ∈ schema.messages)
    (hfield : field ∈ message.fields) : field.kind.Flat := by
  obtain ⟨documents, hdocuments⟩ := h.exists_documents
  obtain ⟨_, _, doc, _, hspells⟩ := Schema.exists_spells hdocuments hmessage hfield
  exact hspells.kind.flat

/-- Among the flat kinds only maps have no type: the elements of a list are single
values, and every single value has one. -/
theorem FieldType.ofKind?_eq_none_iff (hflat : kind.Flat) (optional : Bool) :
    FieldType.ofKind? optional kind = none ↔ ∃ key value, kind = .map key value := by
  cases hflat with
  | single hsingle =>
    cases hsingle with
    | scalar s => cases s <;> simp [FieldType.ofKind?]
    | enum _ | message _ => simp [FieldType.ofKind?]
  | list hsingle => cases hsingle <;> simp [FieldType.ofKind?, FieldType.element?]
  | map _ _ => simp [FieldType.ofKind?]

theorem FieldType.resolve_eq_error_iff (hflat : field.kind.Flat) {fault : Unsupported} :
    FieldType.resolve message field = .error fault ↔
      field.weak = false ∧ (∃ key value, field.kind = .map key value) ∧
      fault = .kind message.name field.name "map" .typeMapping := by
  rw [← FieldType.ofKind?_eq_none_iff hflat field.optional, FieldType.resolve]
  cases hweak : field.weak with
  | true => simp
  | false =>
    cases htype : FieldType.ofKind? field.optional field.kind with
    | some type => simp
    | none =>
      obtain ⟨key, value, hkind⟩ := (FieldType.ofKind?_eq_none_iff hflat _).mp htype
      simp [hkind, Kind.name, eq_comm]

end

/-- **Documents spell exactly the fields of flat kinds.**  The document of a field of
a flat kind gives the field back; every document that is accepted spells its field,
whose kind is flat and whose other parts are those of the document; and so a field
of a loaded schema has no type exactly if it is a map and not weak. -/
theorem FieldDocument.encodes_flat :
    (∀ field : Field, field.kind.Flat → (FieldDocument.ofField field).toField = .ok field) ∧
    (∀ (doc : FieldDocument) (field : Field), doc.toField = .ok field ↔ doc.Spells field) ∧
    ∀ schema : Schema, schema.Loaded → ∀ message ∈ schema.messages, ∀ field ∈ message.fields,
      ∀ fault, FieldType.resolve message field = .error fault ↔
        field.weak = false ∧ (∃ key value, field.kind = .map key value) ∧
        fault = .kind message.name field.name "map" .typeMapping := by
  refine ⟨fun field hflat => ?_, fun doc field => ?_, ?_⟩
  · exact FieldDocument.toField_eq_ok_iff.mpr (FieldDocument.ofField_spells hflat)
  · exact FieldDocument.toField_eq_ok_iff
  · intro schema hloaded message hmessage field hfield fault
    exact FieldType.resolve_eq_error_iff (hloaded.flat hmessage hfield)

namespace Sample

/-- A map, the kind with the most texts. -/
def covers : Field where
  name := "covers"
  jsonName := "covers"
  kind := .map (.scalar .string) (.message "Album")

/-- The message with this field. -/
def album : Message where
  name := "Album"
  fields := [covers]

/-- A document of this message. -/
def albumToml : String :=
  "[[messages]]\nname = 'Album'\n[[messages.fields]]\nname = 'covers'\nkind = 'map'\n" ++
  "key = 'string'\nvalue = 'message'\ntype = 'Album'\n"

theorem flat_covers : covers.kind.Flat := .map .string (.message (by decide))

theorem loaded_album : Schema.Loaded ⟨[album]⟩ :=
  .toml (show Schema.ofToml albumToml = .ok ⟨[album]⟩ by cbv)

end Sample

/-- The document of a map gives the map back, and its schema loads but has no type
for it. -/
theorem Sample.covers_spelled :
    (FieldDocument.ofField covers).toField = .ok covers ∧
    FieldType.resolve album covers = .error (.kind "Album" "covers" "map" .typeMapping) := by
  obtain ⟨hencodes, _, hresolve⟩ := FieldDocument.encodes_flat
  refine ⟨hencodes covers flat_covers, ?_⟩
  exact (hresolve _ loaded_album album List.mem_cons_self covers List.mem_cons_self _).mpr
    ⟨rfl, ⟨_, _, rfl⟩, rfl⟩

end MessageDump
