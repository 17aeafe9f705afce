import MessageDump.Document.Shape
import MessageDump.Proofs.Fault.Sequence
import Mathlib.Data.List.Nodup
import Mathlib.Data.List.Forall2
import Mathlib.Data.Option.Basic
/-! # One tree, its keys in any order

Two readers may hand out one tree with the keys of its maps in different orders.
What is found in such a tree by name is the same, and so is whether it passes a
check: a shape reports the first fault in the order of the text, but that there is
one does not depend on the order.  For a record this is seen from what its check
demands (`Record.shape_object_eq_ok_iff`, `Record.shape_array_eq_ok_iff`), where no
order is left.  Readers also differ in whether they ignore the surplus items of a
record that is written as a sequence, so that their checks agree only where there
are none (`Record.shape_agree`).
-/
namespace MessageDump
namespace Document

/-- Two nodes hold one tree of texts, truth values and integers, without a key that
is repeated in its map, but may have the keys of each map in different orders. -/
inductive Node.SameTree : Node → Node → Prop
  | boolean (value : Bool) : SameTree (.boolean value) (.boolean value)
  | integer (value : Int) : SameTree (.integer value) (.integer value)
  | text (value : String) : SameTree (.text value) (.text value)
  | array {items items' : List Node} : List.Forall₂ SameTree items items' →
      SameTree (.array items true) (.array items' true)
  /-- The same values under the same keys, and then these entries in another order. -/
  | object {entries matched entries' : List (String × Node)} :
      (entries.map Prod.fst).Nodup →
      entries.map Prod.fst = matched.map Prod.fst →
      List.Forall₂ SameTree (entries.map Prod.snd) (matched.map Prod.snd) →
      matched.Perm entries' → SameTree (.object entries true) (.object entries' true)

/-! ## What is found in a tree -/

section Lookup
variable {α β : Type} {R : α → β → Prop}

theorem lookup_eq_some_iff_mem {entries : List (String × α)} (hkeys : (entries.map Prod.fst).Nodup)
    {key : String} {value : α} : entries.lookup key = some value ↔ (key, value) ∈ entries := by
  induction entries with
  | nil => simp
  | cons entry rest ih =>
    obtain ⟨hnot, hrest⟩ := List.nodup_cons.mp hkeys
    rw [List.lookup_cons]
    by_cases hkey : key = entry.1
    · subst hkey
      have habsent : (entry.1, value) ∉ rest := fun hmem =>
        hnot (List.mem_map.mpr ⟨_, hmem, rfl⟩)
      simp [habsent, Prod.ext_iff, eq_comm]
    · have hne : (key, value) ≠ entry := fun heq => hkey (congrArg Prod.fst heq)
      rw [beq_eq_false_iff_ne.mpr hkey, ih hrest]
      simp [hne]

/-- Without repeated keys, the order of entries does not matter for what is found. -/
theorem lookup_eq_of_perm {entries entries' : List (String × α)}
    (hkeys : (entries.map Prod.fst).Nodup) (hperm : entries.Perm entries') (key : String) :
    entries.lookup key = entries'.lookup key := by
  have hkeys' : (entries'.map Prod.fst).Nodup := (hperm.map Prod.fst).nodup_iff.mp hkeys
  refine Option.ext fun value => ?_
  rw [lookup_eq_some_iff_mem hkeys, lookup_eq_some_iff_mem hkeys', hperm.mem_iff]

theorem lookup_rel {entries : List (String × α)} {entries' : List (String × β)}
    (hkeys : entries.map Prod.fst = entries'.map Prod.fst)
    (hvalues : List.Forall₂ R (entries.map Prod.snd) (entries'.map Prod.snd)) (key : String) :
    Option.Rel R (entries.lookup key) (entries'.lookup key) := by
  induction entries generalizing entries' with
  | nil =>
    obtain rfl := List.map_eq_nil_iff.mp hkeys.symm
    exact .none
  | cons entry rest ih =>
    cases entries' with
    | nil => cases hkeys
    | cons entry' rest' =>
      obtain ⟨hentry, hkeys⟩ := List.cons_eq_cons.mp hkeys
      obtain ⟨hvalue, hvalues⟩ := List.forall₂_cons.mp hvalues
      rw [List.lookup_cons, List.lookup_cons, ← hentry]
      by_cases hkey : key = entry.1
      · rw [beq_iff_eq.mpr hkey]
        exact .some hvalue
      · rw [beq_eq_false_iff_ne.mpr hkey]
        exact ih hkeys hvalues

theorem getElem?_rel {items : List α} {items' : List β} (h : List.Forall₂ R items items') (i : Nat) :
    Option.Rel R items[i]? items'[i]? := by
  induction h generalizing i with
  | nil => exact .none
  | cons hitem _ ih =>
    cases i with
    | zero => exact .some hitem
    | succ i => simpa using ih i

theorem forall_mem_iff_of_forall₂ {P : α → Prop} {Q : β → Prop} {items : List α}
    {items' : List β} (h : List.Forall₂ R items items')
    (hPQ : ∀ a ∈ items, ∀ b, R a b → (P a ↔ Q b)) : (∀ a ∈ items, P a) ↔ ∀ b ∈ items', Q b := by
  induction h with
  | nil => simp
  | cons hab _ ih =>
    obtain ⟨hfirst, hrest⟩ := List.forall_mem_cons.mp hPQ
    rw [List.forall_mem_cons, List.forall_mem_cons, hfirst _ hab, ih hrest]

section
variable {x : Option α} {y : Option β} (h : Option.Rel R x y)
include h

theorem isSome_eq_of_rel : x.isSome = y.isSome := by
  cases h <;> rfl

theorem bind_eq_of_rel {γ : Type} {f : α → Option γ} {g : β → Option γ}
    (hfg : ∀ a b, R a b → f a = g b) : x.bind f = y.bind g := by
  cases h with
  | none => rfl
  | some hab => exact hfg _ _ hab

theorem any_eq_of_rel {q : α → Bool} {r : β → Bool} (hqr : ∀ a b, R a b → q a = r b) :
    x.any q = y.any r := by
  cases h with
  | none => rfl
  | some hab => exact hqr _ _ hab

end

end Lookup

namespace Node
variable {node node' : Node}

theorem SameTree.text?_eq (h : SameTree node node') : node.text? = node'.text? := by
  cases h <;> rfl

theorem SameTree.isTrue_eq (h : SameTree node node') : node.isTrue = node'.isTrue := by
  cases h <;> rfl

theorem SameTree.items_rel (h : SameTree node node') :
    List.Forall₂ SameTree node.items node'.items := by
  cases h with
  | array hitems => exact hitems
  | _ => exact .nil

/-- A part of a record is the same on both sides, whichever way it is written. -/
theorem SameTree.part?_rel (h : SameTree node node') (names : List String) (key : String) :
    Option.Rel SameTree (node.part? names key) (node'.part? names key) := by
  cases h with
  | array hitems => exact getElem?_rel hitems _
  | object hnodup hkeys hvalues hperm =>
    rw [part?, part?, ← lookup_eq_of_perm (hkeys ▸ hnodup) hperm]
    exact lookup_rel hkeys hvalues key
  | _ => exact .none

end Node

/-! ## What a check demands -/

theorem forM_eq_ok_iff {α φ : Type} {f : α → Except φ Unit} {items : List α} :
    items.forM f = .ok () ↔ ∀ item ∈ items, f item = .ok () := by
  induction items with
  | nil => simp [List.forM, pure_eq_ok]
  | cons item rest ih =>
    simp only [List.forM, bind_eq_ok, List.forall_mem_cons]
    constructor
    · rintro ⟨_, hitem, hrest⟩
      exact ⟨hitem, ih.mp hrest⟩
    · rintro ⟨hitem, hrest⟩
      exact ⟨(), hitem, ih.mpr hrest⟩

theorem Shape.sequence_eq_ok_iff {item : Shape} {items : List Node} :
    Shape.sequence item (.array items true) = .ok () ↔ ∀ node ∈ items, item node = .ok () := by
  rw [Shape.sequence, bind_eq_ok, ← forM_eq_ok_iff]
  constructor
  · rintro ⟨_, hitems, _⟩
    exact hitems
  · intro hitems
    exact ⟨(), hitems, rfl⟩

/-- What may stand for a part of a record: what has its shape, or nothing if it can
be left out. -/
def Slot.Accepts (slot : Slot) : Option Node → Prop
  | some node => slot.shape node = .ok ()
  | none => slot.required = false

namespace Record
variable {record : Record} {entries : List (String × Node)} {items : List Node}

/-- What a record demands of a node that is written as one: that it has no parts
but those of the record, and that these can stand there. -/
structure HeldBy (record : Record) (node : Node) : Prop where
  known : ∀ key, (node.part? record.names key).isSome → key ∈ record.names
  accepted : ∀ slot ∈ record.slots, slot.Accepts (node.part? record.names slot.name)

/-- The items under a key of a record. -/
def itemsAt (record : Record) (key : String) (node : Node) : List Node :=
  ((node.part? record.names key).map Node.items).getD []

theorem itemsAt_of_part? {key : String} {node part : Node}
    (h : node.part? record.names key = some part) : record.itemsAt key node = part.items := by
  rw [itemsAt, h]
  rfl

/-- There are no surplus items in a record that is written as a sequence. -/
def Fits (record : Record) : Node → Prop
  | .array items _ => items.length ≤ record.slots.length
  | _ => True

/-- Only the number of its parts matters for what fits a record. -/
theorem Fits.congr {record' : Record} {node : Node} (h : record.Fits node)
    (hlength : record.slots.length = record'.slots.length) : record'.Fits node := by
  cases node with
  | array items closed => exact Nat.le_trans h (Nat.le_of_eq hlength)
  | _ => trivial

/-- The keys of a map must be known, new, and have the shape of their part behind
them. -/
theorem checkEntries_eq_ok_iff {met result : List String} :
    record.checkEntries met entries = .ok result ↔
      result = met ++ entries.map Prod.fst ∧ (entries.map Prod.fst).Nodup ∧
      (∀ e ∈ entries, e.1 ∉ met) ∧
      ∀ e ∈ entries, ∃ slot, (record.slots.find? fun slot => slot.name = e.1) = some slot ∧
        slot.shape e.2 = .ok () := by
  -- each key joins those met, so the induction is for all of these
  induction entries generalizing met with
  | nil => simp [checkEntries, eq_comm]
  | cons entry rest ih =>
    obtain ⟨key, node⟩ := entry
    rw [checkEntries]
    split
    · next hnone => simp [hnone]
    · next slot hslot =>
      by_cases hmet : key ∈ met
      · simp [hmet]
      · rw [if_neg (by simpa using hmet), bind_eq_ok]
        simp only [ih, List.map_cons, List.forall_mem_cons, hslot, Option.some.injEq,
          exists_eq_left', List.nodup_cons, List.mem_append, List.mem_singleton, not_or,
          List.append_assoc, List.singleton_append]
        constructor
        · rintro ⟨_, hshape, hresult, hnodup, hnew, hrest⟩
          refine ⟨hresult, ⟨?_, hnodup⟩, ⟨hmet, fun e he => (hnew e he).1⟩, hshape, hrest⟩
          intro hmem
          obtain ⟨e, he, heq⟩ := List.mem_map.mp hmem
          exact (hnew e he).2 heq
        · rintro ⟨hresult, ⟨hnot, hnodup⟩, ⟨_, hnew⟩, hshape, hrest⟩
          refine ⟨(), hshape, hresult, hnodup, fun e he => ⟨hnew e he, ?_⟩, hrest⟩
          exact fun heq => hnot (heq ▸ List.mem_map_of_mem he)

theorem checkMissing_eq_ok_iff {met : List String} :
    record.checkMissing met = .ok () ↔
      ∀ slot ∈ record.slots, slot.required = true → slot.name ∈ met := by
  unfold checkMissing firstRequired?
  split
  · next slot hslot =>
    have hrequired := List.find?_some hslot
    obtain ⟨hmem, hnew⟩ := List.mem_filter.mp (List.mem_of_find?_eq_some hslot)
    constructor
    · intro h
      cases h
    · intro h
      exact absurd (h slot hmem hrequired) (by simpa using hnew)
  · next hnone =>
    refine iff_of_true rfl fun slot hmem hrequired => ?_
    by_contra hnew
    have hkept : slot ∈ record.slots.filter fun slot => !met.contains slot.name :=
      List.mem_filter.mpr ⟨hmem, by simpa using hnew⟩
    exact List.find?_eq_none.mp hnone slot hkept hrequired

theorem find?_name_eq_some_iff (hnames : record.names.Nodup) {key : String} {slot : Slot} :
    (record.slots.find? fun slot => slot.name = key) = some slot ↔
      slot ∈ record.slots ∧ slot.name = key := by
  constructor
  · intro hfound
    exact ⟨List.mem_of_find?_eq_some hfound, by simpa using List.find?_some hfound⟩
  · rintro ⟨hmem, rfl⟩
    have hsome : (record.slots.find? fun other => other.name = slot.name).isSome :=
      List.find?_isSome.mpr ⟨slot, hmem, by simp⟩
    obtain ⟨found, hfound⟩ := Option.isSome_iff_exists.mp hsome
    have hname : found.name = slot.name := by simpa using List.find?_some hfound
    rw [hfound, List.inj_on_of_nodup_map hnames (List.mem_of_find?_eq_some hfound) hmem hname]

/-- What the check of a map says, entry by entry and part by part. -/
theorem shape_object_eq_ok_iff_forall (hkeys : (entries.map Prod.fst).Nodup)
    {ignoreSurplus : Bool} :
    record.shape ignoreSurplus (.object entries true) = .ok () ↔
      (∀ e ∈ entries, ∃ slot, (record.slots.find? fun slot => slot.name = e.1) = some slot ∧
        slot.shape e.2 = .ok ()) ∧
      ∀ slot ∈ record.slots, slot.required = true → slot.name ∈ entries.map Prod.fst := by
  rw [shape, bind_eq_ok]
  simp only [checkEntries_eq_ok_iff, List.nil_append, bind_eq_ok, checkMissing_eq_ok_iff]
  constructor
  · rintro ⟨met, ⟨rfl, _, _, hentries⟩, _, _, hmissing⟩
    exact ⟨hentries, hmissing⟩
  · rintro ⟨hentries, hmissing⟩
    exact ⟨_, ⟨rfl, hkeys, fun _ _ => List.not_mem_nil, hentries⟩, (), rfl, hmissing⟩

theorem isSome_lookup_iff (hkeys : (entries.map Prod.fst).Nodup) (key : String) :
    (entries.lookup key).isSome ↔ key ∈ entries.map Prod.fst := by
  simp [Option.isSome_iff_exists, lookup_eq_some_iff_mem hkeys]

/-- **The check of a record written as a map does not depend on the order of its
keys**, provided that none is repeated. -/
theorem shape_object_eq_ok_iff (hnames : record.names.Nodup)
    (hkeys : (entries.map Prod.fst).Nodup) {ignoreSurplus : Bool} :
    record.shape ignoreSurplus (.object entries true) = .ok () ↔
      record.HeldBy (.object entries true) := by
  have hlookup := isSome_lookup_iff hkeys
  rw [shape_object_eq_ok_iff_forall hkeys]
  constructor
  · rintro ⟨hentries, hmissing⟩
    constructor
    · intro key hkey
      obtain ⟨e, he, rfl⟩ := List.mem_map.mp ((hlookup key).mp hkey)
      obtain ⟨slot, hslot, _⟩ := hentries e he
      obtain ⟨hmem, hname⟩ := (find?_name_eq_some_iff hnames).mp hslot
      exact List.mem_map.mpr ⟨slot, hmem, hname⟩
    · intro slot hslot
      rw [Node.part?]
      cases hpart : entries.lookup slot.name with
      | some part =>
        obtain ⟨slot', hslot', hshape⟩ := hentries _ ((lookup_eq_some_iff_mem hkeys).mp hpart)
        rw [(find?_name_eq_some_iff hnames).mpr ⟨hslot, rfl⟩] at hslot'
        obtain rfl := Option.some.inj hslot'
        exact hshape
      | none =>
        -- a part that is not there is not a required one
        refine Bool.eq_false_iff.mpr fun hrequired => ?_
        have hsome := (hlookup _).mpr (hmissing slot hslot hrequired)
        rw [hpart] at hsome
        exact Bool.false_ne_true hsome
  · rintro ⟨hknown, haccepted⟩
    constructor
    · intro e he
      have hpart : entries.lookup e.1 = some e.2 := (lookup_eq_some_iff_mem hkeys).mpr he
      obtain ⟨slot, hslot, hname⟩ := List.mem_map.mp (hknown e.1 (by simp [Node.part?, hpart]))
      have hshape := haccepted slot hslot
      rw [Node.part?, hname, hpart] at hshape
      exact ⟨slot, (find?_name_eq_some_iff hnames).mpr ⟨hslot, hname⟩, hshape⟩
    · intro slot hslot hrequired
      rw [← hlookup, Option.isSome_iff_ne_none]
      intro hnone
      have hoptional := haccepted slot hslot
      rw [Node.part?, hnone] at hoptional
      exact Bool.false_ne_true (hoptional.symm.trans hrequired)

/-- Without surplus items, each part stands at its place, if at all. -/
theorem checkItems_eq_ok_iff {ignoreSurplus : Bool} {length : Nat} {slots : List Slot}
    (hlength : items.length ≤ slots.length) :
    record.checkItems ignoreSurplus true length slots items = .ok () ↔
      ∀ (i : Nat) (slot : Slot), slots[i]? = some slot → slot.Accepts items[i]? := by
  induction slots generalizing items with
  | nil =>
    obtain rfl := List.length_eq_zero_iff.mp (Nat.le_zero.mp hlength)
    simp [checkItems, firstRequired?, Shape.requireEnd]
  | cons slot slots ih =>
    cases items with
    | nil =>
      have hcheck : record.checkItems ignoreSurplus true length (slot :: slots) [] = .ok () ↔
          firstRequired? (slot :: slots) = none := by
        rw [checkItems, bind_eq_ok]
        cases firstRequired? (slot :: slots) <;> simp [Shape.requireEnd, pure_eq_ok]
      rw [hcheck, firstRequired?, List.find?_eq_none]
      constructor
      · intro h i slot hslot
        exact Bool.eq_false_iff.mpr (h slot (List.mem_of_getElem? hslot))
      · intro h slot hslot
        obtain ⟨i, hi⟩ := List.getElem?_of_mem hslot
        exact Bool.eq_false_iff.mp (h i slot hi)
    | cons item items =>
      rw [checkItems, bind_eq_ok]
      simp only [ih (Nat.le_of_succ_le_succ hlength)]
      constructor
      · rintro ⟨_, hitem, hrest⟩ i other hother
        cases i with
        | zero =>
          obtain rfl := Option.some.inj hother
          exact hitem
        | succ i => exact hrest i other hother
      · intro h
        exact ⟨(), h 0 slot rfl, fun i other hother => h (i + 1) other hother⟩

/-- The place of a part in a record is that of its name. -/
theorem idxOf_name (hnames : record.names.Nodup) {i : Nat} {slot : Slot}
    (hslot : record.slots[i]? = some slot) : record.names.idxOf slot.name = i := by
  obtain ⟨hi, hslot⟩ := List.getElem?_eq_some_iff.mp hslot
  have hlength : i < record.names.length := by rwa [names, List.length_map]
  have hname : record.names[i] = slot.name := by simp only [names, List.getElem_map, hslot]
  rw [← hname]
  exact hnames.idxOf_getElem i hlength

/-- **Written as a sequence, a record holds what it holds when written as a map**,
provided that there are no surplus items. -/
theorem shape_array_eq_ok_iff (hnames : record.names.Nodup)
    (hfits : record.Fits (.array items true)) {ignoreSurplus : Bool} :
    record.shape ignoreSurplus (.array items true) = .ok () ↔
      record.HeldBy (.array items true) := by
  rw [shape, checkItems_eq_ok_iff hfits]
  constructor
  · intro h
    constructor
    · -- a key that the record does not have is looked for behind all items
      intro key hkey
      by_contra hunknown
      have hbehind : items.length ≤ record.names.idxOf key := by
        rw [List.idxOf_eq_length hunknown, names, List.length_map]
        exact hfits
      simp [Node.part?, List.getElem?_eq_none hbehind] at hkey
    · intro slot hslot
      obtain ⟨i, hi⟩ := List.getElem?_of_mem hslot
      rw [Node.part?, idxOf_name hnames hi]
      exact h i slot hi
  · rintro ⟨_, haccepted⟩ i slot hi
    have hslot := haccepted slot (List.mem_of_getElem? hi)
    rwa [Node.part?, idxOf_name hnames hi] at hslot

end Record

/-! ## Where checks agree -/

/-- Two shapes agree, on trees of a certain form, on whether a tree has them,
whatever the order of its keys. -/
def Shape.Agree (p : Node → Prop) (shape shape' : Shape) : Prop :=
  ∀ ⦃node node' : Node⦄, node.SameTree node' → p node →
    (shape node = .ok () ↔ shape' node' = .ok ())

namespace Shape

theorem text_agree : Agree (fun _ => True) text text := by
  intro node node' h _
  cases h <;> exact Iff.rfl

theorem optionalText_agree : Agree (fun _ => True) optionalText optionalText := by
  intro node node' h _
  cases h <;> exact Iff.rfl

theorem flag_agree : Agree (fun _ => True) flag flag := by
  intro node node' h _
  cases h <;> exact Iff.rfl

theorem sequence_agree {p : Node → Prop} {item item' : Shape} (h : Agree p item item') :
    Agree (fun node => ∀ part ∈ node.items, p part) (sequence item) (sequence item') := by
  intro node node' hsame hp
  cases hsame with
  | array hitems =>
    rw [sequence_eq_ok_iff, sequence_eq_ok_iff]
    exact forall_mem_iff_of_forall₂ hitems fun part hpart _ hparts => h hparts (hp part hpart)
  | _ => exact Iff.rfl

end Shape

/-- Two parts of records are alike: they have one name, are both required or not,
and have shapes that agree on trees of the form that goes with the name. -/
structure Slot.Alike (p : String → Node → Prop) (slot slot' : Slot) : Prop where
  name : slot.name = slot'.name
  required : slot.required = slot'.required
  shape : Shape.Agree (p slot.name) slot.shape slot'.shape

theorem Slot.Alike.accepts_iff {p : String → Node → Prop} {slot slot' : Slot}
    (h : Slot.Alike p slot slot') {part? part?' : Option Node}
    (hsame : Option.Rel Node.SameTree part? part?')
    (hp : ∀ part, part? = some part → p slot.name part) :
    slot.Accepts part? ↔ slot'.Accepts part?' := by
  cases hsame with
  | none => rw [Accepts, Accepts, h.required]
  | some hpart => exact h.shape hpart (hp _ rfl)

namespace Record

/-- **Records of parts that are alike agree on what they accept**, in whatever order
it is written, and whether or not they ignore surplus items, on trees without these. -/
theorem shape_agree {record record' : Record} {p : String → Node → Prop}
    (hnames : record.names.Nodup)
    (hslots : List.Forall₂ (Slot.Alike p) record.slots record'.slots) (b b' : Bool) :
    Shape.Agree
      (fun node => record.Fits node ∧
        ∀ key part, node.part? record.names key = some part → p key part)
      (record.shape b) (record'.shape b') := by
  have heq : record.names = record'.names := map_eq_map_of_forall₂ hslots fun _ _ h => h.name
  intro node node' hsame ⟨hfits, hp⟩
  have hheld : record.HeldBy node ↔ record'.HeldBy node' := by
    have hparts := hsame.part?_rel record.names
    have hknown : (∀ key, (node.part? record.names key).isSome → key ∈ record.names) ↔
        ∀ key, (node'.part? record'.names key).isSome → key ∈ record'.names := by
      rw [← heq]
      exact forall_congr' fun key => by rw [isSome_eq_of_rel (hparts key)]
    have haccepted : (∀ slot ∈ record.slots, slot.Accepts (node.part? record.names slot.name)) ↔
        ∀ slot' ∈ record'.slots, slot'.Accepts (node'.part? record'.names slot'.name) := by
      refine forall_mem_iff_of_forall₂ hslots fun slot _ slot' halike => ?_
      rw [← heq, ← halike.name]
      exact halike.accepts_iff (hparts slot.name) (hp slot.name)
    exact ⟨fun h => ⟨hknown.mp h.known, haccepted.mp h.accepted⟩,
      fun h => ⟨hknown.mpr h.known, haccepted.mpr h.accepted⟩⟩
  cases hsame with
  | @array items items' hitems =>
    have hfits' : record'.Fits (.array items' true) := by
      have hle : items.length ≤ record'.slots.length := hfits.congr hslots.length_eq
      rwa [hitems.length_eq] at hle
    rw [shape_array_eq_ok_iff hnames hfits, shape_array_eq_ok_iff (heq ▸ hnames) hfits']
    exact hheld
  | object hnodup hkeys _ hperm =>
    have hnodup' := (hperm.map Prod.fst).nodup_iff.mp (hkeys ▸ hnodup)
    rw [shape_object_eq_ok_iff hnames hnodup, shape_object_eq_ok_iff (heq ▸ hnames) hnodup']
    exact hheld
  | _ => exact iff_of_false nofun nofun

/-- Records of plain parts agree wherever there are no surplus items. -/
theorem shape_agree_of_fits {record record' : Record} (hnames : record.names.Nodup)
    (hslots : List.Forall₂ (Slot.Alike fun _ _ => True) record.slots record'.slots) (b b' : Bool) :
    Shape.Agree record.Fits (record.shape b) (record'.shape b') :=
  fun _ _ hsame hfits =>
    shape_agree hnames hslots b b' hsame ⟨hfits, fun _ _ _ => trivial⟩

end Record
end Document
end MessageDump
