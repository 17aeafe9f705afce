import MessageDump.Fault.Listing
import Mathlib.Data.List.Nodup
/-! # When a listing of faults is empty

A check over a list looks at each item together with the items before it.  Such
a check finds nothing exactly if a condition holds of every item and those
before it; two conditions occur, one that does not look back at all, and one by
which an item differs from all earlier ones, which says that the list repeats
nothing.
-/
namespace MessageDump

variable {α β φ : Type}

theorem withEarlier_cons (earlier : List α) (item : α) (rest : List α) :
    withEarlier earlier (item :: rest) =
      (earlier, item) :: withEarlier (earlier ++ [item]) rest := rfl

/-- What an item is listed with are the items before it. -/
theorem exists_append_of_mem_withEarlier {earlier items : List α} {p : List α × α}
    (h : p ∈ withEarlier earlier items) :
    ∃ before after, items = before ++ p.2 :: after ∧ p.1 = earlier ++ before := by
  induction items generalizing earlier with
  | nil => simp at h
  | cons item rest ih =>
    rw [withEarlier_cons] at h
    rcases List.mem_cons.mp h with rfl | h
    · exact ⟨[], rest, rfl, (List.append_nil earlier).symm⟩
    · obtain ⟨before, after, hitems, hearlier⟩ := ih h
      refine ⟨item :: before, after, by rw [hitems]; rfl, ?_⟩
      rw [hearlier, List.append_assoc]
      rfl

/-- A condition that does not look back is one on the items alone. -/
theorem forall_withEarlier_snd (P : α → Prop) {earlier items : List α} :
    (∀ p ∈ withEarlier earlier items, P p.2) ↔ ∀ item ∈ items, P item := by
  constructor
  · intro h item hitem
    rw [← map_snd_withEarlier earlier items] at hitem
    obtain ⟨p, hp, rfl⟩ := List.mem_map.mp hitem
    exact h p hp
  · intro h p hp
    apply h
    rw [← map_snd_withEarlier earlier items]
    exact List.mem_map_of_mem hp

/-- The items differ from those before them, by some key, exactly if no two of
them have the same key and none has that of an item given at the start. -/
theorem forall_withEarlier_ne {key : α → β} {earlier items : List α} :
    (∀ p ∈ withEarlier earlier items, ∀ other ∈ p.1, key other ≠ key p.2) ↔
      (items.map key).Nodup ∧ ∀ item ∈ items, ∀ other ∈ earlier, key other ≠ key item := by
  -- the first item joins those given, so the induction is for all of these
  induction items generalizing earlier with
  | nil => simp
  | cons item rest ih =>
    rw [withEarlier_cons, List.forall_mem_cons, ih, List.map_cons, List.nodup_cons]
    constructor
    · rintro ⟨hitem, hnodup, hrest⟩
      refine ⟨⟨?_, hnodup⟩, ?_⟩
      · intro hmem
        obtain ⟨other, hother, heq⟩ := List.mem_map.mp hmem
        exact hrest other hother item (by simp) heq.symm
      · intro other hother
        rcases List.mem_cons.mp hother with rfl | hother
        · exact hitem
        · exact fun e he => hrest other hother e (List.mem_append_left _ he)
    · rintro ⟨⟨hnotin, hnodup⟩, hall⟩
      refine ⟨hall item List.mem_cons_self, hnodup, ?_⟩
      intro other hother e he
      rcases List.mem_append.mp he with he | he
      · exact hall other (List.mem_cons_of_mem _ hother) e he
      · rw [List.mem_singleton.mp he]
        exact fun heq => hnotin (heq ▸ List.mem_map_of_mem hother)

/-- Looking back from the start: no key occurs twice. -/
theorem forall_withEarlier_nil_ne {key : α → β} {items : List α} :
    (∀ p ∈ withEarlier [] items, ∀ other ∈ p.1, key other ≠ key p.2) ↔
      (items.map key).Nodup := by
  rw [forall_withEarlier_ne]
  simp

theorem mem_faultIf {condition : Bool} {fault listed : φ} :
    listed ∈ faultIf condition fault ↔ condition = true ∧ listed = fault := by
  cases condition <;> simp [faultIf]

end MessageDump
