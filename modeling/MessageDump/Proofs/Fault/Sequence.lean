import MessageDump.Fault.Listing
import Mathlib.Data.List.Forall2
/-! # Faults of steps taken in sequence

Generation takes fallible steps one after the other and ends at the first fault.
`faultOf?` is what can be seen of such a computation without its result: the
fault of a sequence is the first fault among those of its steps, so that two
sequences can be compared by their faults alone.
-/
namespace MessageDump

variable {α β φ ψ : Type}

theorem bind_eq_ok {x : Except φ α} {f : α → Except φ β} {result : β} :
    x >>= f = .ok result ↔ ∃ a, x = .ok a ∧ f a = .ok result := by
  cases x <;> simp [bind, Except.bind]

theorem bind_eq_error_iff {x : Except φ α} {f : α → Except φ β} {fault : φ} :
    x >>= f = .error fault ↔ x = .error fault ∨ ∃ a, x = .ok a ∧ f a = .error fault := by
  cases x <;> simp [bind, Except.bind]

theorem pure_eq_ok {value result : α} :
    (pure value : Except φ α) = .ok result ↔ value = result := by
  simp [pure, Except.pure]

theorem map_eq_ok_iff {x : Except φ α} {f : α → β} {result : β} :
    x.map f = .ok result ↔ ∃ value, x = .ok value ∧ f value = result := by
  cases x <;> simp [Except.map]

theorem mapError_eq_ok_iff {x : Except φ α} {f : φ → ψ} {value : α} :
    x.mapError f = .ok value ↔ x = .ok value := by
  cases x <;> simp [Except.mapError]

theorem mapError_eq_error_iff {x : Except φ α} {f : φ → ψ} {fault : ψ} :
    x.mapError f = .error fault ↔ ∃ reason, x = .error reason ∧ f reason = fault := by
  cases x <;> simp [Except.mapError]

theorem if_error_eq_ok_iff {condition : Prop} [Decidable condition] {x : Except φ α} {fault : φ}
    {result : α} :
    (if condition then x else .error fault) = .ok result ↔ condition ∧ x = .ok result := by
  by_cases h : condition <;> simp [h]

/-- Steps for the items of a list succeed together exactly if each succeeds, and
then give the list of their results. -/
theorem mapM_eq_ok_iff {f : α → Except φ β} {items : List α} {results : List β} :
    items.mapM f = .ok results ↔
      List.Forall₂ (fun item result => f item = .ok result) items results := by
  induction items generalizing results with
  | nil => rw [List.mapM_nil, pure_eq_ok, List.forall₂_nil_left_iff, eq_comm]
  | cons item rest ih =>
    simp only [List.mapM_cons, bind_eq_ok, pure_eq_ok, ih, List.forall₂_cons_left_iff]
    constructor
    · rintro ⟨result, hresult, results, hresults, rfl⟩
      exact ⟨result, results, hresult, hresults, rfl⟩
    · rintro ⟨result, results, hresult, hresults, rfl⟩
      exact ⟨result, hresult, results, hresults, rfl⟩

/-- Every result comes from an item. -/
theorem exists_mem_of_forall₂ {R : α → β → Prop} {items : List α} {results : List β}
    (h : List.Forall₂ R items results) {result : β} (hresult : result ∈ results) :
    ∃ item ∈ items, R item result := by
  induction h with
  | nil => exact absurd hresult List.not_mem_nil
  | @cons item made items results hmade _ ih =>
    rcases List.mem_cons.mp hresult with rfl | hresult
    · exact ⟨item, List.mem_cons_self, hmade⟩
    · obtain ⟨other, hother, hmade⟩ := ih hresult
      exact ⟨other, List.mem_cons_of_mem _ hother, hmade⟩

/-- Items and results that agree in some respect make lists that agree in it. -/
theorem map_eq_map_of_forall₂ {γ : Type} {R : α → β → Prop} {f : α → γ} {g : β → γ}
    {items : List α} {results : List β} (h : List.Forall₂ R items results)
    (hR : ∀ item result, R item result → f item = g result) : items.map f = results.map g := by
  have hmaps : List.Forall₂ (· = ·) (items.map f) (results.map g) :=
    List.forall₂_map_left_iff.mpr (List.forall₂_map_right_iff.mpr (h.imp hR))
  rwa [List.forall₂_eq_eq_eq] at hmaps

/-- The fault that a computation ends with, if it does. -/
def faultOf? : Except φ α → Option φ
  | .ok _ => none
  | .error fault => some fault

@[simp] theorem faultOf?_ok (value : α) : faultOf? (.ok value : Except φ α) = none := rfl

@[simp] theorem faultOf?_pure (value : α) : faultOf? (pure value : Except φ α) = none := rfl

@[simp] theorem faultOf?_error (fault : φ) :
    faultOf? (.error fault : Except φ α) = some fault := rfl

@[simp] theorem faultOf?_map (x : Except φ α) (f : α → β) :
    faultOf? (x.map f) = faultOf? x := by
  cases x <;> rfl

theorem faultOf?_eq_some_iff {x : Except φ α} {fault : φ} :
    faultOf? x = some fault ↔ x = .error fault := by
  cases x <;> simp

theorem faultOf?_eq_none_iff {x : Except φ α} : faultOf? x = none ↔ ∃ value, x = .ok value := by
  cases x <;> simp

/-- If the faults of the second step do not depend on the result of the first,
those of the first come before them. -/
theorem faultOf?_bind {x : Except φ α} {f : α → Except φ β} {next : Option φ}
    (h : ∀ a, faultOf? (f a) = next) : faultOf? (x >>= f) = (faultOf? x).or next := by
  cases x with
  | ok a => exact h a
  | error fault => rfl

/-- A step that cannot fail adds no fault. -/
theorem faultOf?_bind_pure {x : Except φ α} {f : α → β} :
    faultOf? (x >>= fun a => pure (f a)) = faultOf? x := by
  rw [faultOf?_bind (fun a => faultOf?_pure (f a)), Option.or_none]

/-- **The fault of steps taken for the items of a list is the first of theirs.** -/
theorem faultOf?_mapM {f : α → Except φ β} {items : List α} :
    faultOf? (items.mapM f) = items.findSome? fun item => faultOf? (f item) := by
  induction items with
  | nil => rfl
  | cons item rest ih =>
    rw [List.mapM_cons, List.findSome?_cons]
    cases f item with
    | error fault => rfl
    -- what remains is the steps for `rest`, with the result put in front of theirs
    | ok result => exact faultOf?_bind_pure.trans ih

end MessageDump
