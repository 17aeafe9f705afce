/-! # Listing faults

A check is written as the list of everything that is wrong, in the order in
which it is reported; it passes if the list is empty and reports its first
member otherwise.
-/
namespace MessageDump

/-- A fault if the condition holds. -/
def faultIf {φ : Type} (condition : Bool) (fault : φ) : List φ :=
  if condition then [fault] else []

/-- The value, unless there is a fault: then the first one. -/
def unlessFaulty {φ α : Type} (faults : List φ) (value : α) : Except φ α :=
  match faults with
  | [] => .ok value
  | fault :: _ => .error fault

/-- Each item of a list together with the items before it, which follow those
given. -/
def withEarlier {α : Type} (earlier : List α) : List α → List (List α × α)
  | [] => []
  | item :: rest => (earlier, item) :: withEarlier (earlier ++ [item]) rest

section

variable {φ α : Type}

@[simp] theorem faultIf_eq_nil {condition : Bool} {fault : φ} :
    faultIf condition fault = [] ↔ condition = false := by
  cases condition <;> simp [faultIf]

theorem unlessFaulty_eq_ok {faults : List φ} {value result : α} :
    unlessFaulty faults value = .ok result ↔ faults = [] ∧ value = result := by
  cases faults <;> simp [unlessFaulty]

theorem unlessFaulty_eq_error {faults : List φ} {value : α} {fault : φ} :
    unlessFaulty faults value = .error fault ↔ faults.head? = some fault := by
  cases faults <;> simp [unlessFaulty]

@[simp] theorem withEarlier_nil (earlier : List α) : withEarlier earlier [] = [] := rfl

/-- Forgetting the earlier items gives the list back. -/
@[simp] theorem map_snd_withEarlier (earlier items : List α) :
    (withEarlier earlier items).map Prod.snd = items := by
  induction items generalizing earlier with
  | nil => rfl
  | cons item rest ih => simp [withEarlier, ih]

end

end MessageDump
