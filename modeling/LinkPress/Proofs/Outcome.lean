import Mathlib.Data.List.Basic

set_option autoImplicit false

/- Outcomes that are a value or a fault: what a sequence of steps came to says what each of them came to. -/
namespace LinkPress

variable {α β ε δ : Type}

theorem bind_ok_iff (result : Except ε α) (next : α → Except ε β) (value : β) :
    (result >>= next) = .ok value ↔ ∃ made, result = .ok made ∧ next made = .ok value := by
  cases result with
  | error fault => simp [bind, Except.bind]
  | ok made => simp [bind, Except.bind]

theorem bind_error_iff (result : Except ε α) (next : α → Except ε β) (fault : ε) :
    (result >>= next) = .error fault ↔
      result = .error fault ∨ ∃ made, result = .ok made ∧ next made = .error fault := by
  cases result with
  | error own => simp [bind, Except.bind]
  | ok made => simp [bind, Except.bind]

theorem map_error_ok_iff (result : Except ε α) (say : ε → δ) (value : α) :
    result.mapError say = .ok value ↔ result = .ok value := by
  cases result <;> simp [Except.mapError]

theorem map_error_error_iff (result : Except ε α) (say : ε → δ) (fault : δ) :
    result.mapError say = .error fault ↔ ∃ own, result = .error own ∧ fault = say own := by
  cases result <;> simp [Except.mapError, eq_comm]

theorem forM_ok_iff (step : α → Except ε Unit) (items : List α) :
    items.forM step = .ok () ↔ ∀ item ∈ items, step item = .ok () := by
  induction items with
  | nil => exact iff_of_true rfl (List.forall_mem_nil _)
  | cons item rest ih =>
      rw [List.forall_mem_cons, ← ih]
      exact (bind_ok_iff (step item) _ ()).trans ⟨fun ⟨_, both⟩ => both, fun both => ⟨(), both⟩⟩

end LinkPress
