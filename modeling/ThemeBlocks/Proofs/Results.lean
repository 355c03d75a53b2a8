/-! Results of steps that are taken one after the other: the whole goes well if every step does. -/

namespace ThemeBlocks

variable {ε α β : Type}

theorem exists_ok_of_bind {x : Except ε α} {f : α → Except ε β} {b : β} (h : x >>= f = .ok b) :
    ∃ a, x = .ok a ∧ f a = .ok b := by
  cases x with
  | error e => cases h
  | ok a => exact ⟨a, rfl, h⟩

theorem bind_of_ok {x : Except ε α} {f : α → Except ε β} {a : α} (h : x = .ok a) : x >>= f = f a := by
  rw [h]
  rfl

theorem check_bind_eq_ok_iff {x : Except ε Unit} {y : Except ε β} {b : β} :
    (x >>= fun _ => y) = .ok b ↔ x = .ok () ∧ y = .ok b := by
  constructor
  · intro h
    obtain ⟨⟨⟩, hx, hy⟩ := exists_ok_of_bind h
    exact ⟨hx, hy⟩
  · rintro ⟨hx, hy⟩
    exact (bind_of_ok hx).trans hy

theorem check_bind_eq_error_iff {x : Except ε Unit} {y : Except ε β} {e : ε} :
    (x >>= fun _ => y) = .error e ↔ x = .error e ∨ (x = .ok () ∧ y = .error e) := by
  cases x with
  | error other =>
    change Except.error other = Except.error e ↔ _
    simp
  | ok a =>
    change y = .error e ↔ _
    simp

end ThemeBlocks
