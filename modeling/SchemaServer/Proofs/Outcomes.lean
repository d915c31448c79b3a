/-! # Computations that may fail

What is known of the parts when a whole computation succeeds. -/

namespace SchemaServer

variable {ε α β : Type}

/-- A computation in steps succeeds if every step does. -/
theorem exists_of_bind_eq_ok {x : Except ε α} {f : α → Except ε β} {b : β}
    (succeeds : x >>= f = .ok b) : ∃ a, x = .ok a ∧ f a = .ok b := by
  cases x with
  | error e => cases succeeds
  | ok a => exact ⟨a, rfl, succeeds⟩

theorem bind_eq_ok_iff {x : Except ε α} {f : α → Except ε β} {b : β} :
    x >>= f = .ok b ↔ ∃ a, x = .ok a ∧ f a = .ok b := by
  constructor
  · exact exists_of_bind_eq_ok
  · rintro ⟨a, rfl, succeeds⟩
    exact succeeds

/-- A computation over a list succeeds if it does for every element. -/
theorem mapM_eq_ok_iff {f : α → Except ε β} {l : List α} {values : List β} :
    l.mapM f = .ok values ↔ l.map f = values.map .ok := by
  induction l generalizing values with
  | nil => cases values <;> simp [pure, Except.pure]
  | cons a l ih =>
    rw [List.mapM_cons, List.map_cons]
    constructor
    · intro succeeds
      obtain ⟨b, first, succeeds⟩ := exists_of_bind_eq_ok succeeds
      obtain ⟨later, rest, succeeds⟩ := exists_of_bind_eq_ok succeeds
      cases succeeds
      rw [first, ih.1 rest, List.map_cons]
    · intro each
      cases values with
      | nil => cases each
      | cons b values =>
        obtain ⟨first, rest⟩ := List.cons.inj each
        rw [first, ih.2 rest]
        rfl

end SchemaServer
