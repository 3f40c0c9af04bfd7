/-!
# Refusals

Results that are a value or the reason why there is none, taken apart.
-/

namespace Except

variable {ε δ α β : Type}

theorem map_eq_ok_iff {f : α → β} {r : Except ε α} {b : β} :
    r.map f = .ok b ↔ ∃ a, r = .ok a ∧ f a = b := by
  cases r <;> simp [Except.map]

theorem mapError_eq_ok_iff {f : ε → δ} {r : Except ε α} {a : α} : r.mapError f = .ok a ↔ r = .ok a := by
  constructor
  · intro h
    cases r with
    | error e => cases h
    | ok b =>
      cases h
      rfl
  · rintro rfl
    rfl

theorem map_mapError (f : α → β) (g : ε → δ) (r : Except ε α) : (r.mapError g).map f = (r.map f).mapError g := by
  cases r <;> rfl

/-- The reason why there is no value, if there is none. -/
def refusal? : Except ε α → Option ε
  | .error e => some e
  | .ok _ => none

theorem refusal?_map (f : α → β) (r : Except ε α) : (r.map f).refusal? = r.refusal? := by
  cases r <;> rfl

theorem refusal?_eq_some_iff {r : Except ε α} {e : ε} : r.refusal? = some e ↔ r = .error e := by
  cases r <;> simp [refusal?]

end Except
