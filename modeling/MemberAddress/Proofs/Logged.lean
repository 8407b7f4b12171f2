import MemberAddress.Log.Record

/-!
# The answer of a sequence of logged steps

A sequence of steps has an answer when every step has one, and it has a fault when some step has
one and all steps before have answers. The lemmas take such a sequence apart.
-/

namespace MemberAddress.Logged

variable {α β : Type} {x : Logged α} {f : α → Logged β}

/-- A sequence has an answer exactly when both parts have. -/
theorem bind_ok_iff {b : β} :
    (x >>= f).result = .ok b ↔ ∃ a, x.result = .ok a ∧ (f a).result = .ok b := by
  rw [result_bind]
  cases x.result with
  | error e => simp [Except.bind]
  | ok a => simp [Except.bind]

/-- A sequence has a fault exactly when the first part has it, or the second has it after the
answer of the first. -/
theorem bind_error_iff {e : Fault} :
    (x >>= f).result = .error e ↔
      x.result = .error e ∨ ∃ a, x.result = .ok a ∧ (f a).result = .error e := by
  rw [result_bind]
  cases x.result with
  | error e' => simp [Except.bind]
  | ok a => simp [Except.bind]

/-- The second part of a sequence matters only after an answer of the first. -/
theorem bind_congr {g : α → Logged β} (h : ∀ a, x.result = .ok a → f a = g a) :
    (x >>= f) = (x >>= g) := by
  obtain ⟨records, _ | a⟩ := x
  · rfl
  · show (⟨records ++ (f a).records, (f a).result⟩ : Logged β) = ⟨_, _⟩
    rw [h a rfl]

@[simp] theorem result_mk (records : List Record) (r : Except Fault α) :
    (⟨records, r⟩ : Logged α).result = r := rfl

end MemberAddress.Logged
