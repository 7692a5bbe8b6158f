import Assay.Failure

/-!
# Outcomes

One operation after another, each of which may fail: what the whole ends in, by what its parts end
in.
-/

namespace Assay

variable {ε α β : Type}

instance decidableEqOutcome [DecidableEq ε] [DecidableEq α] : DecidableEq (Except ε α)
  | .ok a, .ok b => decidable_of_iff (a = b) (by simp)
  | .error d, .error e => decidable_of_iff (d = e) (by simp)
  | .ok _, .error _ => isFalse nofun
  | .error _, .ok _ => isFalse nofun

@[simp]
theorem ok_bind (a : α) (f : α → Except ε β) : (Except.ok a >>= f) = f a := rfl

@[simp]
theorem bind_ok (x : Except ε α) : (x >>= .ok) = x := by
  cases x <;> rfl

theorem bind_eq_ok {x : Except ε α} {f : α → Except ε β} {b : β} :
    (x >>= f) = .ok b ↔ ∃ a, x = .ok a ∧ f a = .ok b := by
  cases x with
  | error e => simp [bind, Except.bind]
  | ok a => simp [bind, Except.bind]

theorem bind_eq_error {x : Except ε α} {f : α → Except ε β} {e : ε} :
    (x >>= f) = .error e ↔ x = .error e ∨ ∃ a, x = .ok a ∧ f a = .error e := by
  cases x with
  | error e' => simp [bind, Except.bind]
  | ok a => simp [bind, Except.bind]

theorem mapError_ok {ε' : Type} (f : ε → ε') (a : α) : (Except.ok a).mapError f = .ok a := rfl

theorem map_eq_ok {x : Except ε α} {f : α → β} {b : β} :
    x.map f = .ok b ↔ ∃ a, x = .ok a ∧ f a = b := by
  cases x with
  | error e => simp [Except.map]
  | ok a => simp [Except.map]

theorem map_eq_error {x : Except ε α} {f : α → β} {e : ε} :
    x.map f = .error e ↔ x = .error e := by
  cases x <;> simp [Except.map]

/-- An operation with a guard before it ends if the guard lets it go on. -/
theorem guard_eq_ok {p : Prop} [Decidable p] {e : ε} {f : α → Except ε β} {x : Except ε β} {b : β} :
    (if p then (throw e >>= f) else x) = .ok b ↔ ¬ p ∧ x = .ok b := by
  by_cases hp : p
  · rw [if_pos hp]
    exact iff_of_false nofun fun h => h.1 hp
  · rw [if_neg hp]
    exact (and_iff_right hp).symm

theorem guard_eq_error {p : Prop} [Decidable p] {e e' : ε} {f : α → Except ε β}
    {x : Except ε β} :
    (if p then (throw e >>= f) else x) = .error e' ↔ p ∧ e = e' ∨ ¬ p ∧ x = .error e' := by
  by_cases hp : p
  · have hthrow : (throw e >>= f : Except ε β) = .error e := rfl
    simp [hp, hthrow]
  · simp [hp]

/-- Of two operations in a row both must end. -/
theorem exists_bind_ok {x : Except ε α} {f : α → Except ε β} :
    (∃ b, (x >>= f) = .ok b) ↔ ∃ a, x = .ok a ∧ ∃ b, f a = .ok b := by
  simp only [bind_eq_ok]
  constructor
  · rintro ⟨b, a, ha, hb⟩
    exact ⟨a, ha, b, hb⟩
  · rintro ⟨a, ha, b, hb⟩
    exact ⟨b, a, ha, hb⟩

/-- Where only numbers can fail, an operation fails over a number exactly if it does not end. -/
theorem number_iff_of_ok_iff {x : Except Failure α} {P : Prop} (hok : (∃ a, x = .ok a) ↔ ¬ P)
    (hnum : ∀ e, x = .error e → ∃ f, e = .number f) : (∃ f, x = .error (.number f)) ↔ P := by
  cases x with
  | error e =>
    obtain ⟨f, rfl⟩ := hnum e rfl
    refine iff_of_true ⟨f, rfl⟩ (Classical.byContradiction fun hn => ?_)
    obtain ⟨a, ha⟩ := hok.mpr hn
    cases ha
  | ok a =>
    refine iff_of_false ?_ (hok.mp ⟨a, rfl⟩)
    rintro ⟨f, hf⟩
    cases hf

end Assay
