import Mathlib

/-!
# Runs of monadic code

The model's functions run in `Except` and in `StateT` over `Except`. Here is how a run that
ends well opens up: a bind that ends is a first action that ends followed by the rest, and
`pure` ends where it starts. Later proofs peel a function's run with these and never unfold
the callee.
-/

namespace InlineC

variable {ε σ α β : Type}

/-- Binding a value that is already there. -/
@[simp] theorem except_ok_bind (a : α) (f : α → Except ε β) : (Except.ok a >>= f) = f a := rfl

/-- Answering a value ends at once, in the state it started in. -/
@[simp] theorem stateT_pure_run (a : α) (s : σ) :
    (pure a : StateT σ (Except ε) α).run s = .ok (a, s) := rfl

/-- A run of a bind that ends is a run of its first action that ends, then one of the rest. -/
theorem run_bind_eq_ok {x : StateT σ (Except ε) α} {f : α → StateT σ (Except ε) β}
    {s s' : σ} {b : β} :
    (x >>= f).run s = .ok (b, s') ↔ ∃ a s1, x.run s = .ok (a, s1) ∧ (f a).run s1 = .ok (b, s') := by
  rw [StateT.run_bind]
  cases h : x.run s with
  | error e => simp [bind, Except.bind]
  | ok p =>
    obtain ⟨a, s1⟩ := p
    simp only [except_ok_bind, Except.ok.injEq, Prod.mk.injEq]
    constructor
    · intro h'
      exact ⟨a, s1, ⟨rfl, rfl⟩, h'⟩
    · rintro ⟨a', s1', ⟨rfl, rfl⟩, h'⟩
      exact h'

/-- A run of a bind whose first action ends is a run of the rest. -/
theorem run_bind_of_ok {x : StateT σ (Except ε) α} {f : α → StateT σ (Except ε) β}
    {s s₁ : σ} {a : α} (hx : x.run s = .ok (a, s₁)) : (x >>= f).run s = (f a).run s₁ := by
  rw [StateT.run_bind, hx]
  rfl

/-- A run of `pure` ends where it starts, with the value given. -/
theorem pure_run_eq_ok {a b : α} {s s' : σ}
    (h : (pure a : StateT σ (Except ε) α).run s = .ok (b, s')) : b = a ∧ s' = s := by
  simp only [stateT_pure_run, Except.ok.injEq, Prod.mk.injEq] at h
  exact ⟨h.1.symm, h.2.symm⟩

/-- A bind in `Except` ends well exactly when its first part does and then the rest. -/
theorem except_bind_eq_ok {x : Except ε α} {f : α → Except ε β} {b : β} :
    (x >>= f) = .ok b ↔ ∃ a, x = .ok a ∧ f a = .ok b := by
  cases x with
  | error e => simp [bind, Except.bind]
  | ok a => simp

end InlineC
