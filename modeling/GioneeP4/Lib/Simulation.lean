-- SUMMARY: Programs over two states: lockstep simulation, its composition rules, and programs that have nothing to do with their state.
import GioneeP4.Lib.Prog

/-!
# Simulation

Two programs over different states simulate each other along a relation of the
states if from related states they have the same outcome, failed or not, and leave
related states. A program that has nothing to do with its state runs over any other
state just as well.
-/

namespace Prog

variable {ε σ τ α β : Type} {R : σ → τ → Prop}

/-- From related states the programs have the same outcome and leave related states. -/
def Simulates (R : σ → τ → Prop) (m : Prog ε σ α) (m' : Prog ε τ α) : Prop :=
  ∀ s t, R s t → (exec m s).1 = (exec m' t).1 ∧ R (exec m s).2 (exec m' t).2

/-! ## Composition -/

theorem simulates_pure {a : α} : Simulates R (pure a : Prog ε σ α) (pure a) := fun _ _ h => ⟨rfl, h⟩

/-- Where both runs are known, their outcome and their states are compared. -/
theorem simulates_of_exec {m : Prog ε σ α} {m' : Prog ε τ α}
    (h : ∀ s t, R s t → ∃ r s' t', exec m s = (r, s') ∧ exec m' t = (r, t') ∧ R s' t') :
    Simulates R m m' := by
  intro s t hst
  obtain ⟨r, s', t', hm, hm', hrel⟩ := h s t hst
  rw [hm, hm']
  exact ⟨rfl, hrel⟩

theorem simulates_bind {m : Prog ε σ α} {m' : Prog ε τ α} {f : α → Prog ε σ β}
    {f' : α → Prog ε τ β} (hm : Simulates R m m') (hf : ∀ a, Simulates R (f a) (f' a)) :
    Simulates R (m >>= f) (m' >>= f') := by
  intro s t hst
  obtain ⟨hsame, hrel⟩ := hm s t hst
  rcases hexec : exec m s with ⟨r, s'⟩
  rcases hexec' : exec m' t with ⟨r', t'⟩
  rw [hexec, hexec'] at hsame hrel
  obtain rfl : r = r' := hsame
  cases r with
  | error e =>
    rw [exec_bind_of_error hexec, exec_bind_of_error hexec']
    exact ⟨rfl, hrel⟩
  | ok a =>
    rw [exec_bind_of_ok hexec, exec_bind_of_ok hexec']
    exact hf a s' t' hrel

theorem simulates_ite {c : Prop} [Decidable c] {m₁ m₂ : Prog ε σ α} {m₁' m₂' : Prog ε τ α}
    (h₁ : Simulates R m₁ m₁') (h₂ : Simulates R m₂ m₂') :
    Simulates R (if c then m₁ else m₂) (if c then m₁' else m₂') := by
  split
  · exact h₁
  · exact h₂

/-! ## Programs without a state -/

/-- The program has one outcome, and leaves every state as it was. -/
def Stateless (m : Prog ε σ α) : Prop := ∃ r, ∀ s, exec m s = (r, s)

theorem stateless_pure {a : α} : Stateless (pure a : Prog ε σ α) := ⟨_, fun _ => rfl⟩

theorem stateless_throw {e : ε} : Stateless (throw e : Prog ε σ α) := ⟨_, fun _ => rfl⟩

theorem stateless_bind {m : Prog ε σ α} {f : α → Prog ε σ β} (hm : Stateless m)
    (hf : ∀ a, Stateless (f a)) : Stateless (m >>= f) := by
  obtain ⟨r, hr⟩ := hm
  cases r with
  | error e => exact ⟨.error e, fun s => exec_bind_of_error (hr s)⟩
  | ok a =>
    obtain ⟨r', hr'⟩ := hf a
    exact ⟨r', fun s => (exec_bind_of_ok (hr s)).trans (hr' s)⟩

theorem stateless_ite {c : Prop} [Decidable c] {m₁ m₂ : Prog ε σ α} (h₁ : Stateless m₁)
    (h₂ : Stateless m₂) : Stateless (if c then m₁ else m₂) := by
  split
  · exact h₁
  · exact h₂

/-- The outcome of a program, over another state. -/
def outcomeFrom (s : σ) (m : Prog ε σ α) : Prog ε τ α := liftM (exec m s).1

/-- A program without a state may run over any. -/
theorem Stateless.simulates {m : Prog ε σ α} (h : Stateless m) {s₀ : σ} :
    Simulates R m (outcomeFrom s₀ m) := by
  obtain ⟨r, hr⟩ := h
  intro s t hst
  rw [outcomeFrom, exec_liftExcept, hr s, hr s₀]
  exact ⟨rfl, hst⟩

end Prog
