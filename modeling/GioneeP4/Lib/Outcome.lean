-- SUMMARY: Computations that return a value or throw: how they are taken apart, and the results of two runs compared.
import Mathlib.Data.List.Forall2

/-!
# Outcomes

A computation returns a value or throws. It returns when each of its parts does.
-/

namespace Outcome

variable {ε α β : Type} {m : Except ε α} {f : α → Except ε β} {b : β}

@[simp] theorem ok_bind {a : α} : (.ok a : Except ε α) >>= f = f a := rfl

@[simp] theorem error_bind {e : ε} : (.error e : Except ε α) >>= f = .error e := rfl

theorem bind_eq_ok : m >>= f = .ok b ↔ ∃ a, m = .ok a ∧ f a = .ok b := by
  cases m with
  | error e => simp
  | ok a => simp

theorem map_eq_ok {g : α → β} : m.map g = .ok b ↔ ∃ a, m = .ok a ∧ g a = b := by
  cases m with
  | error e => simp [Except.map]
  | ok a => simp [Except.map]

/-- The computation ends without a value. -/
def Throws (m : Except ε α) : Prop := ∃ e, m = .error e

theorem throws_iff : Throws m ↔ ¬∃ a, m = .ok a := by
  cases m with
  | error e => simp [Throws]
  | ok a => simp [Throws]

/-- Both return the same value, or both throw. -/
def Same (m m' : Except ε α) : Prop := (∃ a, m = .ok a ∧ m' = .ok a) ∨ Throws m ∧ Throws m'

/-- Where values cannot differ, two runs are the same if both or neither return. -/
theorem same_iff {m' : Except ε α} (h : ∀ a a', m = .ok a → m' = .ok a' → a = a') :
    Same m m' ↔ ((∃ a, m = .ok a) ↔ ∃ a, m' = .ok a) := by
  cases m with
  | error e => cases m' <;> simp [Same, Throws]
  | ok a =>
    cases m' with
    | error e => simp [Same, Throws]
    | ok a' =>
      obtain rfl := h a a' rfl rfl
      simp [Same]

/-! ## Results in a row -/

variable {g : α → Except ε β} {xs : List α} {ys zs : List β}

/-- The computation returns the second element for the first, all along two lists. -/
abbrev Results (g : α → Except ε β) : List α → List β → Prop :=
  List.Forall₂ fun x y => g x = .ok y

theorem exists_results_iff : (∃ ys, Results g xs ys) ↔ ∀ x ∈ xs, ∃ y, g x = .ok y := by
  induction xs with
  | nil => exact ⟨fun _ x hx => absurd hx (List.not_mem_nil), fun _ => ⟨[], .nil⟩⟩
  | cons x xs ih =>
    rw [List.forall_mem_cons, ← ih]
    constructor
    · rintro ⟨_, _ | ⟨hx, hxs⟩⟩
      exact ⟨⟨_, hx⟩, ⟨_, hxs⟩⟩
    · rintro ⟨⟨y, hx⟩, ⟨ys, hxs⟩⟩
      exact ⟨y :: ys, .cons hx hxs⟩

theorem Results.unique (h : Results g xs ys) (h' : Results g xs zs) : ys = zs := by
  induction h generalizing zs with
  | nil =>
    cases h'
    rfl
  | cons hx _ ih =>
    cases h' with
    | cons hx' hxs' =>
      rw [Except.ok.inj (hx.symm.trans hx'), ih hxs']

end Outcome
