-- SUMMARY: Resources that are acquired and released, and a slot that keeps the last of them without ever being emptied.
import GioneeP4.Lib.Machine
import Mathlib.Data.List.Induction

/-!
# Resources

A trace of uses says which resources were acquired and released, in order. It is
paired when every release finds its resource held. A program that keeps the last
resource in a slot, and releases what is in the slot without emptying it, leaves a
paired trace exactly when it never releases twice what it acquired once.
-/

namespace Resources

variable {ρ : Type} [DecidableEq ρ]

inductive Use (ρ : Type)
  | acquire (r : ρ)
  | release (r : ρ)
  deriving DecidableEq

/-- What one use leaves of the question whether a resource is held. -/
def holds (r : ρ) (before : Bool) : Use ρ → Bool
  | .acquire r' => before || r' = r
  | .release r' => before && r' ≠ r

/-- Whether a resource was acquired and not released since. -/
def held (r : ρ) (t : List (Use ρ)) : Bool := t.foldl (holds r) false

/-- Every release finds its resource held. -/
def Paired (t : List (Use ρ)) : Prop :=
  ∀ before r after, t = before ++ .release r :: after → held r before = true

variable {r r' : ρ} {t : List (Use ρ)} {u : Use ρ}

@[simp] theorem held_nil : held r [] = false := rfl

@[simp] theorem held_concat : held r (t ++ [u]) = holds r (held r t) u := by
  rw [held, List.foldl_concat]
  rfl

theorem paired_nil : Paired ([] : List (Use ρ)) := by
  intro before r after h
  cases before <;> cases h

theorem paired_concat :
    Paired (t ++ [u]) ↔ Paired t ∧ ∀ r, u = .release r → held r t = true := by
  constructor
  · intro h
    refine ⟨?_, ?_⟩
    · rintro before r after rfl
      exact h before r (after ++ [u]) (by rw [List.append_assoc, List.cons_append])
    · rintro r rfl
      exact h t r [] rfl
  · rintro ⟨ht, hu⟩ before r after h
    rcases List.eq_nil_or_concat after with rfl | ⟨rest, v, rfl⟩
    · obtain ⟨rfl, hlast⟩ := List.append_inj' h rfl
      exact hu r (List.cons.inj hlast).1
    · rw [List.concat_eq_append, ← List.cons_append, ← List.append_assoc] at h
      exact ht before r rest (List.append_inj' h rfl).1

/-- A paired trace releases a resource at most as often as it acquired it. -/
theorem Paired.count_le (h : Paired t) :
    t.count (.release r) + (if held r t then 1 else 0) ≤ t.count (.acquire r) := by
  induction t using List.reverseRecOn with
  | nil => simp
  | append_singleton t u ih =>
    obtain ⟨ht, hu⟩ := paired_concat.mp h
    have hcount := ih ht
    rw [List.count_append, List.count_append, held_concat]
    cases u with
    | acquire r' =>
      by_cases hr : r' = r
      · subst hr
        simp [holds]
        split at hcount <;> omega
      · simpa [holds, hr] using hcount
    | release r' =>
      by_cases hr : r' = r
      · subst hr
        have hheld := hu r' rfl
        simp only [hheld, if_true] at hcount
        simp [holds]
        omega
      · simpa [holds, hr] using hcount

/-! ## A slot that is never emptied -/

/-- What a program does to its slot. -/
inductive Move (ρ : Type)
  /-- Acquires a resource into the slot. -/
  | acquire (r : ρ)
  /-- Acquires a resource into the slot and releases it at once. -/
  | flash (r : ρ)
  /-- Empties the slot without a release. -/
  | forget
  /-- Releases what is in the slot, if anything, and leaves it there. -/
  | release
  | idle

structure Slot (ρ : Type) where
  content : Option ρ
  uses : List (Use ρ)

def Slot.step (s : Slot ρ) : Move ρ → Slot ρ
  | .acquire r => ⟨some r, s.uses ++ [.acquire r]⟩
  | .flash r => ⟨some r, s.uses ++ [.acquire r] ++ [.release r]⟩
  | .forget => ⟨none, s.uses⟩
  | .release =>
      match s.content with
      | some r => ⟨some r, s.uses ++ [.release r]⟩
      | none => s
  | .idle => s

/-- What the moves so far leave in the slot: nothing, a resource to release, or one that was
    released already. -/
inductive Load
  | empty | armed | spent
  deriving DecidableEq

def Load.step (l : Load) : Move ρ → Load
  | .acquire _ => .armed
  | .flash _ => .spent
  | .forget => .empty
  | .release => if l = .armed then .spent else l
  | .idle => l

/-- No move releases what was released already. -/
def Tidy (moves : List (Move ρ)) : Prop :=
  ∀ p ∈ Machine.steps Load.step .empty moves, p.2 = .release → p.1 ≠ .spent

/-- What a load says about the slot. -/
def Load.Fits : Load → Slot ρ → Prop
  | .empty, s => s.content = none
  | .armed, s => ∃ r, s.content = some r ∧ held r s.uses = true
  | .spent, s => ∃ r, s.content = some r ∧ held r s.uses = false

theorem Load.Fits.step {l : Load} {s : Slot ρ} (h : l.Fits s) (m : Move ρ) :
    (l.step m).Fits (s.step m) := by
  cases m with
  | acquire r => exact ⟨r, rfl, by simp [Slot.step, holds]⟩
  | flash r =>
    refine ⟨r, rfl, ?_⟩
    rw [Slot.step, held_concat, held_concat]
    simp [holds]
  | forget => rfl
  | idle => exact h
  | release =>
    cases l with
    | empty =>
      have hnone : s.content = none := h
      simp only [Slot.step, hnone]
      exact h
    | armed | spent =>
      obtain ⟨r, hr, -⟩ := h
      simp only [Slot.step, hr]
      exact ⟨r, rfl, by simp [holds]⟩

/-- A move keeps a trace paired unless it releases what was released already. -/
theorem paired_step {l : Load} {s : Slot ρ} (h : l.Fits s) {m : Move ρ} :
    Paired (s.step m).uses ↔ Paired s.uses ∧ (m = .release → l ≠ .spent) := by
  cases m with
  | acquire r => simp [Slot.step, paired_concat]
  | flash r =>
    rw [Slot.step, paired_concat, paired_concat]
    simp [holds]
  | forget | idle => simp [Slot.step]
  | release =>
    cases l with
    | empty =>
      have hnone : s.content = none := h
      simp [Slot.step, hnone]
    | armed | spent =>
      obtain ⟨r, hr, hheld⟩ := h
      simp [Slot.step, hr, paired_concat, hheld]

theorem fits_after {moves : List (Move ρ)} :
    (Machine.after Load.step .empty moves).Fits (Machine.after Slot.step ⟨none, []⟩ moves) := by
  induction moves using List.reverseRecOn with
  | nil => rfl
  | append_singleton moves m ih =>
    rw [Machine.after_append, Machine.after_append]
    exact ih.step m

/-- A slot leaves a paired trace exactly when no move releases what was released already. -/
theorem paired_iff_tidy {moves : List (Move ρ)} :
    Paired (Machine.after Slot.step ⟨none, []⟩ moves).uses ↔ Tidy moves := by
  induction moves using List.reverseRecOn with
  | nil =>
    refine iff_of_true paired_nil ?_
    intro p hp
    cases hp
  | append_singleton moves m ih =>
    rw [Machine.after_append, Machine.after_cons, Machine.after_nil, paired_step fits_after, ih]
    unfold Tidy
    rw [Machine.steps_concat]
    simp only [List.forall_mem_append, List.forall_mem_singleton]

end Resources
