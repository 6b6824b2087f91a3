-- SUMMARY: Deterministic machines: runs over input histories, the steps of a run, and their induction rules.
import Mathlib.Data.List.Basic

/-!
# Deterministic machines

A machine is a step function `step : σ → ι → σ`. Its runs read a history of
inputs from the left. The rules below are the only inductions over runs that a
client needs: an invariant of the states, a relation between the history so far
and the state it leads to, and a property of every step of a run.
-/

namespace Machine

variable {σ ι : Type*} {step : σ → ι → σ}

/-- The state a history leads to. -/
def after (step : σ → ι → σ) (s : σ) (is : List ι) : σ := is.foldl step s

@[simp] theorem after_nil {s : σ} : after step s [] = s := rfl

@[simp] theorem after_cons {s : σ} {i : ι} {is : List ι} :
    after step s (i :: is) = after step (step s i) is := rfl

@[simp] theorem after_append {s : σ} {is js : List ι} :
    after step s (is ++ js) = after step (after step s is) js := by
  simp [after]

/-- The steps of a run: each input with the state it was read in. -/
def steps (step : σ → ι → σ) (s : σ) : List ι → List (σ × ι)
  | [] => []
  | i :: is => (s, i) :: steps step (step s i) is

@[simp] theorem steps_concat {s : σ} {i : ι} {is : List ι} :
    steps step s (is ++ [i]) = steps step s is ++ [(after step s is, i)] := by
  induction is generalizing s with
  | nil => rfl
  | cons j is ih => simp [steps, ih]

/-- The steps of a run are those its history splits at. -/
theorem mem_steps_iff {s : σ} {is : List ι} {p : σ × ι} :
    p ∈ steps step s is ↔ ∃ before rest, is = before ++ p.2 :: rest ∧ p.1 = after step s before := by
  induction is generalizing s with
  | nil => simp [steps]
  | cons i is ih =>
    rw [steps, List.mem_cons, ih]
    constructor
    · rintro (rfl | ⟨before, rest, rfl, hp⟩)
      · exact ⟨[], is, rfl, rfl⟩
      · exact ⟨i :: before, rest, rfl, hp⟩
    · rintro ⟨before, rest, hsplit, hp⟩
      cases before with
      | nil =>
        obtain ⟨hi, -⟩ := List.cons.inj hsplit
        exact .inl (Prod.ext hp hi.symm)
      | cons j before =>
        obtain ⟨rfl, hrest⟩ := List.cons.inj hsplit
        exact .inr ⟨before, rest, hrest, hp⟩

/-- The inputs of the steps are the history. -/
theorem map_snd_steps {s : σ} {is : List ι} : (steps step s is).map Prod.snd = is := by
  induction is generalizing s with
  | nil => rfl
  | cons i is ih => rw [steps, List.map_cons, ih]

/-- A relation between histories and states holds along every run once it holds
    of the empty history and every step extends it. -/
theorem after_history {R : List ι → σ → Prop} {s : σ} (hinit : R [] s)
    (hstep : ∀ h t i, R h t → R (h ++ [i]) (step t i)) (is : List ι) :
    R is (after step s is) := by
  suffices key : ∀ h t, R h t → R (h ++ is) (after step t is) by
    simpa using key [] s hinit
  induction is with
  | nil => intro h t ht; simpa using ht
  | cons i is ih =>
    intro h t ht
    simpa using ih (h ++ [i]) (step t i) (hstep h t i ht)

/-- A property of states that every step of a history keeps holds where the history leads to. -/
theorem after_invariant {P : σ → Prop} {s : σ} {is : List ι} (hinit : P s)
    (hstep : ∀ t, ∀ i ∈ is, P t → P (step t i)) : P (after step s is) := by
  induction is generalizing s with
  | nil => exact hinit
  | cons i is ih =>
    apply ih (hstep s i (List.mem_cons_self ..) hinit)
    exact fun t j hj => hstep t j (List.mem_cons_of_mem _ hj)

/-- The same property holds of the state before every step. -/
theorem steps_invariant {P : σ → Prop} {s : σ} {is : List ι} {p : σ × ι} (hinit : P s)
    (hstep : ∀ t, ∀ i ∈ is, P t → P (step t i)) (hp : p ∈ steps step s is) : P p.1 := by
  obtain ⟨before, rest, rfl, hstate⟩ := mem_steps_iff.mp hp
  rw [hstate]
  apply after_invariant hinit
  exact fun t i hi => hstep t i (List.mem_append_left _ hi)

/-- A projection that turns the steps of a history into steps turns its run into a run, from
    states with an invariant on. -/
theorem after_simulates {τ κ : Type*} {step' : τ → κ → τ} {f : σ → τ} {g : ι → κ}
    {P : σ → Prop} {s : σ} {is : List ι} (hinit : P s) (hstep : ∀ t, ∀ i ∈ is, P t → P (step t i))
    (hsim : ∀ t, ∀ i ∈ is, P t → f (step t i) = step' (f t) (g i)) :
    f (after step s is) = after step' (f s) (is.map g) := by
  induction is generalizing s with
  | nil => rfl
  | cons i is ih =>
    have hi : i ∈ i :: is := List.mem_cons_self ..
    rw [after_cons, List.map_cons, after_cons, ← hsim s i hi hinit]
    apply ih (hstep s i hi hinit)
    · exact fun t j hj => hstep t j (List.mem_cons_of_mem _ hj)
    · exact fun t j hj => hsim t j (List.mem_cons_of_mem _ hj)

/-- The same for each step of the run. -/
theorem steps_simulates {τ κ : Type*} {step' : τ → κ → τ} {f : σ → τ} {g : ι → κ} {s : σ}
    {is : List ι} (hsim : ∀ t i, f (step t i) = step' (f t) (g i)) :
    (steps step s is).map (Prod.map f g) = steps step' (f s) (is.map g) := by
  induction is generalizing s with
  | nil => rfl
  | cons i is ih =>
    rw [steps, List.map_cons, ih, List.map_cons, steps, hsim]
    rfl

end Machine
