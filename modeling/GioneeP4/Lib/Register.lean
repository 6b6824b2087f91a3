-- SUMMARY: Registers that a step overwrites or keeps: the last write of a run, and when two runs leave the same.
import GioneeP4.Lib.Machine
import Mathlib.Data.List.ReduceOption

/-!
# Registers

A register is overwritten by some of the steps of a run and kept by the others. It
ends up with the last write, or with what it held before. Two runs with a common
end leave the same in it if that end writes it; a register that is only ever
written with one value also remembers whether it was written at all.
-/

namespace Register

variable {ν : Type*} {v v' x : ν} {w : Option ν} {us ws : List (Option ν)}

/-- A step of a register. -/
def step (held : ν) (write : Option ν) : ν := write.getD held

/-- The last write of a run. -/
def lastWrite (ws : List (Option ν)) : Option ν := ws.reduceOption.getLast?

@[simp] theorem lastWrite_append : lastWrite (us ++ ws) = (lastWrite ws).or (lastWrite us) := by
  rw [lastWrite, List.reduceOption_append, List.getLast?_append]
  rfl

@[simp] theorem lastWrite_singleton : lastWrite [w] = w := by
  cases w <;> rfl

theorem lastWrite_cons : lastWrite (w :: ws) = (lastWrite ws).or w := by
  rw [← List.singleton_append, lastWrite_append, lastWrite_singleton]

/-- A register holds the last write of the run. -/
theorem after_step : Machine.after step v ws = (lastWrite ws).getD v := by
  induction ws generalizing v with
  | nil => rfl
  | cons w ws ih =>
    rw [Machine.after_cons, ih, lastWrite_cons, step]
    cases lastWrite ws <;> rfl

/-- Runs that end with a common write leave the same. -/
theorem after_eq_of_written (h : (lastWrite ws).isSome) (us' : List (Option ν)) :
    Machine.after step v (us ++ ws) = Machine.after step v' (us' ++ ws) := by
  obtain ⟨x, hx⟩ := Option.isSome_iff_exists.mp h
  rw [after_step, after_step, lastWrite_append, lastWrite_append, hx]
  rfl

/-! ## Registers that are written with one value -/

/-- Every write is a write of one value. -/
def Only (x : ν) (ws : List (Option ν)) : Prop := ∀ w ∈ ws, ∀ y, w = some y → y = x

theorem after_of_only (h : Only x ws) :
    (some x ∈ ws → Machine.after step v ws = x) ∧
      (some x ∉ ws → Machine.after step v ws = v) := by
  induction ws generalizing v with
  | nil => simp
  | cons w ws ih =>
    have hrest : Only x ws := fun w hw => h w (List.mem_cons_of_mem _ hw)
    obtain ⟨hwritten, hkept⟩ := @ih (step v w) hrest
    rw [Machine.after_cons]
    cases w with
    | none => exact ⟨fun hx => hwritten (by simpa using hx), fun hx => hkept (by simpa using hx)⟩
    | some y =>
      obtain rfl : y = x := h _ (List.mem_cons_self ..) y rfl
      refine ⟨fun _ => ?_, fun hx => absurd (List.mem_cons_self ..) hx⟩
      by_cases hmem : some y ∈ ws
      · exact hwritten hmem
      · exact hkept hmem

/-- Two such runs leave the same if both write or neither does, or nothing new is written. -/
theorem after_eq_iff_of_only (hu : Only x us) (hw : Only x ws) :
    Machine.after step v us = Machine.after step v ws ↔
      (some x ∈ us ↔ some x ∈ ws) ∨ v = x := by
  obtain ⟨huIn, huOut⟩ := @after_of_only _ v _ _ hu
  obtain ⟨hwIn, hwOut⟩ := @after_of_only _ v _ _ hw
  by_cases hmu : some x ∈ us <;> by_cases hmw : some x ∈ ws
  · simp [huIn hmu, hwIn hmw, hmu, hmw]
  · simp [huIn hmu, hwOut hmw, hmu, hmw, eq_comm]
  · simp [huOut hmu, hwIn hmw, hmu, hmw]
  · simp [huOut hmu, hwOut hmw, hmu, hmw]

end Register
