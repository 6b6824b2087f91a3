-- SUMMARY: Loops that walk over an array in strides and rewrite the record they are at.
import GioneeP4.Lib.Outcome
import Mathlib.Data.List.Basic

/-!
# Strided loops

An array is a row of records of one width. A loop over every width-th index, which
only looks at the record that starts there and rewrites it in place, visits the
records in order. Its state is the array, and whatever else it carries along.
-/

namespace Stride

open Outcome

variable {α γ τ ε : Type} {visit : γ → τ → Except ε (γ × τ)}

/-- Visit the records in order. -/
def walk (visit : γ → τ → Except ε (γ × τ)) : List γ → τ → Except ε (List γ × τ)
  | [], t => .ok ([], t)
  | r :: rs, t => do
    let (r, t) ← visit r t
    let (rs, t) ← walk visit rs t
    return (r :: rs, t)

variable {r : γ} {rs rs' : List γ} {t t' : τ}

theorem walk_nil_eq_ok : walk visit [] t = .ok (rs', t') ↔ rs' = [] ∧ t' = t := by
  constructor
  · intro h
    cases h
    exact ⟨rfl, rfl⟩
  · rintro ⟨rfl, rfl⟩
    rfl

/-- A walk ends when every visit does. -/
theorem walk_cons_eq_ok : walk visit (r :: rs) t = .ok (rs', t') ↔
    ∃ r₁ t₁ rest, visit r t = .ok (r₁, t₁) ∧ walk visit rs t₁ = .ok (rest, t') ∧
      rs' = r₁ :: rest := by
  rw [walk]
  constructor
  · intro h
    obtain ⟨⟨r₁, t₁⟩, hvisit, h⟩ := bind_eq_ok.mp h
    obtain ⟨⟨rest, t₂⟩, hwalk, h⟩ := bind_eq_ok.mp h
    cases h
    exact ⟨r₁, t₁, rest, hvisit, hwalk, rfl⟩
  · rintro ⟨r₁, t₁, rest, hvisit, hwalk, rfl⟩
    exact bind_eq_ok.mpr ⟨_, hvisit, bind_eq_ok.mpr ⟨_, hwalk, rfl⟩⟩

variable {width : Nat} {flat : γ → List α} {step : List α × τ → Nat → Except ε (List α × τ)}

/-- The loop is a walk over the records. -/
theorem foldlM_strides (hwidth : ∀ r, (flat r).length = width)
    (hstep : ∀ done r rest t, step (done ++ (flat r ++ rest), t) done.length =
      (visit r t).map fun p => (done ++ (flat p.1 ++ rest), p.2))
    {done : List α} :
    (List.range' done.length rs.length width).foldlM step (done ++ rs.flatMap flat, t) =
      (walk visit rs t).map fun p => (done ++ p.1.flatMap flat, p.2) := by
  induction rs generalizing done t with
  | nil => rfl
  | cons r rs ih =>
    rw [List.length_cons, List.range'_succ, List.foldlM_cons, List.flatMap_cons, hstep, walk]
    cases visit r t with
    | error e => rfl
    | ok first =>
      obtain ⟨r₁, t₁⟩ := first
      have hlength : done.length + width = (done ++ flat r₁).length := by
        rw [List.length_append, hwidth]
      simp only [Except.map, bind, Except.bind]
      rw [hlength, ← List.append_assoc, ih]
      cases walk visit rs t₁ with
      | error e => rfl
      | ok last =>
        simp only [Except.map, pure, Except.pure, List.flatMap_cons, List.append_assoc]

end Stride
