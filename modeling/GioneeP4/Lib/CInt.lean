-- SUMMARY: Signed machine arithmetic in which an overflow is no result, and what an expression without overflow gives.
import Mathlib.Algebra.Ring.Int.Defs

/-!
# Signed arithmetic

A signed sum or product that does not fit in its type has no value. An expression
gives a number when no step of it overflows and its bits spell that number.
-/

namespace CInt

variable {w : Nat} {x y : BitVec w} {a b : Int}

def add (x y : BitVec w) : Option (BitVec w) := if x.saddOverflow y then none else some (x + y)

def mul (x y : BitVec w) : Option (BitVec w) := if x.smulOverflow y then none else some (x * y)

/-- The evaluation of an expression overflows nowhere and gives a number. -/
def Gives (e : Option (BitVec w)) (a : Int) : Prop := ∃ x, e = some x ∧ x.toInt = a

/-- The numbers of a type. -/
def InRange (w : Nat) (a : Int) : Prop := -2 ^ (w - 1) ≤ a ∧ a < 2 ^ (w - 1)

theorem gives_pure (h : x.toInt = a) : Gives (pure x) a := ⟨x, rfl, h⟩

theorem Gives.bind {e : Option (BitVec w)} {f : BitVec w → Option (BitVec w)} (h : Gives e a)
    (hf : ∀ x, x.toInt = a → Gives (f x) b) : Gives (e >>= f) b := by
  obtain ⟨x, rfl, hx⟩ := h
  exact hf x hx

theorem gives_add (hx : x.toInt = a) (hy : y.toInt = b) (h : InRange w (a + b)) :
    Gives (add x y) (a + b) := by
  have hno : ¬x.saddOverflow y := by
    simp only [BitVec.saddOverflow, hx, hy, Bool.or_eq_true, decide_eq_true_eq, not_or]
    exact ⟨by have := h.2; omega, by have := h.1; omega⟩
  refine ⟨x + y, if_neg hno, ?_⟩
  rw [BitVec.toInt_add_of_not_saddOverflow hno, hx, hy]

theorem gives_mul (hx : x.toInt = a) (hy : y.toInt = b) (h : InRange w (a * b)) :
    Gives (mul x y) (a * b) := by
  have hno : ¬x.smulOverflow y := by
    simp only [BitVec.smulOverflow, hx, hy, Bool.or_eq_true, decide_eq_true_eq, not_or]
    exact ⟨by have := h.2; omega, by have := h.1; omega⟩
  refine ⟨x * y, if_neg hno, ?_⟩
  rw [BitVec.toInt_mul_of_not_smulOverflow hno, hx, hy]

end CInt
