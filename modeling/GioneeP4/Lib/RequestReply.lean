-- SUMMARY: Ledgers of requests and replies: what was issued is pending or answered, and nothing is answered twice.
import Mathlib.Data.Finset.Basic
import GioneeP4.Lib.Machine

/-!
# Requests and replies

A ledger keeps the keys of the requests issued and not yet answered, and the keys
answered so far in order. A reply to a key that is not pending is dropped. When
keys are never issued twice, every issued key is pending or answered, never both,
and answered at most once.
-/

namespace RequestReply

variable {κ : Type*}

inductive Move (κ : Type*)
  | issue (key : κ)
  | reply (key : κ)

structure Ledger (κ : Type*) where
  pending : Finset κ
  answered : List κ

namespace Ledger

def empty : Ledger κ := ⟨∅, []⟩

def step [DecidableEq κ] (l : Ledger κ) : Move κ → Ledger κ
  | .issue key => { l with pending := insert key l.pending }
  | .reply key =>
      if key ∈ l.pending then ⟨l.pending.erase key, l.answered ++ [key]⟩ else l

end Ledger

/-- The keys a history of moves issues. -/
def issued (moves : List (Move κ)) : List κ :=
  moves.filterMap fun
    | .issue key => some key
    | .reply _ => none

@[simp] theorem issued_concat_issue {moves : List (Move κ)} {key : κ} :
    issued (moves ++ [.issue key]) = issued moves ++ [key] := by
  simp [issued]

@[simp] theorem issued_concat_reply {moves : List (Move κ)} {key : κ} :
    issued (moves ++ [.reply key]) = issued moves := by
  simp [issued]

/-- What a history without repeated keys leaves in the ledger. -/
structure Balanced (keys : List κ) (l : Ledger κ) : Prop where
  nodup : l.answered.Nodup
  disjoint : ∀ key ∈ l.answered, key ∉ l.pending
  complete : ∀ key, key ∈ keys ↔ key ∈ l.pending ∨ key ∈ l.answered

theorem balanced_empty : Balanced [] (Ledger.empty : Ledger κ) where
  nodup := List.nodup_nil
  disjoint := by simp [Ledger.empty]
  complete := by simp [Ledger.empty]

variable [DecidableEq κ]

/-- Issuing a new key. -/
theorem Balanced.issue {keys : List κ} {l : Ledger κ} {key : κ} (h : Balanced keys l)
    (hfresh : key ∉ keys) : Balanced (keys ++ [key]) (l.step (.issue key)) where
  nodup := h.nodup
  disjoint other hanswered hpending := by
    rcases Finset.mem_insert.mp hpending with rfl | hold
    · exact hfresh ((h.complete other).mpr (.inr hanswered))
    · exact h.disjoint other hanswered hold
  complete other := by
    simp only [Ledger.step, List.mem_append, List.mem_singleton, Finset.mem_insert, h.complete]
    tauto

/-- Replying to any key. -/
theorem Balanced.reply {keys : List κ} {l : Ledger κ} {key : κ} (h : Balanced keys l) :
    Balanced keys (l.step (.reply key)) := by
  by_cases hpending : key ∈ l.pending
  · have hstep : l.step (.reply key) = ⟨l.pending.erase key, l.answered ++ [key]⟩ := if_pos hpending
    rw [hstep]
    have hnew : key ∉ l.answered := fun hanswered => h.disjoint key hanswered hpending
    refine ⟨?_, ?_, ?_⟩
    · exact List.nodup_append.mpr ⟨h.nodup, List.nodup_singleton key, by
        rintro a ha b hb rfl
        exact hnew (List.mem_singleton.mp hb ▸ ha)⟩
    · intro other hanswered hother
      rcases List.mem_append.mp hanswered with hold | hlast
      · exact h.disjoint other hold (Finset.mem_of_mem_erase hother)
      · exact Finset.ne_of_mem_erase hother (List.mem_singleton.mp hlast)
    · intro other
      simp only [h.complete, Finset.mem_erase, List.mem_append, List.mem_singleton]
      by_cases heq : other = key
      · simp [heq, hpending]
      · simp [heq]
  · have hstep : l.step (.reply key) = l := if_neg hpending
    rw [hstep]
    exact h

/-- Along every history that issues no key twice the ledger is balanced. -/
theorem balanced_after {moves : List (Move κ)} (h : (issued moves).Nodup) :
    Balanced (issued moves) (Machine.after Ledger.step .empty moves) := by
  induction moves using List.reverseRecOn with
  | nil => exact balanced_empty
  | append_singleton moves move ih =>
    rw [Machine.after_append]
    cases move with
    | issue key =>
      rw [issued_concat_issue] at h ⊢
      have hparts := List.nodup_append.mp h
      apply (ih hparts.1).issue
      intro hmem
      exact hparts.2.2 key hmem key (List.mem_singleton_self key) rfl
    | reply key =>
      rw [issued_concat_reply] at h ⊢
      exact (ih h).reply

end RequestReply
