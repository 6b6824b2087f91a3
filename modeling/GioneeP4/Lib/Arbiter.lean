-- SUMMARY: Priority arbitration among ranked sources: the highest source that asks for service, and how one request moves it.
import Mathlib.Data.Finset.Max
import Mathlib.Data.Fintype.Basic

/-!
# Priority arbitration

Ranked sources share one output. A source asks for the output or it does not;
the winner is the highest source that asks, `⊥` when none does. The update
lemmas say where the winner moves when one source changes its mind, in the four
cases an incremental implementation distinguishes.
-/

namespace Arbiter

variable {ι ρ : Type*}

/-! ## The latest request of a source -/

section Latest

variable [DecidableEq ι]

/-- The most recent request of source `i` in a history that grows on the right. -/
def latest (h : List (ι × ρ)) (i : ι) : Option ρ :=
  (h.reverse.find? (·.1 = i)).map (·.2)

/-- A new request replaces the latest request of its own source only. -/
theorem latest_concat {h : List (ι × ρ)} {i j : ι} {r : ρ} :
    latest (h ++ [(i, r)]) j = if i = j then some r else latest h j := by
  by_cases hij : i = j <;> simp [latest, hij]

end Latest

/-! ## The winner -/

variable [Fintype ι] [LinearOrder ι]

/-- The highest source that asks for the output. -/
def winner (asks : ι → Bool) : WithBot ι := (Finset.univ.filter (asks · = true)).max

variable {asks : ι → Bool} {i j : ι}

theorem winner_eq_coe_iff : winner asks = i ↔ asks i = true ∧ ∀ j, asks j = true → j ≤ i := by
  constructor
  · intro h
    refine ⟨by simpa using Finset.mem_of_max h, fun j hj => ?_⟩
    exact Finset.le_max_of_eq (by simpa using hj) h
  · rintro ⟨hi, hmax⟩
    have hle : winner asks ≤ i := by
      refine Finset.max_le fun j hj => ?_
      exact WithBot.coe_le_coe.mpr (hmax j (by simpa using hj))
    exact le_antisymm hle (Finset.le_max (by simpa using hi))

theorem winner_eq_bot_iff : winner asks = ⊥ ↔ ∀ j, asks j = false := by
  simp [winner, Finset.max_eq_bot, Finset.filter_eq_empty_iff]

theorem le_winner (h : asks j = true) : (j : WithBot ι) ≤ winner asks :=
  Finset.le_max (by simpa using h)

/-- The winner asks for the output. -/
theorem asks_of_winner (h : winner asks = i) : asks i = true := (winner_eq_coe_iff.mp h).1

/-- A source at or above the winner that asks becomes the winner. -/
theorem winner_update_of_le (h : winner asks ≤ i) :
    winner (Function.update asks i true) = i := by
  refine winner_eq_coe_iff.mpr ⟨by simp, fun j hj => ?_⟩
  by_cases hji : j = i
  · exact hji.le
  · rw [Function.update_of_ne hji] at hj
    exact WithBot.coe_le_coe.mp ((le_winner hj).trans h)

/-- A source below the winner does not move it, whatever it asks. -/
theorem winner_update_of_lt {b : Bool} (h : (i : WithBot ι) < winner asks) :
    winner (Function.update asks i b) = winner asks := by
  cases hw : winner asks with
  | bot => simp [hw] at h
  | coe w =>
    obtain ⟨hasks, hmax⟩ := winner_eq_coe_iff.mp hw
    have hiw : i < w := WithBot.coe_lt_coe.mp (hw ▸ h)
    refine winner_eq_coe_iff.mpr ⟨by rwa [Function.update_of_ne hiw.ne'], fun j hj => ?_⟩
    by_cases hji : j = i
    · exact hji.trans_le hiw.le
    · exact hmax j (by rwa [Function.update_of_ne hji] at hj)

/-- A source that is not the winner does not move it by asking for nothing. -/
theorem winner_update_false_of_ne (h : winner asks ≠ i) :
    winner (Function.update asks i false) = winner asks := by
  cases hw : winner asks with
  | bot =>
    rw [winner_eq_bot_iff] at hw ⊢
    intro j
    by_cases hji : j = i
    · simp [hji]
    · rw [Function.update_of_ne hji, hw j]
  | coe w =>
    obtain ⟨hasks, hmax⟩ := winner_eq_coe_iff.mp hw
    have hwi : w ≠ i := fun heq => h (heq ▸ hw)
    refine winner_eq_coe_iff.mpr ⟨by rwa [Function.update_of_ne hwi], fun j hj => ?_⟩
    by_cases hji : j = i
    · simp [hji] at hj
    · exact hmax j (by rwa [Function.update_of_ne hji] at hj)

/-- When the winner gives up, the highest source below it that asks takes over. -/
theorem winner_update_false_self (h : winner asks = i) :
    winner (Function.update asks i false) = winner (fun j => asks j && decide (j < i)) := by
  congr 1
  funext j
  rcases eq_or_ne j i with rfl | hji
  · simp
  · rw [Function.update_of_ne hji]
    cases hj : asks j with
    | false => simp
    | true =>
      have hlt : j < i := lt_of_le_of_ne ((winner_eq_coe_iff.mp h).2 j hj) hji
      simp [hlt]

end Arbiter
