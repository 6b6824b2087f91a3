-- SUMMARY: Values written as two digits each: which texts decode, and that decoding and encoding invert each other up to the spelling of the digits.
import Mathlib.Data.List.Basic
import Mathlib.Logic.Equiv.Defs

/-!
# Pairs of digits

A value is a pair of digits, and a text spells values one behind the other. Several
characters may stand for one digit; encoding chooses one of them.
-/

namespace DigitPairs

variable {χ δ β γ : Type} {value : χ → Option δ} {digit : δ → χ} {pair : δ × δ ≃ β}

/-- The values of a text of an even number of digits. -/
def decode (value : χ → Option δ) (pair : δ × δ ≃ β) : List χ → Option (List β)
  | [] => some []
  | [_] => none
  | c :: d :: rest => do
    let high ← value c
    let low ← value d
    let values ← decode value pair rest
    return pair (high, low) :: values

/-- Two digits for each value. -/
def encode (digit : δ → χ) (pair : δ × δ ≃ β) (values : List β) : List χ :=
  values.flatMap fun b => [digit (pair.symm b).1, digit (pair.symm b).2]

variable {s rest : List χ} {c d : χ} {values : List β}

theorem decode_cons_cons_eq_some : decode value pair (c :: d :: rest) = some values ↔
    ∃ high low values', value c = some high ∧ value d = some low ∧
      decode value pair rest = some values' ∧ values = pair (high, low) :: values' := by
  simp only [decode, bind, Option.bind_eq_some_iff, pure, Option.some.injEq]
  constructor
  · rintro ⟨high, hhigh, low, hlow, values', hrest, rfl⟩
    exact ⟨high, low, values', hhigh, hlow, hrest, rfl⟩
  · rintro ⟨high, low, values', hhigh, hlow, hrest, rfl⟩
    exact ⟨high, hhigh, low, hlow, values', hrest, rfl⟩

/-- Every two characters spell one value. -/
theorem length_of_decode (h : decode value pair s = some values) :
    s.length = 2 * values.length := by
  induction s using decode.induct generalizing values with
  | case1 =>
    cases h
    rfl
  | case2 c => cases h
  | case3 c d rest ih =>
    obtain ⟨high, low, values', -, -, hrest, rfl⟩ := decode_cons_cons_eq_some.mp h
    have hlength := ih hrest
    simp only [List.length_cons]
    omega

/-- The texts that decode are those of an even number of digits. -/
theorem exists_decode_iff : (∃ values, decode value pair s = some values) ↔
    s.length % 2 = 0 ∧ ∀ c ∈ s, ∃ d, value c = some d := by
  induction s using decode.induct with
  | case1 => exact ⟨fun _ => ⟨rfl, fun _ h => nomatch h⟩, fun _ => ⟨[], rfl⟩⟩
  | case2 c => simp [decode]
  | case3 c d rest ih =>
    constructor
    · rintro ⟨values, h⟩
      obtain ⟨high, low, values', hhigh, hlow, hrest, -⟩ := decode_cons_cons_eq_some.mp h
      obtain ⟨heven, hdigits⟩ := ih.mp ⟨values', hrest⟩
      refine ⟨?_, ?_⟩
      · simp only [List.length_cons]
        omega
      · exact List.forall_mem_cons.mpr ⟨⟨high, hhigh⟩,
          List.forall_mem_cons.mpr ⟨⟨low, hlow⟩, hdigits⟩⟩
    · rintro ⟨heven, hdigits⟩
      obtain ⟨⟨high, hhigh⟩, htail⟩ := List.forall_mem_cons.mp hdigits
      obtain ⟨⟨low, hlow⟩, hdigits'⟩ := List.forall_mem_cons.mp htail
      have heven' : rest.length % 2 = 0 := by
        simp only [List.length_cons] at heven
        omega
      obtain ⟨values', hrest⟩ := ih.mpr ⟨heven', hdigits'⟩
      exact ⟨_, decode_cons_cons_eq_some.mpr ⟨high, low, values', hhigh, hlow, hrest, rfl⟩⟩

/-- Encoding gives back the text up to what identifies the spellings of a digit. -/
theorem map_encode_of_decode {fold : χ → γ}
    (hfold : ∀ c d, value c = some d → fold (digit d) = fold c)
    (h : decode value pair s = some values) :
    (encode digit pair values).map fold = s.map fold := by
  induction s using decode.induct generalizing values with
  | case1 =>
    cases h
    rfl
  | case2 c => cases h
  | case3 c d rest ih =>
    obtain ⟨high, low, values', hhigh, hlow, hrest, rfl⟩ := decode_cons_cons_eq_some.mp h
    have hcodes := ih hrest
    simp only [encode, List.flatMap_cons, Equiv.symm_apply_apply, List.cons_append,
      List.nil_append, List.map_cons] at hcodes ⊢
    rw [hfold c high hhigh, hfold d low hlow, hcodes]

/-- Decoding gives back what was encoded. -/
theorem decode_encode (hdigit : ∀ d, value (digit d) = some d) :
    decode value pair (encode digit pair values) = some values := by
  induction values with
  | nil => rfl
  | cons b values ih =>
    rw [encode, List.flatMap_cons]
    refine decode_cons_cons_eq_some.mpr ⟨_, _, values, hdigit _, hdigit _, ih, ?_⟩
    exact congrArg (· :: values) (pair.apply_symm_apply b).symm

end DigitPairs
