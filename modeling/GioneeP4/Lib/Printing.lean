-- SUMMARY: Bounded output buffers: snprintf at a cursor, and series of texts printed until one does not fit.
import GioneeP4.Lib.CText
import GioneeP4.Lib.Words

/-!
# Bounded buffers

A buffer knows which of its bytes were written. `snprintf` writes as much of a
text as leaves room for the NUL. A series of texts is printed one after the other
at a moving cursor, up to the first that is cut short.
-/

namespace Printing

open CText Words

/-- The bytes of a buffer, `none` where nothing was written yet. -/
abbrev Buffer := List (Option Byte)

/-- A buffer of `n` bytes nothing was written to. -/
def fresh (n : Nat) : Buffer := List.replicate n none

/-- `snprintf(buf + pos, end - pos, ...)` of a text. -/
def snprintf (buf : Buffer) (pos : Nat) (t : Text) : Buffer :=
  if pos < buf.length then
    overwrite buf pos ((t.take (buf.length - pos - 1) ++ [0]).map some)
  else buf

/-- The buffer starts with a text. -/
def Holds (buf : Buffer) (t : Text) : Prop := buf.take t.length = t.map some

variable {buf : Buffer} {pos : Nat} {t u : Text}

theorem holds_nil : Holds buf [] := rfl

@[simp] theorem length_snprintf : (snprintf buf pos t).length = buf.length := by
  unfold snprintf
  split
  · apply length_overwrite
    simp only [List.length_map, List.length_append, List.length_take, List.length_cons,
      List.length_nil]
    omega
  · rfl

/-- A text that fits is appended whole, with its NUL behind it. -/
theorem snprintf_of_fits (h : pos + t.length < buf.length) :
    snprintf buf pos t = overwrite buf pos ((t ++ [0]).map some) := by
  have hwhole : t.take (buf.length - pos - 1) = t := List.take_of_length_le (by omega)
  rw [snprintf, if_pos (by omega), hwhole]

/-- Printing behind a text leaves it alone. -/
theorem Holds.snprintf_keeps (h : Holds buf t) (hle : t.length ≤ buf.length) :
    Holds (snprintf buf t.length u) t := by
  unfold Printing.snprintf
  split
  · have htake : (buf.take t.length).length = t.length := List.length_take_of_le hle
    rw [Holds, overwrite, List.append_assoc, List.take_left' htake]
    exact h
  · exact h

/-- A text that fits is appended to the text the buffer starts with. -/
theorem Holds.snprintf (h : Holds buf t) (hfits : t.length + u.length < buf.length) :
    Holds (snprintf buf t.length u) (t ++ u) := by
  rw [Holds, snprintf_of_fits hfits, overwrite, List.append_assoc, h]
  simp [List.take_append, List.take_of_length_le]

/-- Every byte of the text a buffer starts with was written. -/
theorem Holds.written (h : Holds buf t) {i : Nat} (hi : i < t.length) :
    ∃ b, buf[i]? = some (some b) := by
  have hget : (buf.take t.length)[i]? = (t.map some)[i]? := by rw [h]
  rw [List.getElem?_take_of_lt hi, List.getElem?_map, List.getElem?_eq_getElem hi] at hget
  exact ⟨t[i], hget⟩

/-! ## Series of texts -/

/-- What printing a series of texts leaves. -/
structure Printed where
  complete : Bool
  pos : Nat
  buf : Buffer

/-- Prints each text at the cursor, until `ret >= end - pos` for one of them. -/
def printAll (buf : Buffer) (pos : Nat) : List Text → Printed
  | [] => ⟨true, pos, buf⟩
  | t :: ts =>
      if t.length ≥ buf.length - pos then ⟨false, pos, snprintf buf pos t⟩
      else printAll (snprintf buf pos t) (pos + t.length) ts

/-- The texts before the first that does not fit. -/
def fitting (room : Nat) : List Text → List Text
  | [] => []
  | t :: ts => if t.length ≥ room then [] else t :: fitting (room - t.length) ts

/-- A series prints the texts that fit and stands behind them; something printed leaves
    room for the NUL. -/
theorem printAll_spec {ts : List Text} (h : Holds buf t) (hle : t.length ≤ buf.length) :
    let printed := printAll buf t.length ts
    let text := t ++ (fitting (buf.length - t.length) ts).flatten
    printed.pos = text.length ∧ Holds printed.buf text ∧ (text.length < buf.length ∨ text = t) := by
  induction ts generalizing buf t with
  | nil => simpa [printAll, fitting] using h
  | cons u ts ih =>
    simp only [printAll, fitting]
    split
    · simpa using h.snprintf_keeps hle
    · have hfits : t.length + u.length < buf.length := by omega
      have hle' : (t ++ u).length ≤ (snprintf buf t.length u).length := by
        simp only [List.length_append, length_snprintf]
        omega
      obtain ⟨hpos, hholds, hroom⟩ := ih (h.snprintf hfits) hle'
      have hsub : buf.length - (t ++ u).length = buf.length - t.length - u.length := by
        rw [List.length_append, Nat.sub_sub]
      rw [length_snprintf, hsub] at hpos hholds hroom
      rw [List.flatten_cons, ← List.append_assoc, ← List.length_append]
      refine ⟨hpos, hholds, .inl ?_⟩
      rcases hroom with hlt | heq
      · exact hlt
      · rw [heq, List.length_append]
        exact hfits

theorem length_printAll {ts : List Text} : (printAll buf pos ts).buf.length = buf.length := by
  induction ts generalizing buf pos with
  | nil => rfl
  | cons u ts ih =>
    rw [printAll]
    split
    · exact length_snprintf
    · rw [ih, length_snprintf]

/-- A series is printed whole exactly when all of it leaves room for the NUL. -/
theorem printAll_complete_iff {ts : List Text} :
    (printAll buf pos ts).complete = true ↔ ts = [] ∨ pos + ts.flatten.length < buf.length := by
  induction ts generalizing buf pos with
  | nil => simp [printAll]
  | cons u ts ih =>
    simp only [printAll, List.flatten_cons, List.length_append, reduceCtorEq, false_or]
    split
    · exact iff_of_false Bool.false_ne_true (by omega)
    · rw [ih, length_snprintf]
      constructor
      · rintro (rfl | hlt)
        · simp only [List.flatten_nil, List.length_nil]
          omega
        · omega
      · intro hlt
        exact .inr (by omega)

/-- A series that is printed whole moves the cursor behind it. -/
theorem printAll_pos {ts : List Text} (h : (printAll buf pos ts).complete = true) :
    (printAll buf pos ts).pos = pos + ts.flatten.length := by
  induction ts generalizing buf pos with
  | nil => rfl
  | cons u ts ih =>
    simp only [printAll] at h ⊢
    split at h
    · cases h
    · rw [if_neg ‹_›, ih h, List.flatten_cons, List.length_append, Nat.add_assoc]

/-! ## The longest series that fits -/

/-- The longest prefix of a series that leaves room for the NUL; nothing fits in no room. -/
structure LongestPrefix (room : Nat) (ts printed : List Text) : Prop where
  isPrefix : printed <+: ts
  fits : printed = [] ∨ printed.flatten.length < room
  longest : ∀ us, us <+: ts → us.flatten.length < room → us <+: printed

theorem longestPrefix_fitting {ts : List Text} {room : Nat} :
    LongestPrefix room ts (fitting room ts) := by
  induction ts generalizing room with
  | nil => exact ⟨List.prefix_rfl, .inl rfl, fun us hus _ => hus⟩
  | cons u ts ih =>
    rw [fitting]
    split
    · refine ⟨List.nil_prefix, .inl rfl, fun us hus hlt => ?_⟩
      cases us with
      | nil => exact List.prefix_rfl
      | cons v vs =>
        obtain ⟨rfl, -⟩ := List.cons_prefix_cons.mp hus
        rw [List.flatten_cons, List.length_append] at hlt
        omega
    · obtain ⟨hstart, hfits, hlongest⟩ := @ih (room - u.length)
      refine ⟨List.cons_prefix_cons.mpr ⟨rfl, hstart⟩, .inr ?_, fun us hus hlt => ?_⟩
      · rw [List.flatten_cons, List.length_append]
        rcases hfits with hnil | hlt
        · rw [hnil, List.flatten_nil, List.length_nil]
          omega
        · omega
      · cases us with
        | nil => exact List.nil_prefix
        | cons v vs =>
          obtain ⟨rfl, hvs⟩ := List.cons_prefix_cons.mp hus
          rw [List.flatten_cons, List.length_append] at hlt
          exact List.cons_prefix_cons.mpr ⟨rfl, hlongest vs hvs (by omega)⟩

/-! ## The calls of a series -/

section Attempted

variable {α : Type*} {text : α → Text} {room : Nat}

/-- The calls of a series, each with a text, up to the first whose text does not fit; that one is
    made as well. -/
def attempted (text : α → Text) (room : Nat) : List α → List α
  | [] => []
  | c :: cs =>
      c :: if (text c).length ≥ room then [] else attempted text (room - (text c).length) cs

/-- A series goes on behind calls that fit, and ends among calls that do not. -/
theorem attempted_append {cs ds : List α} (hne : cs ≠ []) :
    attempted text room (cs ++ ds) =
      if (cs.map text).flatten.length < room then
        cs ++ attempted text (room - (cs.map text).flatten.length) ds
      else attempted text room cs := by
  induction cs generalizing room with
  | nil => exact absurd rfl hne
  | cons c cs ih =>
    simp only [List.cons_append, attempted, List.map_cons, List.flatten_cons, List.length_append]
    by_cases hlong : (text c).length ≥ room
    · rw [if_pos hlong, if_pos hlong, if_neg (by omega)]
    · rw [if_neg hlong, if_neg hlong]
      cases cs with
      | nil =>
        simp only [List.nil_append, List.map_nil, List.flatten_nil, List.length_nil, Nat.add_zero]
        rw [if_pos (by omega)]
      | cons c' cs =>
        rw [ih (List.cons_ne_nil _ _), Nat.sub_sub]
        by_cases hfits : ((c' :: cs).map text).flatten.length < room - (text c).length
        · rw [if_pos hfits, if_pos (by omega)]
        · rw [if_neg hfits, if_neg (by omega)]

/-- A series makes no calls but its own. -/
theorem mem_of_mem_attempted {cs : List α} {c : α} (h : c ∈ attempted text room cs) : c ∈ cs := by
  induction cs generalizing room with
  | nil => exact h
  | cons d cs ih =>
    rw [attempted] at h
    rcases List.mem_cons.mp h with rfl | hrest
    · exact List.mem_cons_self
    · split at hrest
      · cases hrest
      · exact List.mem_cons_of_mem _ (ih hrest)

end Attempted

end Printing
