-- SUMMARY: The lines of a file, and fields of fixed width that a filler pads.
import Mathlib.Data.List.DropRight

/-!
# Lines and fields

A file is the lines it is read by, one behind the other. A field of fixed width
holds a text padded at its end, and gives back the text unless that is too long or
ends like the padding.
-/

namespace ByteFiles

variable {α : Type*}

/-! ## Lines -/

section Lines

variable [DecidableEq α]

/-- The lines of a file, each with the separator that ends it; the last may have none. -/
def lines (sep : α) : List α → List (List α)
  | [] => []
  | c :: cs =>
      if c = sep then [c] :: lines sep cs
      else
        match lines sep cs with
        | [] => [[c]]
        | l :: ls => (c :: l) :: ls

variable {sep : α} {file : List α}

/-- No byte is lost between the lines. -/
@[simp] theorem flatten_lines : (lines sep file).flatten = file := by
  induction file with
  | nil => rfl
  | cons c cs ih =>
    rw [lines]
    split
    · rw [List.flatten_cons, ih]
      rfl
    · split
      · rename_i hlines
        rw [hlines] at ih
        rw [← ih]
        rfl
      · rename_i hlines
        rw [hlines] at ih
        rw [← ih]
        rfl

/-- Only an empty file has no lines. -/
theorem lines_eq_nil_iff : lines sep file = [] ↔ file = [] := by
  constructor
  · intro h
    rw [← @flatten_lines _ _ sep file, h, List.flatten_nil]
  · rintro rfl
    rfl

end Lines

/-! ## Fields -/

variable {fill : α} {t : List α} {n : Nat}

/-- A text in a field of `n`, cut off or padded. -/
def pad (fill : α) (n : Nat) (t : List α) : List α := (t ++ List.replicate n fill).take n

@[simp] theorem length_pad : (pad fill n t).length = n := by
  simp only [pad, List.length_take, List.length_append, List.length_replicate]
  omega

theorem pad_of_length_le (h : t.length ≤ n) :
    pad fill n t = t ++ List.replicate (n - t.length) fill := by
  rw [pad, List.take_append, List.take_of_length_le h, List.take_replicate,
    Nat.min_eq_left (Nat.sub_le ..)]

theorem pad_of_le_length (h : n ≤ t.length) : pad fill n t = t.take n :=
  List.take_append_of_le_length h

section Strip

variable [DecidableEq α]

/-- A field without its padding. -/
def strip (fill : α) (field : List α) : List α := field.rdropWhile (· = fill)

theorem strip_append_replicate {m : Nat} (h : t.getLast? ≠ some fill) :
    strip fill (t ++ List.replicate m fill) = t := by
  induction m with
  | zero =>
    rw [List.replicate_zero, List.append_nil]
    refine List.rdropWhile_eq_self_iff.mpr fun hne => ?_
    rw [decide_eq_true_eq]
    intro hlast
    exact h (by rw [List.getLast?_eq_some_getLast hne, hlast])
  | succ m ih =>
    rw [List.replicate_succ', ← List.append_assoc, strip, List.rdropWhile_concat,
      if_pos (decide_eq_true rfl)]
    exact ih

/-- A field gives back a text that fits and does not end like the padding. -/
theorem strip_pad (hle : t.length ≤ n) (hlast : t.getLast? ≠ some fill) :
    strip fill (pad fill n t) = t := by
  rw [pad_of_length_le hle, strip_append_replicate hlast]

end Strip

end ByteFiles
