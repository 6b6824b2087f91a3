-- SUMMARY: Windows of lists (reading one, overwriting one in place) and little-endian 32-bit words as four bytes.
import Mathlib.Data.List.Basic

/-!
# Words in byte lists

A window of a list starts at an index and spans some elements. Overwriting a
window that lies inside the list keeps the length and every element outside the
window, and reading the window back gives what was written. A 32-bit word is
stored in a window of four bytes, least significant byte first.
-/

namespace Words

variable {α : Type*}

/-! ## Windows -/

/-- The `n` elements from index `i` on. -/
def window (l : List α) (i n : Nat) : List α := (l.drop i).take n

/-- A part of a list is the window that starts behind what comes before it. -/
theorem window_append {front part rest : List α} {i n : Nat} (hi : front.length = i)
    (hn : part.length = n) : window (front ++ (part ++ rest)) i n = part := by
  rw [window, List.drop_left' hi, List.take_left' hn]

/-- The list with the elements from index `i` on replaced by `ws`. -/
def overwrite (l : List α) (i : Nat) (ws : List α) : List α :=
  l.take i ++ ws ++ l.drop (i + ws.length)

section Overwrite

variable {l ws : List α} {i : Nat}

@[simp] theorem length_overwrite (h : i + ws.length ≤ l.length) :
    (overwrite l i ws).length = l.length := by
  simp only [overwrite, List.length_append, List.length_take, List.length_drop]
  omega

/-- Reading back the window just written. -/
theorem window_overwrite (h : i + ws.length ≤ l.length) :
    window (overwrite l i ws) i ws.length = ws := by
  rw [overwrite, List.append_assoc]
  exact window_append (List.length_take_of_le (by omega)) rfl

/-- Elements outside the window are left alone. -/
theorem getElem?_overwrite_of_notMem (h : i + ws.length ≤ l.length) {j : Nat}
    (hj : j < i ∨ i + ws.length ≤ j) : (overwrite l i ws)[j]? = l[j]? := by
  have hi : (l.take i).length = i := List.length_take_of_le (by omega)
  simp only [overwrite, List.append_assoc]
  rcases hj with hlt | hge
  · rw [List.getElem?_append_left (by omega), List.getElem?_take_of_lt hlt]
  · rw [List.getElem?_append_right (by omega), List.getElem?_append_right (by omega),
      List.getElem?_drop]
    congr 1
    omega

end Overwrite

/-! ## Little-endian words -/

/-- The four bytes of a word, least significant first. -/
def leBytes (x : BitVec 32) : List (BitVec 8) :=
  [x.extractLsb' 0 8, x.extractLsb' 8 8, x.extractLsb' 16 8, x.extractLsb' 24 8]

/-- The word four bytes spell, least significant first; 0 for any other number of bytes. -/
def ofLeBytes : List (BitVec 8) → BitVec 32
  | [b₀, b₁, b₂, b₃] => b₃ ++ b₂ ++ b₁ ++ b₀
  | _ => 0

@[simp] theorem length_leBytes {x : BitVec 32} : (leBytes x).length = 4 := rfl

@[simp] theorem ofLeBytes_leBytes {x : BitVec 32} : ofLeBytes (leBytes x) = x := by
  simp only [ofLeBytes, leBytes]
  ext i hi
  simp only [BitVec.getElem_append, BitVec.getElem_extractLsb']
  split
  · simp [BitVec.getLsbD_eq_getElem hi]
  · split
    · rw [show 8 + (i - 8) = i by omega, BitVec.getLsbD_eq_getElem hi]
    · split
      · rw [show 16 + (i - 8 - 8) = i by omega, BitVec.getLsbD_eq_getElem hi]
      · rw [show 24 + (i - 8 - 8 - 8) = i by omega, BitVec.getLsbD_eq_getElem hi]

/-- The word at index `i` of a byte list, 0 when fewer than four bytes are left. -/
def wordAt (l : List (BitVec 8)) (i : Nat) : BitVec 32 := ofLeBytes (window l i 4)

theorem wordAt_of_short {l : List (BitVec 8)} {i : Nat} (h : l.length < i + 4) :
    wordAt l i = 0 := by
  have hlen : (window l i 4).length < 4 := by
    simp only [window, List.length_take, List.length_drop]
    omega
  unfold wordAt ofLeBytes
  split
  · rename_i heq
    simp [heq] at hlen
  · rfl

/-- Words whose four bytes are the same are the same. -/
theorem wordAt_congr {l l' : List (BitVec 8)} {i : Nat}
    (h : ∀ j, i ≤ j → j < i + 4 → l[j]? = l'[j]?) : wordAt l i = wordAt l' i := by
  have hwindow : window l i 4 = window l' i 4 := by
    apply List.ext_getElem?
    intro j
    rw [window, window, List.getElem?_take, List.getElem?_take]
    split
    · rw [List.getElem?_drop, List.getElem?_drop]
      exact h _ (by omega) (by omega)
    · rfl
  rw [wordAt, wordAt, hwindow]

/-- The last of its four bytes gives a word its sign. -/
theorem msb_wordAt {l : List (BitVec 8)} {i : Nat} {b : BitVec 8} (h : l[i + 3]? = some b) :
    (wordAt l i).msb = b.msb := by
  obtain ⟨hlen, hb⟩ := List.getElem?_eq_some_iff.mp h
  have hwindow : window l i 4 = [l[i], l[i + 1], l[i + 2], b] := by
    rw [window, List.drop_eq_getElem_cons (by omega), List.drop_eq_getElem_cons (by omega),
      List.drop_eq_getElem_cons (by omega), List.drop_eq_getElem_cons (by omega), ← hb]
    rfl
  rw [wordAt, hwindow, ofLeBytes]
  change @BitVec.msb (8 + 8 + 8 + 8) (b ++ l[i + 2] ++ l[i + 1] ++ l[i]) = b.msb
  simp only [BitVec.msb_append]
  rfl

theorem wordAt_overwrite {l : List (BitVec 8)} {i : Nat} {x : BitVec 32} (h : i + 4 ≤ l.length) :
    wordAt (overwrite l i (leBytes x)) i = x := by
  have hread : window (overwrite l i (leBytes x)) i (leBytes x).length = leBytes x :=
    window_overwrite (by simpa using h)
  rw [wordAt, show (4 : Nat) = (leBytes x).length from rfl, hread, ofLeBytes_leBytes]

end Words
