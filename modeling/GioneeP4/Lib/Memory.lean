-- SUMMARY: Flat memories: storing and loading series of elements, and series of texts printed through a pointer into memory.
import GioneeP4.Lib.Template

/-!
# Flat memories

A memory gives the element at every address. A store writes a series of elements
from an address on and leaves the rest alone. Texts are printed through a pointer
and the end of a buffer somewhere in memory, with nothing but the pointer
arithmetic to keep them inside; that is what printing to a buffer of its own does.
-/

namespace Memory

open CText Printing

variable {β : Type}

/-- The element at every address. -/
abbrev Mem (β : Type) := Nat → β

/-! ## Storing and loading -/

/-- The memory with some elements stored from an address on. -/
def store (m : Mem β) (a : Nat) (bs : List β) : Mem β := fun i =>
  if i < a then m i else (bs[i - a]?).getD (m i)

/-- The `n` elements from an address on. -/
def load (m : Mem β) (a n : Nat) : List β := (List.range n).map fun i => m (a + i)

variable {m : Mem β} {a b n i : Nat} {bs cs : List β}

@[simp] theorem length_load : (load m a n).length = n := by
  rw [load, List.length_map, List.length_range]

theorem getElem?_load (h : i < n) : (load m a n)[i]? = some (m (a + i)) := by
  simp [load, h]

/-- Outside the elements stored nothing changes. -/
theorem store_outside (h : i < a ∨ a + bs.length ≤ i) : store m a bs i = m i := by
  unfold store
  split
  · rfl
  · rw [List.getElem?_eq_none (by omega)]
    rfl

theorem store_inside (h : i < bs.length) : store m a bs (a + i) = bs[i] := by
  rw [store, if_neg (by omega), Nat.add_sub_cancel_left, List.getElem?_eq_getElem h]
  rfl

/-- What was stored is there. -/
theorem load_store : load (store m a bs) a bs.length = bs := by
  apply List.ext_getElem
  · exact length_load
  · intro i hi hbs
    rw [length_load] at hi
    simp only [load, List.getElem_map, List.getElem_range]
    exact store_inside hi

/-- A load does not see what is stored beside it. -/
theorem load_store_apart (h : b + n ≤ a ∨ a + bs.length ≤ b) :
    load (store m a bs) b n = load m b n := by
  apply List.map_congr_left
  intro i hi
  have hlt := List.mem_range.mp hi
  apply store_outside
  omega

/-- Of a longer series the first elements can be loaded. -/
theorem load_store_take (h : n ≤ bs.length) : load (store m a bs) a n = bs.take n := by
  apply List.ext_getElem
  · rw [length_load, List.length_take, Nat.min_eq_left h]
  · intro i hi _
    rw [length_load] at hi
    simp only [load, List.getElem_map, List.getElem_range, List.getElem_take]
    exact store_inside (by omega)

/-! ## Printing through a pointer -/

/-- `snprintf(pos, size, ...)` of a text. The size is a difference of pointers. -/
def snprintfTo (m : Mem Byte) (pos : Nat) (size : Int) (t : Text) : Mem Byte :=
  if size = 0 then m
  else if 0 < size then store m pos (t.take (size.toNat - 1) ++ [0])
  -- as a `size_t`, what is below 0 is more than any text
  else store m pos (t ++ [0])

/-- What printing a series of texts through a pointer leaves. -/
structure PrintedTo where
  complete : Bool
  pos : Nat
  mem : Mem Byte

/-- Prints each text at the pointer, until `ret >= end - pos` for one of them. -/
def printTo (m : Mem Byte) (pos fin : Nat) : List Text → PrintedTo
  | [] => ⟨true, pos, m⟩
  | t :: ts =>
      let size : Int := (fin : Int) - pos
      if (t.length : Int) ≥ size then ⟨false, pos, snprintfTo m pos size t⟩
      else printTo (snprintfTo m pos size t) (pos + t.length) fin ts

/-- The memory behind a buffer at an address: the bytes written to the buffer, and what was there
    before. -/
def commit (m : Mem Byte) (base : Nat) (buf : Buffer) : Mem Byte := fun i =>
  if i < base then m i else (buf[i - base]?.join).getD (m i)

section PrintTo

variable {m : Mem Byte} {base : Nat} {buf : Buffer} {pos : Nat} {t : Text} {ts : List Text}

theorem commit_fresh : commit m base (fresh n) = m := by
  funext i
  unfold commit
  split
  · rfl
  · have hnone : ((fresh n)[i - base]?).join = none := by
      rw [fresh, List.getElem?_replicate]
      split <;> rfl
    rw [hnone]
    rfl

/-- Beside the buffer there is what was there before. -/
theorem commit_outside {i : Nat} (h : i < base ∨ base + buf.length ≤ i) : commit m base buf i = m i := by
  unfold commit
  split
  · rfl
  · rw [List.getElem?_eq_none (by omega)]
    rfl

/-- Overwriting a window of the buffer stores it in memory. -/
theorem commit_overwrite {w : List Byte} (h : pos + w.length ≤ buf.length) :
    commit m base (Words.overwrite buf pos (w.map some)) =
      store (commit m base buf) (base + pos) w := by
  have hfits : pos + (w.map some).length ≤ buf.length := by rwa [List.length_map]
  funext i
  by_cases hinside : base + pos ≤ i ∧ i < base + pos + w.length
  · obtain ⟨j, rfl⟩ : ∃ j, i = base + pos + j := ⟨i - (base + pos), by omega⟩
    have hj : j < w.length := by omega
    have hwindow : (Words.overwrite buf pos (w.map some))[pos + j]? = some (some w[j]) := by
      have hlen : (buf.take pos).length = pos := List.length_take_of_le (by omega)
      rw [Words.overwrite, List.append_assoc, List.getElem?_append_right (by omega), hlen,
        Nat.add_sub_cancel_left, List.getElem?_append_left (by rwa [List.length_map]),
        List.getElem?_map, List.getElem?_eq_getElem hj]
      rfl
    rw [store_inside hj, commit, if_neg (by omega), show base + pos + j - base = pos + j by omega,
      hwindow]
    rfl
  · rw [store_outside (by omega)]
    unfold commit
    split
    · rfl
    · rw [Words.getElem?_overwrite_of_notMem hfits (by rw [List.length_map]; omega)]

/-- One call of `snprintf` in memory is one into the buffer. -/
theorem snprintfTo_commit (h : pos ≤ buf.length) :
    snprintfTo (commit m base buf) (base + pos)
        (((base + buf.length : Nat) : Int) - ((base + pos : Nat) : Int)) t =
      commit m base (snprintf buf pos t) := by
  have hsize : ((base + buf.length : Nat) : Int) - ((base + pos : Nat) : Int) =
      ((buf.length - pos : Nat) : Int) := by omega
  rw [hsize, snprintfTo, Int.toNat_natCast, snprintf]
  by_cases hroom : pos < buf.length
  · rw [if_neg (by omega), if_pos (by omega), if_pos hroom, commit_overwrite]
    simp only [List.length_append, List.length_take, List.length_singleton]
    omega
  · rw [if_pos (by omega), if_neg hroom]

/-- Printing through a pointer is printing to the buffer. -/
theorem printTo_commit (h : pos ≤ buf.length) :
    printTo (commit m base buf) (base + pos) (base + buf.length) ts =
      let printed := printAll buf pos ts
      ⟨printed.complete, base + printed.pos, commit m base printed.buf⟩ := by
  induction ts generalizing buf pos with
  | nil => rfl
  | cons t ts ih =>
    simp only [printTo, printAll]
    rw [snprintfTo_commit h]
    by_cases hcut : t.length ≥ buf.length - pos
    · rw [if_pos hcut, if_pos (by omega)]
    · rw [if_neg hcut, if_neg (by omega)]
      have hroom : pos + t.length ≤ (snprintf buf pos t).length := by
        rw [length_snprintf]
        omega
      have hrest := ih hroom
      rw [length_snprintf, ← Nat.add_assoc] at hrest
      exact hrest

/-- From the start of a buffer, printing through a pointer is printing to a fresh buffer. -/
theorem printTo_fresh :
    printTo m base (base + n) ts =
      let printed := printAll (fresh n) 0 ts
      ⟨printed.complete, base + printed.pos, commit m base printed.buf⟩ := by
  have hprint := @printTo_commit m base (fresh n) 0 ts (Nat.zero_le _)
  rw [commit_fresh, length_fresh, Nat.add_zero] at hprint
  exact hprint

/-- From the start of a buffer, a series of texts is stored as one text that is cut off. -/
theorem printTo_mem (hne : ts ≠ []) :
    (printTo m base (base + n) ts).mem = snprintfTo m base n ts.flatten := by
  have hone := @snprintfTo_commit m base (fresh n) 0 ts.flatten (Nat.zero_le _)
  rw [commit_fresh, length_fresh, Nat.add_zero, Nat.cast_add, add_sub_cancel_left] at hone
  rw [printTo_fresh, hone]
  exact congrArg (commit m base) (printAll_buf hne)

/-- No text is stored behind the end of a buffer, or before its start. -/
theorem snprintfTo_outside {i : Nat} (h : i < base ∨ base + n ≤ i) :
    snprintfTo m base n t i = m i := by
  unfold snprintfTo
  split
  · rfl
  · rw [if_pos (by omega)]
    apply store_outside
    simp only [List.length_append, List.length_take, List.length_singleton]
    omega

/-- A text that fits is there, with its NUL. -/
theorem load_snprintfTo (h : t.length < n) :
    load (snprintfTo m base n t) base (t.length + 1) = t ++ [0] := by
  have hwhole : t.take ((n : Int).toNat - 1) = t := List.take_of_length_le (by omega)
  have hload := @load_store _ m base (t ++ [0])
  rw [List.length_append, List.length_singleton] at hload
  rw [snprintfTo, if_neg (by omega), if_pos (by omega), hwhole, hload]

/-- What fits of a text is there. -/
theorem load_snprintfTo_take {k : Nat} (h : k < n) (hk : k ≤ t.length) :
    load (snprintfTo m base n t) base k = t.take k := by
  rw [snprintfTo, if_neg (by omega), if_pos (by omega), load_store_take]
  · rw [List.take_append_of_le_length, List.take_take, Nat.min_eq_left (by omega)]
    rw [List.length_take]
    omega
  · simp only [List.length_append, List.length_take, List.length_singleton]
    omega

end PrintTo

/-! ## Texts read from memory -/

/-- Prints texts that are formatted from the memory as it is when their turn comes. -/
def printTexts (m : Mem Byte) (pos fin : Nat) : List (Mem Byte → Text) → PrintedTo
  | [] => ⟨true, pos, m⟩
  | t :: ts =>
      let size : Int := (fin : Int) - pos
      if ((t m).length : Int) ≥ size then ⟨false, pos, snprintfTo m pos size (t m)⟩
      else printTexts (snprintfTo m pos size (t m)) (pos + (t m).length) fin ts

/-- The text is formatted from the `n` elements at an address. -/
def ReadsFrom (a n : Nat) (t : Mem Byte → Text) : Prop :=
  ∀ m m' : Mem Byte, (∀ i < n, m (a + i) = m' (a + i)) → t m = t m'

/-- Texts read beside the buffer may as well be read before anything is printed. -/
theorem printTexts_eq {ts : List (Mem Byte → Text)} {m : Mem Byte} {base pos : Nat}
    (hreads : ∀ t ∈ ts, ReadsFrom a n t) (hapart : a + n ≤ base ∨ b ≤ a) (hpos : base ≤ pos)
    (hroom : pos ≤ b) : printTexts m pos b ts = printTo m pos b (ts.map (· m)) := by
  induction ts generalizing m pos with
  | nil => rfl
  | cons t ts ih =>
    have hsize : (b : Int) - pos = ((b - pos : Nat) : Int) := by omega
    simp only [printTexts, printTo, List.map_cons, hsize]
    split
    · rfl
    · rename_i hfits
      have hsame : ∀ i < n, snprintfTo m pos ((b - pos : Nat) : Int) (t m) (a + i) = m (a + i) := by
        intro i hi
        apply snprintfTo_outside
        omega
      rw [ih (fun u hu => hreads u (List.mem_cons_of_mem _ hu)) (by omega) (by omega)]
      congr 1
      apply List.map_congr_left
      exact fun u hu => hreads u (List.mem_cons_of_mem _ hu) _ _ hsame

end Memory
