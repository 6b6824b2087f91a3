-- SUMMARY: Structs as messages: cleared, assigned member by member, handed on as bytes, and read back from a window for each member.
import GioneeP4.Lib.Layout
import GioneeP4.Lib.Register
import GioneeP4.Lib.Words

/-!
# Structs as messages

A struct is cleared, and members are assigned one after the other, each as many
bytes as it has. Handed on as bytes it does not tell where in memory it was built,
and a member is a window of the bytes: the last that was assigned to it, or what
the struct was cleared with.
-/

namespace Memory

open Register Words

variable {ι β : Type} {size : ι → Nat}

/-! ## Sizes -/

/-- Where the fields of a list end when they follow each other, aligned, from an offset on. -/
def endFrom (size align : ι → Nat) (start : Nat) (is : List ι) : Nat :=
  is.foldl (fun n i => alignUp n (align i) + size i) start

/-- `sizeof` a struct whose fields are declared in an order. -/
def alignedSize (size align : ι → Nat) (declared : List ι) : Nat :=
  alignUp (endFrom size align 0 declared) ((declared.map align).foldl max 1)

theorem le_alignUp {n a : Nat} : n ≤ alignUp n a := Nat.le_add_right ..

theorem le_endFrom {align : ι → Nat} {start : Nat} {is : List ι} :
    start ≤ endFrom size align start is := by
  induction is generalizing start with
  | nil => exact le_rfl
  | cons i is ih => exact le_trans (le_trans le_alignUp (Nat.le_add_right ..)) ih

theorem offsetFrom_le_endFrom [DecidableEq ι] {align : ι → Nat} {start : Nat} {is : List ι} {i : ι}
    (hi : i ∈ is) : offsetFrom size align start is i + size i ≤ endFrom size align start is := by
  induction is generalizing start with
  | nil => cases hi
  | cons k is ih =>
    rw [offsetFrom]
    by_cases hik : i = k
    · subst hik
      rw [if_pos rfl]
      exact le_endFrom
    · rw [if_neg hik]
      exact ih (List.mem_of_ne_of_mem hik hi)

namespace Layout

variable {L : Layout ι size} {total : Nat}

/-- Every field lies within the first bytes of the struct. -/
def Within (L : Layout ι size) (total : Nat) : Prop := ∀ i, L.offset i + size i ≤ total

theorem within_aligned [DecidableEq ι] {align : ι → Nat} {declared : List ι}
    {h : ∀ i, i ∈ declared} :
    (Layout.aligned size align declared h).Within (alignedSize size align declared) :=
  fun i => le_trans (offsetFrom_le_endFrom (h i)) le_alignUp

theorem Within.outside (h : L.Within total) {base a : Nat} (ha : a < base ∨ base + total ≤ a)
    (i : ι) : L.Outside base i a := by
  have hi := h i
  rcases ha with hbefore | hbehind
  · exact .inl (by omega)
  · exact .inr (by omega)

/-- Fields depend on the bytes of the struct only. -/
theorem Within.get_congr (h : L.Within total) {m m' : Mem β} {base : Nat} {i : ι}
    (hm : ∀ k < total, m (base + k) = m' (base + k)) : L.get m base i = L.get m' base i := by
  have hi := h i
  apply List.map_congr_left
  intro k hk
  have hlt := List.mem_range.mp hk
  rw [Nat.add_assoc]
  exact hm _ (by omega)

/-! ## Windows -/

/-- A field in the bytes of a struct. -/
def read (L : Layout ι size) (bytes : List β) (i : ι) : List β := window bytes (L.offset i) (size i)

theorem read_load (h : L.Within total) {m : Mem β} {base : Nat} {i : ι} :
    L.read (load m base total) i = L.get m base i := by
  have hi := h i
  apply List.ext_getElem?
  intro k
  rw [read, window, List.getElem?_take]
  split
  · rename_i hk
    rw [List.getElem?_drop, getElem?_load (by omega), get, getElem?_load hk, Nat.add_assoc]
  · rename_i hk
    rw [List.getElem?_eq_none (by rw [get, length_load]; omega)]

/-! ## Assignments -/

/-- The memory after assignments to fields of the struct at an address. -/
def assign (L : Layout ι size) (base : Nat) (m : Mem β) (assignments : List (ι × List β)) : Mem β :=
  Machine.after (fun m a => L.put m base a.1 a.2) m assignments

/-- A struct is cleared, and then assigned to. -/
def build (L : Layout ι size) (clear : β) (total : Nat) (m : Mem β) (base : Nat)
    (assignments : List (ι × List β)) : Mem β :=
  L.assign base (store m base (List.replicate total clear)) assignments

/-- The bytes of a struct that was cleared and assigned to. -/
def image (L : Layout ι size) (clear : β) (total : Nat) (assignments : List (ι × List β)) : List β :=
  load (L.build clear total (fun _ => clear) 0 assignments) 0 total

/-- Each assignment fills its field. -/
def Fills (size : ι → Nat) (assignments : List (ι × List β)) : Prop :=
  ∀ a ∈ assignments, a.2.length = size a.1

variable {m m' : Mem β} {base base' a : Nat} {i : ι} {clear : β} {assignments : List (ι × List β)}

@[simp] theorem length_image : (L.image clear total assignments).length = total := length_load

theorem assign_outside (hfills : Fills size assignments) (ha : ∀ i, L.Outside base i a) :
    L.assign base m assignments a = m a :=
  Machine.after_invariant (P := fun t : Mem β => t a = m a) rfl
    fun _ b hb ht => (put_outside (hfills b hb).le (ha b.1)).trans ht

theorem build_outside (hwithin : L.Within total) (hfills : Fills size assignments)
    (ha : a < base ∨ base + total ≤ a) : L.build clear total m base assignments a = m a := by
  rw [build, assign_outside hfills (hwithin.outside ha)]
  apply store_outside
  rwa [List.length_replicate]

/-- Stores at the same distance from two addresses keep two memories alike there. -/
theorem store_alike {o n : Nat} {bs : List β} (h : ∀ k < n, m (base + k) = m' (base' + k)) :
    ∀ k < n, store m (base + o) bs (base + k) = store m' (base' + o) bs (base' + k) := by
  intro k hk
  simp only [store, Nat.add_sub_add_left, Nat.add_lt_add_iff_left, h k hk]

theorem assign_alike (h : ∀ k < total, m (base + k) = m' (base' + k)) :
    ∀ k < total, L.assign base m assignments (base + k) = L.assign base' m' assignments (base' + k) := by
  induction assignments generalizing m m' with
  | nil => exact h
  | cons b assignments ih => exact ih (store_alike h)

/-- The bytes handed on do not tell where the struct was built, or over what. -/
theorem load_build : load (L.build clear total m base assignments) base total =
    L.image clear total assignments := by
  have hcleared : ∀ k < total, store m base (List.replicate total clear) (base + k) =
      store (fun _ => clear) 0 (List.replicate total clear) (0 + k) := by
    intro k hk
    have hlength : k < (List.replicate total clear).length := by rwa [List.length_replicate]
    rw [store_inside hlength, store_inside hlength]
  apply List.map_congr_left
  intro k hk
  exact assign_alike hcleared k (List.mem_range.mp hk)

section Fields

variable [DecidableEq ι]

/-- What an assignment writes to a field. -/
def assignedTo (i : ι) (a : ι × List β) : Option (List β) := if a.1 = i then some a.2 else none

theorem get_put {b : ι × List β} (hfills : b.2.length = size b.1) :
    L.get (L.put m base b.1 b.2) base i = Register.step (L.get m base i) (assignedTo i b) := by
  rw [assignedTo]
  split
  · rename_i hi
    subst hi
    rw [get_put_self hfills.le, List.drop_eq_nil_of_le (by rw [get, length_load, hfills]),
      List.append_nil]
    rfl
  · rename_i hi
    exact get_put_other hfills.le hi

/-- A field is a register of the assignments. -/
theorem get_assign (hfills : Fills size assignments) :
    L.get (L.assign base m assignments) base i =
      (lastWrite (assignments.map (assignedTo i))).getD (L.get m base i) := by
  rw [← Register.after_step]
  exact Machine.after_simulates (P := fun _ => True) (f := fun m => L.get m base i) trivial
    (fun _ _ _ _ => trivial) fun _ b hb _ => get_put (hfills b hb)

/-- A field of the struct holds what it was assigned last. -/
theorem get_build (hwithin : L.Within total) (hfills : Fills size assignments) :
    L.get (L.build clear total m base assignments) base i =
      (lastWrite (assignments.map (assignedTo i))).getD (List.replicate (size i) clear) := by
  have hi := hwithin i
  rw [build, get_assign hfills]
  congr 1
  apply List.ext_getElem
  · rw [get, length_load, List.length_replicate]
  · intro k hk _
    rw [get, length_load] at hk
    have hinside : L.offset i + k < (List.replicate total clear).length := by
      rw [List.length_replicate]
      omega
    simp only [get, load, List.getElem_map, List.getElem_range, List.getElem_replicate]
    rw [Nat.add_assoc, store_inside hinside, List.getElem_replicate]

/-- The same of a window of its bytes. -/
theorem read_image (hwithin : L.Within total) (hfills : Fills size assignments) :
    L.read (L.image clear total assignments) i =
      (lastWrite (assignments.map (assignedTo i))).getD (List.replicate (size i) clear) := by
  rw [image, read_load hwithin, get_build hwithin hfills]

end Fields

end Layout

end Memory
