-- SUMMARY: Structs in memory: fields that do not overlap, what storing into one leaves of the others, and walks that store into those present.
import GioneeP4.Lib.Fill
import GioneeP4.Lib.Memory

/-!
# Structs in memory

A layout gives each field of a struct its own bytes. Bytes stored at the start of
a field, no more of them than it has, leave every other byte of memory alone; so
does a walk that stores into the fields that are present.
-/

namespace Memory

open Fill

variable {ι β : Type} {size : ι → Nat}

/-- Where the fields of a struct start, no two of them overlapping. -/
structure Layout (ι : Type) (size : ι → Nat) where
  offset : ι → Nat
  apart : ∀ i j, i ≠ j → offset i + size i ≤ offset j ∨ offset j + size j ≤ offset i

/-! ## Aligned layouts -/

/-- The next multiple of an alignment. -/
def alignUp (n a : Nat) : Nat := n + (a - n % a) % a

/-- The offset of a field when the fields of a list follow each other, aligned, from an offset on. -/
def offsetFrom [DecidableEq ι] (size align : ι → Nat) (start : Nat) : List ι → ι → Nat
  | [], _ => start
  | i :: is, j =>
      let offset := alignUp start (align i)
      if j = i then offset else offsetFrom size align (offset + size i) is j

section Aligned

variable [DecidableEq ι] {align : ι → Nat} {start : Nat} {is : List ι} {i j : ι}

theorem le_offsetFrom : start ≤ offsetFrom size align start is j := by
  induction is generalizing start with
  | nil => exact le_rfl
  | cons i is ih =>
    simp only [offsetFrom]
    have halign : start ≤ alignUp start (align i) := Nat.le_add_right ..
    split
    · exact halign
    · exact le_trans (le_trans halign (Nat.le_add_right ..)) ih

theorem offsetFrom_apart (hi : i ∈ is) (hj : j ∈ is) (hne : i ≠ j) :
    offsetFrom size align start is i + size i ≤ offsetFrom size align start is j ∨
      offsetFrom size align start is j + size j ≤ offsetFrom size align start is i := by
  induction is generalizing start with
  | nil => cases hi
  | cons k is ih =>
    simp only [offsetFrom]
    by_cases hik : i = k
    · subst hik
      rw [if_pos rfl, if_neg hne.symm]
      exact .inl le_offsetFrom
    · rw [if_neg hik]
      by_cases hjk : j = k
      · subst hjk
        rw [if_pos rfl]
        exact .inr le_offsetFrom
      · rw [if_neg hjk]
        exact ih (List.mem_of_ne_of_mem hik hi) (List.mem_of_ne_of_mem hjk hj)

/-- The layout of a struct whose fields are declared in an order. -/
def Layout.aligned (size align : ι → Nat) (declared : List ι) (h : ∀ i, i ∈ declared) :
    Layout ι size where
  offset := offsetFrom size align 0 declared
  apart i j hne := offsetFrom_apart (h i) (h j) hne

end Aligned

/-! ## Fields -/

namespace Layout

variable {L : Layout ι size} {m : Mem β} {base a : Nat} {i j : ι} {bs : List β}

/-- The elements of a field of the struct at an address. -/
def get (L : Layout ι size) (m : Mem β) (base : Nat) (i : ι) : List β :=
  load m (base + L.offset i) (size i)

/-- The memory with elements stored from the start of a field on. -/
def put (L : Layout ι size) (m : Mem β) (base : Nat) (i : ι) (bs : List β) : Mem β :=
  store m (base + L.offset i) bs

/-- An address that is not one of a field's. -/
def Outside (L : Layout ι size) (base : Nat) (i : ι) (a : Nat) : Prop :=
  a < base + L.offset i ∨ base + L.offset i + size i ≤ a

theorem put_outside (hfits : bs.length ≤ size i) (ha : L.Outside base i a) :
    L.put m base i bs a = m a := by
  apply store_outside
  rcases ha with hbefore | hbehind
  · exact .inl hbefore
  · exact .inr (by omega)

/-- What does not fill a field leaves its rest. -/
theorem get_put_self (hfits : bs.length ≤ size i) :
    L.get (L.put m base i bs) base i = bs ++ (L.get m base i).drop bs.length := by
  apply List.ext_getElem?
  intro k
  by_cases hk : k < size i
  · rw [get, getElem?_load hk, put]
    by_cases hstored : k < bs.length
    · rw [store_inside hstored, List.getElem?_append_left hstored, List.getElem?_eq_getElem hstored]
    · rw [store_outside (.inr (by omega)), List.getElem?_append_right (by omega),
        List.getElem?_drop, Nat.add_sub_cancel' (by omega), get, getElem?_load hk]
  · rw [List.getElem?_eq_none, List.getElem?_eq_none]
    · rw [List.length_append, List.length_drop, get, length_load]
      omega
    · rw [get, length_load]
      omega

theorem get_put_other (hfits : bs.length ≤ size i) (hne : i ≠ j) :
    L.get (L.put m base i bs) base j = L.get m base j := by
  apply load_store_apart
  have hapart := L.apart i j hne
  omega

/-! ## Walks -/

section Walk

variable {written : ι → List β → List β} {present : ι → Option (List β)} {is : List ι}

/-- Stores into each field of a list what its payload, if it has one, is written as. -/
def putAll (L : Layout ι size) (written : ι → List β → List β) (present : ι → Option (List β))
    (m : Mem β) (base : Nat) (is : List ι) : Mem β :=
  is.foldl (fun m i => update (fun p m => L.put m base i (written i p)) (present i) m) m

/-- A walk changes fields that are present, and nothing else. -/
theorem putAll_outside (hfits : ∀ i p, (written i p).length ≤ size i)
    (ha : ∀ i, present i ≠ none → L.Outside base i a) :
    L.putAll written present m base is a = m a := by
  induction is generalizing m with
  | nil => rfl
  | cons i is ih =>
    rw [putAll, List.foldl_cons]
    refine Eq.trans ih ?_
    cases hp : present i with
    | none => rfl
    | some p => exact put_outside (hfits i p) (ha i (by rw [hp]; exact Option.some_ne_none p))

/-- After a walk a field holds what its payload is written as, and its own rest. -/
theorem get_putAll [DecidableEq ι] (hfits : ∀ i p, (written i p).length ≤ size i)
    (hnodup : is.Nodup) (hi : i ∈ is) :
    L.get (L.putAll written present m base is) base i =
      update (fun p old => written i p ++ old.drop (written i p).length) (present i)
        (L.get m base i) := by
  have hfold := @field_foldl_store _ _ _ _ _ (fun m i => L.get m base i)
    (fun p m i => L.put m base i (written i p))
    (fun i p old => written i p ++ old.drop (written i p).length) present
    (fun p m i => get_put_self (hfits i p)) (fun p m i j hne => get_put_other (hfits j p) hne)
    is hnodup m i
  rw [if_pos hi] at hfold
  exact hfold

end Walk

/-! ## Records in memory -/

/-- What the payloads of a reply do to a record and to the struct that holds it: nothing if the
    reply is rejected, or else each present payload decodes into its own field. -/
structure PointwiseUpdate {σ ν : Type} (L : Layout ι size) (field : σ → ι → ν)
    (encode : ι → ν → List β) (decoding : ι → List β → ν → ν)
    (parsed : Option (ι → Option (List β))) (handle : σ → σ) (handleTo : Mem β → Nat → Mem β) :
    Prop where
  rejected : parsed = none → (∀ s, handle s = s) ∧ ∀ m base, handleTo m base = m
  decoded : ∀ info, parsed = some info → ∀ s i,
    field (handle s) i = update (decoding i) (info i) (field s i)
  /-- No byte is written but those of the fields that are present. -/
  frame : ∀ info, parsed = some info → ∀ m base a,
    (∀ i, info i ≠ none → L.Outside base i a) → handleTo m base a = m a
  /-- A struct that holds a record holds the updated record afterwards. -/
  holds : ∀ m base s, (∀ i, L.get m base i = encode i (field s i)) →
    ∀ i, L.get (handleTo m base) base i = encode i (field (handle s) i)

/-- The memory after a reply: what a walk stores of its payloads, or nothing if it is rejected. -/
def putParsed (L : Layout ι size) (written : ι → List β → List β)
    (parsed : Option (ι → Option (List β))) (m : Mem β) (base : Nat) (is : List ι) : Mem β :=
  match parsed with
  | none => m
  | some info => L.putAll written info m base is

section Records

variable {σ ν : Type} {field : σ → ι → ν} {encode : ι → ν → List β}
variable {decoding : ι → List β → ν → ν} {written : ι → List β → List β}
variable {parsed : Option (ι → Option (List β))} {handle : σ → σ} {is : List ι}

/-- A walk over all fields that writes what each payload decodes to is a pointwise update. -/
theorem pointwiseUpdate_putAll [DecidableEq ι]
    (hreject : parsed = none → ∀ s, handle s = s)
    (hfield : ∀ info, parsed = some info → ∀ s i,
      field (handle s) i = update (decoding i) (info i) (field s i))
    (hfits : ∀ i p, (written i p).length ≤ size i)
    (hwritten : ∀ i p s, encode i (decoding i p (field s i)) =
      written i p ++ (encode i (field s i)).drop (written i p).length)
    (hnodup : is.Nodup) (hall : ∀ i, i ∈ is) :
    PointwiseUpdate L field encode decoding parsed handle fun m base =>
      L.putParsed written parsed m base is := by
  refine ⟨?_, hfield, ?_, ?_⟩
  · rintro rfl
    exact ⟨hreject rfl, fun _ _ => rfl⟩
  · rintro info rfl m base a ha
    exact putAll_outside hfits ha
  · intro m base s hs i
    cases hparsed : parsed with
    | none =>
      rw [hreject hparsed]
      exact hs i
    | some info =>
      rw [putParsed, get_putAll hfits hnodup (hall i), hs i, hfield info hparsed]
      cases info i with
      | none => rfl
      | some p => exact (hwritten i p s).symm

end Records

end Layout

end Memory
