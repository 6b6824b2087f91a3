-- SUMMARY: Records filled field by field from the payloads that are present: what a field holds afterwards, and which bytes of it are new.
import Mathlib.Data.List.Nodup

/-!
# Filling records

A handler walks over the attributes of a record and stores the payload of those
that are present. A field then holds what its own payload made of it. An array
takes over the bytes a payload has and keeps the rest.
-/

namespace Fill

variable {σ α ν π ρ : Type}

/-! ## Fields -/

/-- What an optional payload makes of a value. -/
def update (put : π → ν → ν) (payload : Option π) (v : ν) : ν :=
  match payload with
  | some p => put p v
  | none => v

/-- Walking over the attributes once updates every field by its own payload. -/
theorem field_foldl_store [DecidableEq α] {field : σ → α → ν} {store : π → σ → α → σ}
    {put : α → π → ν → ν} {info : α → Option π}
    (hself : ∀ p s a, field (store p s a) a = put a p (field s a))
    (hother : ∀ p s a b, b ≠ a → field (store p s b) a = field s a) {as : List α}
    (hnodup : as.Nodup) {s : σ} {a : α} :
    field (as.foldl (fun s b => update (fun p s => store p s b) (info b) s) s) a =
      if a ∈ as then update (put a) (info a) (field s a) else field s a := by
  induction as generalizing s with
  | nil => rfl
  | cons b as ih =>
    obtain ⟨hb, hnodup⟩ := List.nodup_cons.mp hnodup
    rw [List.foldl_cons, ih hnodup]
    by_cases hab : b = a
    · subst hab
      rw [if_neg hb, if_pos (List.mem_cons_self ..)]
      cases info b with
      | none => rfl
      | some p => exact hself p s b
    · have hkept : field (update (fun p s => store p s b) (info b) s) a = field s a := by
        cases info b with
        | none => rfl
        | some p => exact hother p s a b hab
      rw [hkept]
      simp only [List.mem_cons, Ne.symm hab, false_or]

/-- A series of replies updates a field by the payloads they carry for it, in order. -/
theorem field_foldl_replies {field : σ → ν} {handle : σ → ρ → σ} {put : π → ν → ν}
    {payload : ρ → Option π}
    (h : ∀ s r, field (handle s r) = update put (payload r) (field s)) {rs : List ρ} {s : σ} :
    field (rs.foldl handle s) = (rs.filterMap payload).foldl (fun v p => put p v) (field s) := by
  induction rs generalizing s with
  | nil => rfl
  | cons r rs ih =>
    rw [List.foldl_cons, ih, h]
    cases hr : payload r with
    | none => rw [List.filterMap_cons_none hr, update]
    | some p => rw [List.filterMap_cons_some hr, List.foldl_cons, update]

/-- Payloads that decide a field whatever it held leave nothing of it. -/
theorem foldl_put_const {put : π → ν → ν} (h : ∀ p v v', put p v = put p v') {ps : List π}
    (hne : ps ≠ []) {v v' : ν} :
    ps.foldl (fun v p => put p v) v = ps.foldl (fun v p => put p v) v' := by
  cases ps with
  | nil => exact absurd rfl hne
  | cons p ps => rw [List.foldl_cons, List.foldl_cons, h p v v']

/-! ## Arrays -/

variable {β : Type}

/-- An array with the bytes of a payload copied to its start, as many as fit. -/
def overlay (payload l : List β) : List β := l.mapIdx fun i b => payload[i]?.getD b

/-- An array after a series of copies. -/
abbrev overlays (payloads : List (List β)) (l : List β) : List β :=
  payloads.foldl (fun l p => overlay p l) l

variable {p l l' : List β} {ps : List (List β)} {i : Nat}

@[simp] theorem length_overlay : (overlay p l).length = l.length := List.length_mapIdx ..

theorem getElem?_overlay : (overlay p l)[i]? = (l[i]?).map fun b => p[i]?.getD b :=
  List.getElem?_mapIdx ..

/-- The payload's first bytes, and what the array has behind them. -/
theorem overlay_eq : overlay p l = p.take l.length ++ l.drop p.length := by
  apply List.ext_getElem?
  intro i
  rw [getElem?_overlay]
  by_cases hp : i < (p.take l.length).length
  · rw [List.getElem?_append_left hp]
    rw [List.length_take] at hp
    rw [List.getElem?_take_of_lt (by omega), List.getElem?_eq_getElem (by omega : i < l.length),
      List.getElem?_eq_getElem (by omega : i < p.length)]
    rfl
  · rw [List.getElem?_append_right (by omega)]
    rw [List.length_take] at hp ⊢
    by_cases hl : i < l.length
    · have hshort : p[i]? = none := List.getElem?_eq_none (by omega)
      rw [List.getElem?_drop, hshort, Nat.min_eq_right (by omega), Nat.add_sub_cancel' (by omega)]
      exact Option.map_id'
    · have hnone : l[i]? = none := List.getElem?_eq_none (by omega)
      have hrest : (l.drop p.length)[i - min l.length p.length]? = none := by
        apply List.getElem?_eq_none
        rw [List.length_drop]
        omega
      rw [hnone, hrest]
      rfl

/-- An element no payload reaches stays. -/
theorem getElem?_overlays_of_short (h : ∀ p ∈ ps, p.length ≤ i) :
    (overlays ps l)[i]? = l[i]? := by
  induction ps generalizing l with
  | nil => rfl
  | cons p ps ih =>
    have hp : p[i]? = none := List.getElem?_eq_none (h p (List.mem_cons_self ..))
    rw [overlays, List.foldl_cons, ih fun q hq => h q (List.mem_cons_of_mem _ hq),
      getElem?_overlay, hp]
    exact Option.map_id'

theorem getElem?_overlays_congr (h : l[i]? = l'[i]?) :
    (overlays ps l)[i]? = (overlays ps l')[i]? := by
  induction ps generalizing l l' with
  | nil => exact h
  | cons p ps ih =>
    apply ih
    rw [getElem?_overlay, getElem?_overlay, h]

/-- An element some payload reaches does not depend on what the array held. -/
theorem getElem?_overlays_of_covered (hlen : l.length = l'.length)
    (h : ∃ p ∈ ps, i < p.length) : (overlays ps l)[i]? = (overlays ps l')[i]? := by
  induction ps generalizing l l' with
  | nil =>
    obtain ⟨p, hp, -⟩ := h
    cases hp
  | cons p ps ih =>
    by_cases hp : i < p.length
    · have hget : ∀ m : List β, m.length = l.length →
          (overlay p m)[i]? = if i < l.length then some p[i] else none := by
        intro m hm
        rw [getElem?_overlay, List.getElem?_eq_getElem hp]
        split
        · rw [List.getElem?_eq_getElem (by omega)]
          rfl
        · rw [List.getElem?_eq_none (by omega)]
          rfl
      have hboth : (overlay p l)[i]? = (overlay p l')[i]? := by
        rw [hget l rfl, hget l' hlen.symm]
      rw [overlays, overlays, List.foldl_cons, List.foldl_cons]
      exact getElem?_overlays_congr hboth
    · obtain ⟨q, hq, hi⟩ := h
      rcases List.mem_cons.mp hq with rfl | hq
      · exact absurd hi hp
      · apply ih
        · rw [length_overlay, length_overlay, hlen]
        · exact ⟨q, hq, hi⟩

end Fill
