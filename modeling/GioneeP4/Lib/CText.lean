-- SUMMARY: C strings as byte lists without the NUL: comparisons, searches, strtol and the number formats of printf.
import Mathlib.Data.List.TakeDrop
import Mathlib.Data.List.TakeWhile
import Mathlib.Data.Nat.Digits.Defs

/-!
# C strings

A NUL-terminated string is the list of the bytes before its NUL. The comparisons
say whether the C function returns 0. `long` and `int` have 32 bits.
-/

namespace CText

abbrev Byte := BitVec 8

abbrev Text := List Byte

/-- The bytes of an ASCII literal. -/
def ascii (s : String) : Text := s.toList.map fun c => BitVec.ofNat 8 c.toNat

/-! ## Comparisons -/

def toLower (c : Byte) : Byte := if 65 ≤ c ∧ c ≤ 90 then c + 32 else c

/-- Whether the first `n` bytes agree up to `same`, a NUL ending both texts early. -/
def agree (same : Byte → Byte → Bool) : Nat → Text → Text → Bool
  | 0, _, _ => true
  | _ + 1, [], [] => true
  | n + 1, a :: s, b :: t => same a b && agree same n s t
  | _ + 1, _, _ => false

def strncmp (s t : Text) (n : Nat) : Bool := agree (fun a b => a = b) n s t

def strncasecmp (s t : Text) (n : Nat) : Bool := agree (fun a b => toLower a = toLower b) n s t

def strcasecmp (s t : Text) : Bool := s.map toLower = t.map toLower

/-- A text that agrees with a literal is at least as long as what was compared of the literal. -/
theorem min_le_length_of_agree {same : Byte → Byte → Bool} {s t : Text} {n : Nat}
    (h : agree same n s t = true) : min n t.length ≤ s.length := by
  induction n generalizing s t with
  | zero => omega
  | succ n ih =>
    cases t with
    | nil => simp
    | cons b t =>
      cases s with
      | nil => simp [agree] at h
      | cons a s =>
        simp only [agree, Bool.and_eq_true] at h
        have htail := ih h.2
        simp only [List.length_cons]
        omega

/-- A text that agrees with a literal starts with a byte like the literal's first. -/
theorem head_of_agree {same : Byte → Byte → Bool} {s t : Text} {b : Byte} {n : Nat}
    (h : agree same (n + 1) s (b :: t) = true) : ∃ a u, s = a :: u ∧ same a b = true := by
  cases s with
  | nil => simp [agree] at h
  | cons a u =>
    simp only [agree, Bool.and_eq_true] at h
    exact ⟨a, u, rfl, h.1⟩

/-- Two literals that start with different letters, in any case, are not both matched. -/
theorem strncasecmp_eq_false {s t u : Text} {a b : Byte} {m n : Nat}
    (h : strncasecmp s (a :: t) (m + 1) = true) (hne : toLower a ≠ toLower b) :
    strncasecmp s (b :: u) (n + 1) = false := by
  by_contra hother
  obtain ⟨x, _, rfl, hx⟩ := head_of_agree h
  obtain ⟨y, _, hcons, hy⟩ := head_of_agree (Bool.not_eq_false _ ▸ hother)
  obtain ⟨rfl, -⟩ := List.cons.inj hcons
  simp only [decide_eq_true_eq] at hx hy
  exact hne (hx.symm.trans hy)

/-- What matches with case matches without. -/
theorem strncasecmp_of_strncmp {s t : Text} {n : Nat} (h : strncmp s t n = true) :
    strncasecmp s t n = true := by
  induction n generalizing s t with
  | zero => rfl
  | succ n ih =>
    cases s with
    | nil =>
      cases t with
      | nil => rfl
      | cons b t => simp [strncmp, agree] at h
    | cons a s =>
      cases t with
      | nil => simp [strncmp, agree] at h
      | cons b t =>
        simp only [strncmp, agree, Bool.and_eq_true, decide_eq_true_eq] at h
        obtain ⟨rfl, hrest⟩ := h
        simp only [strncasecmp, agree, decide_true, Bool.true_and]
        exact ih hrest

/-- The text before and after the first occurrence of a byte. -/
def strchr (s : Text) (c : Byte) : Option (Text × Text) :=
  match s.span (· ≠ c) with
  | (before, _ :: after) => some (before, after)
  | (_, []) => none

theorem strchr_eq {s : Text} {c : Byte} :
    strchr s c = match s.dropWhile (· ≠ c) with
      | [] => none
      | _ :: after => some (s.takeWhile (· ≠ c), after) := by
  unfold strchr
  rw [List.span_eq_takeWhile_dropWhile]
  split <;> rename_i heq <;> obtain ⟨rfl, hdrop⟩ := Prod.mk.inj heq <;> rw [hdrop]

/-- A text is cut at the first occurrence of a byte. -/
theorem strchr_eq_some_iff {s before after : Text} {c : Byte} :
    strchr s c = some (before, after) ↔ c ∉ before ∧ s = before ++ c :: after := by
  rw [strchr_eq]
  constructor
  · intro h
    split at h
    · cases h
    · rename_i b after' hdrop
      obtain ⟨rfl, rfl⟩ := Prod.mk.inj (Option.some.inj h)
      have hb : b = c := by
        have hhead := List.head?_dropWhile_not (fun x => decide (x ≠ c)) s
        rw [hdrop] at hhead
        simpa using hhead
      subst hb
      refine ⟨fun hmem => ?_, ?_⟩
      · simpa using List.mem_takeWhile_imp hmem
      · rw [← hdrop, List.takeWhile_append_dropWhile]
  · rintro ⟨hc, rfl⟩
    have hbefore : ∀ b ∈ before, decide (b ≠ c) = true := fun b hb =>
      decide_eq_true fun hbc => hc (hbc ▸ hb)
    have hstop : (c :: after).dropWhile (· ≠ c) = c :: after := by simp
    have hnone : (c :: after).takeWhile (· ≠ c) = [] := by simp
    rw [List.dropWhile_append_of_pos hbefore, List.takeWhile_append_of_pos hbefore, hstop, hnone,
      List.append_nil]

theorem strchr_eq_none_iff {s : Text} {c : Byte} : strchr s c = none ↔ c ∉ s := by
  constructor
  · intro hnone hmem
    obtain ⟨before, after, hs, hc⟩ := List.eq_append_cons_of_mem hmem
    rw [strchr_eq_some_iff.mpr ⟨hc, hs⟩] at hnone
    cases hnone
  · intro hc
    cases hs : strchr s c with
    | none => rfl
    | some parts =>
      refine absurd ?_ hc
      rw [(strchr_eq_some_iff.mp hs).2]
      exact List.mem_append_right _ (List.mem_cons_self ..)

/-! ## Numbers -/

def isSpace (c : Byte) : Bool := c = 32 ∨ (9 ≤ c ∧ c ≤ 13)

def digitOf (c : Byte) : Option Nat :=
  if 48 ≤ c ∧ c ≤ 57 then some (c.toNat - 48)
  else if 97 ≤ c ∧ c ≤ 122 then some (c.toNat - 87)
  else if 65 ≤ c ∧ c ≤ 90 then some (c.toNat - 55)
  else none

/-- The digits of a base that a text starts with. -/
def digits (base : Nat) : Text → List Nat
  | [] => []
  | c :: s =>
      match digitOf c with
      | some d => if d < base then d :: digits base s else []
      | none => []

/-- The base that base 0 or 16 stands for, and the text after its prefix. -/
def basePrefix (base : Nat) (s : Text) : Nat × Text :=
  let hexadecimal (t : Text) : Bool := digits 16 t ≠ []
  match s with
  | 48 :: 120 :: t | 48 :: 88 :: t =>
      if (base = 0 ∨ base = 16) ∧ hexadecimal t then (16, t)
      else (if base = 0 then 8 else base, s)
  | 48 :: _ => (if base = 0 then 8 else base, s)
  | _ => (if base = 0 then 10 else base, s)

/-- What `strtol` returns, and how far its end pointer is from the start. -/
structure Strtol where
  value : Int
  endp : Nat
  deriving DecidableEq

def strtol (s : Text) (base : Nat) : Strtol :=
  let unspaced := s.dropWhile isSpace
  let (negative, unsigned) : Bool × Text := match unspaced with
    | 45 :: t => (true, t)
    | 43 :: t => (false, t)
    | t => (false, t)
  let (base, body) := basePrefix base unsigned
  let ds := digits base body
  if ds = [] then ⟨0, 0⟩
  else
    let magnitude : Nat := ds.foldl (fun acc d => acc * base + d) 0
    let value : Int := if negative then -magnitude else magnitude
    ⟨max (-2 ^ 31) (min value (2 ^ 31 - 1)), s.length - (body.length - ds.length)⟩

def atoi (s : Text) : Int := (strtol s 10).value

/-- Digits end at a byte that is none. -/
theorem digits_append {base : Nat} {s t : Text} {c : Byte} (hc : digitOf c = none) :
    digits base (s ++ c :: t) = digits base s := by
  induction s with
  | nil => simp only [List.nil_append, digits, hc]
  | cons b s ih => simp only [List.cons_append, digits, ih]

theorem basePrefix_ten {s : Text} : basePrefix 10 s = (10, s) := by
  unfold basePrefix
  dsimp only
  split <;> simp

/-- `atoi` does not see what stands behind a space, unless it starts with one. -/
theorem atoi_append {b : Byte} {s t : Text} (hb : isSpace b = false) :
    atoi (b :: s ++ 32 :: t) = atoi (b :: s) := by
  have hspace : digitOf 32 = none := by decide
  have hstart : ∀ u : Text, (b :: u).dropWhile isSpace = b :: u := fun u =>
    List.dropWhile_cons_of_neg (by rw [hb]; exact Bool.false_ne_true)
  simp only [atoi, strtol, List.cons_append, hstart, basePrefix_ten, apply_ite Strtol.value]
  have hsign : ∀ u : Text, (match b :: u with
      | 45 :: t => (true, t)
      | 43 :: t => (false, t)
      | t => (false, t)) = (decide (b = 45), if b = 45 ∨ b = 43 then u else b :: u) := by
    intro u
    split
    · rename_i h
      obtain ⟨rfl, rfl⟩ := List.cons.inj h
      rfl
    · rename_i h
      obtain ⟨rfl, rfl⟩ := List.cons.inj h
      rfl
    · rename_i hminus hplus
      have hb' : ¬(b = 45 ∨ b = 43) := by
        rintro (rfl | rfl)
        · exact hminus _ rfl
        · exact hplus _ rfl
      rw [if_neg hb', decide_eq_false fun h => hb' (.inl h)]
  simp only [hsign]
  split
  · simp only [digits_append hspace]
  · simp only [← List.cons_append, digits_append hspace]

/-! ## Formats -/

/-- `%u` of a number. -/
def decimal (n : Nat) : Text :=
  if n = 0 then [48] else (Nat.digits 10 n).reverse.map fun d => BitVec.ofNat 8 (48 + d)

/-- `%d` of a number. -/
def signedDecimal (z : Int) : Text :=
  if z < 0 then 45 :: decimal z.natAbs else decimal z.toNat

theorem decimal_ne_nil {n : Nat} : decimal n ≠ [] := by
  unfold decimal
  split
  · exact List.cons_ne_nil _ _
  · rw [ne_eq, List.map_eq_nil_iff, List.reverse_eq_nil_iff]
    exact Nat.digits_ne_nil_iff_ne_zero.mpr ‹_›

/-- A number without a sign does not start with a minus. -/
theorem ne_minus_of_mem_decimal {n : Nat} {b : Byte} (h : b ∈ decimal n) : b ≠ 45 := by
  unfold decimal at h
  split at h
  · rw [List.mem_singleton.mp h]
    decide
  · obtain ⟨d, hd, rfl⟩ := List.mem_map.mp h
    have hlt : d < 10 := Nat.digits_lt_base (by decide) (List.mem_reverse.mp hd)
    have hdigit : ∀ d < 10, BitVec.ofNat 8 (48 + d) ≠ (45 : Byte) := by decide
    exact hdigit d hlt

/-- The first byte of a signed number tells whether it is negative. -/
theorem signedDecimal_eq_cons {z : Int} :
    ∃ a t, signedDecimal z = a :: t ∧ (a = 45 ↔ z < 0) := by
  unfold signedDecimal
  split
  · exact ⟨45, _, rfl, by simpa⟩
  · obtain ⟨a, t, hcons⟩ := List.exists_cons_of_ne_nil (decimal_ne_nil (n := z.toNat))
    refine ⟨a, t, hcons, ?_⟩
    have hne : a ≠ 45 := ne_minus_of_mem_decimal (by rw [hcons]; exact List.mem_cons_self ..)
    simp only [hne, ‹¬z < 0›]

def hexDigit (upper : Bool) (d : Nat) : Byte :=
  BitVec.ofNat 8 (if d < 10 then 48 + d else (if upper then 55 else 87) + d)

/-- `%0wx`, or `%0wX`, of a number of at most `width` hexadecimal digits. -/
def hex (upper : Bool) (width n : Nat) : Text :=
  (List.range width).reverse.map fun i => hexDigit upper (n / 16 ^ i % 16)

@[simp] theorem length_hex {upper : Bool} {width n : Nat} : (hex upper width n).length = width := by
  simp [hex]

end CText
