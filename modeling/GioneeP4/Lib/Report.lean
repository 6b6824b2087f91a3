-- SUMMARY: Reports of name=value lines: writing them, and reading the numbers of a line back.
import GioneeP4.Lib.CText
import Mathlib.Data.Nat.Digits.Lemmas

/-!
# Reports

A report is a series of lines, each a name, an equals sign and a value. A reader
takes the first line with a name and reads its value as decimal numbers with
colons between them.
-/

namespace Report

open CText

/-! ## Numbers -/

/-- The number a text of decimal digits spells. -/
def readNat (s : Text) : Option Nat :=
  let ds := digits 10 s
  if ds ≠ [] ∧ ds.length = s.length then some (Nat.ofDigits 10 ds.reverse) else none

/-- The number a text spells, with a minus if it is negative. -/
def readInt (s : Text) : Option Int :=
  if s.head? = some 45 then (readNat s.tail).map fun n : Nat => -(n : Int)
  else (readNat s).map fun n : Nat => (n : Int)

/-- The numbers of a text that has colons between them. -/
def readInts (s : Text) : Option (List Int) := (s.splitOn 58).mapM readInt

theorem digits_map_digit {ds : List Nat} (h : ∀ d ∈ ds, d < 10) :
    digits 10 (ds.map fun d => BitVec.ofNat 8 (48 + d)) = ds := by
  have hdigit : ∀ d < 10, digitOf (BitVec.ofNat 8 (48 + d)) = some d := by decide
  induction ds with
  | nil => rfl
  | cons d ds ih =>
    have hd : d < 10 := h d (List.mem_cons_self ..)
    rw [List.map_cons, digits, hdigit d hd]
    simp only [if_pos hd]
    rw [ih fun e he => h e (List.mem_cons_of_mem _ he)]

theorem readNat_decimal {n : Nat} : readNat (decimal n) = some n := by
  unfold decimal
  split
  · rename_i hzero
    rw [hzero]
    decide
  · rename_i hne
    have hdigits : digits 10 ((Nat.digits 10 n).reverse.map fun d => BitVec.ofNat 8 (48 + d)) =
        (Nat.digits 10 n).reverse := by
      apply digits_map_digit
      intro d hd
      exact Nat.digits_lt_base (by decide) (List.mem_reverse.mp hd)
    have hnonempty : (Nat.digits 10 n).reverse ≠ [] := by
      rw [ne_eq, List.reverse_eq_nil_iff]
      exact Nat.digits_ne_nil_iff_ne_zero.mpr hne
    rw [readNat, hdigits, if_pos ⟨hnonempty, (List.length_map ..).symm⟩, List.reverse_reverse,
      Nat.ofDigits_digits]

theorem readInt_decimal {n : Nat} : readInt (decimal n) = some (n : Int) := by
  have hhead : (decimal n).head? ≠ some 45 := fun h =>
    ne_minus_of_mem_decimal (List.mem_of_mem_head? h) rfl
  rw [readInt, if_neg hhead, readNat_decimal]
  rfl

/-- What `%d` prints reads back as the number. -/
theorem readInt_signedDecimal {z : Int} : readInt (signedDecimal z) = some z := by
  unfold signedDecimal
  split
  · rw [readInt, List.head?_cons, if_pos rfl, List.tail_cons, readNat_decimal, Option.map_some]
    congr 1
    omega
  · rw [readInt_decimal]
    congr 1
    omega

/-- The bytes of a number without a sign. -/
theorem mem_decimal {n : Nat} {b : Byte} (h : b ∈ decimal n) : 48 ≤ b ∧ b ≤ 57 := by
  unfold decimal at h
  split at h
  · rw [List.mem_singleton.mp h]
    decide
  · obtain ⟨d, hd, rfl⟩ := List.mem_map.mp h
    have hlt : d < 10 := Nat.digits_lt_base (by decide) (List.mem_reverse.mp hd)
    have hdigit : ∀ d < 10, (48 : Byte) ≤ BitVec.ofNat 8 (48 + d) ∧
        BitVec.ofNat 8 (48 + d) ≤ (57 : Byte) := by decide
    exact hdigit d hlt

/-- Neither a colon nor a newline is part of a number. -/
theorem notMem_signedDecimal {z : Int} {b : Byte} (hminus : b ≠ 45) (hdigit : ¬(48 ≤ b ∧ b ≤ 57)) :
    b ∉ signedDecimal z := by
  intro h
  unfold signedDecimal at h
  split at h
  · rcases List.mem_cons.mp h with rfl | htail
    · exact hminus rfl
    · exact hdigit (mem_decimal htail)
  · exact hdigit (mem_decimal h)

/-- A byte of joined texts is one of a text or of what joins them. -/
theorem notMem_intercalate {sep : Text} {ts : List Text} {b : Byte} (hsep : b ∉ sep)
    (h : ∀ t ∈ ts, b ∉ t) : b ∉ sep.intercalate ts := by
  induction ts with
  | nil => exact List.not_mem_nil
  | cons t ts ih =>
    have ht : b ∉ t := h t (List.mem_cons_self ..)
    have hrest := ih fun u hu => h u (List.mem_cons_of_mem _ hu)
    cases ts with
    | nil => rwa [List.intercalate_singleton]
    | cons u us =>
      rw [List.intercalate_cons_cons, List.mem_append, List.mem_append, not_or, not_or]
      exact ⟨⟨ht, hsep⟩, hrest⟩

/-- A byte that is no hexadecimal digit is not part of a hexadecimal number. -/
theorem notMem_hex {upper : Bool} {width n : Nat} {b : Byte}
    (h : ∀ d < 16, hexDigit upper d ≠ b) : b ∉ hex upper width n := by
  intro hmem
  obtain ⟨i, -, hi⟩ := List.mem_map.mp hmem
  exact h _ (Nat.mod_lt _ (by decide)) hi

theorem mapM_readInt {zs : List Int} : (zs.map signedDecimal).mapM readInt = some zs := by
  induction zs with
  | nil => rfl
  | cons z zs ih =>
    rw [List.map_cons, List.mapM_cons, readInt_signedDecimal, ih]
    rfl

/-- Numbers with colons between them read back. -/
theorem readInts_intercalate {zs : List Int} (hne : zs ≠ []) :
    readInts ([58].intercalate (zs.map signedDecimal)) = some zs := by
  have hsplit : ([58].intercalate (zs.map signedDecimal)).splitOn (58 : Byte) =
      zs.map signedDecimal := by
    apply List.splitOn_intercalate
    · intro t ht
      obtain ⟨z, -, rfl⟩ := List.mem_map.mp ht
      exact notMem_signedDecimal (by decide) (by decide)
    · rwa [ne_eq, List.map_eq_nil_iff]
  rw [readInts, hsplit, mapM_readInt]

/-! ## Lines -/

/-- A name and a value. -/
structure Entry where
  name : Text
  value : Text

/-- The line of an entry. -/
def Entry.line (e : Entry) : Text := e.name ++ 61 :: (e.value ++ [10])

/-- An entry that its line gives back: no equals sign in its name and no newline in either. -/
structure Entry.Plain (e : Entry) : Prop where
  name_eq : (61 : Byte) ∉ e.name
  name_newline : (10 : Byte) ∉ e.name
  value_newline : (10 : Byte) ∉ e.value

/-- Whether a name has neither an equals sign nor a newline. -/
def plainName (name : Text) : Bool := (61 : Byte) ∉ name ∧ (10 : Byte) ∉ name

/-- Entries with plain names and no newline in a value. -/
theorem plain_of_names {es : List Entry} (hnames : ∀ name ∈ es.map Entry.name, plainName name = true)
    (hvalues : ∀ e ∈ es, (10 : Byte) ∉ e.value) : ∀ e ∈ es, e.Plain := by
  intro e he
  obtain ⟨heq, hnewline⟩ := of_decide_eq_true (hnames _ (List.mem_map_of_mem he))
  exact ⟨heq, hnewline, hvalues e he⟩

/-- The lines of a series of entries. -/
def report (es : List Entry) : Text := es.flatMap Entry.line

/-- The value of the first line with a name. -/
def valueOf (name : Text) (t : Text) : Option Text :=
  (t.splitOn 10).findSome? fun line => (name ++ [61]).isPrefixOf? line

/-- The numbers of the first line with a name. -/
def numbersOf (name : Text) (t : Text) : Option (List Int) := (valueOf name t).bind readInts

variable {name t : Text} {e : Entry} {es : List Entry}

/-- A name with its equals sign starts the lines of its own entries only. -/
theorem isPrefixOf?_line (hname : (61 : Byte) ∉ name) (h : e.Plain) :
    (name ++ [61]).isPrefixOf? (e.name ++ 61 :: e.value) =
      if e.name = name then some e.value else none := by
  obtain ⟨ename, value⟩ := e
  have heq := h.name_eq
  simp only at heq ⊢
  clear h
  induction name generalizing ename with
  | nil =>
    cases ename with
    | nil => rfl
    | cons b bs =>
      have hb : (61 : Byte) ≠ b := fun hb => heq (hb ▸ List.mem_cons_self ..)
      rw [List.nil_append, List.cons_append, List.isPrefixOf?, beq_false_of_ne hb]
      rfl
  | cons a as ih =>
    have ha : a ≠ 61 := fun ha => hname (ha ▸ List.mem_cons_self ..)
    have has : (61 : Byte) ∉ as := fun hmem => hname (List.mem_cons_of_mem _ hmem)
    cases ename with
    | nil =>
      rw [List.nil_append, List.cons_append, List.isPrefixOf?, beq_false_of_ne ha]
      rfl
    | cons b bs =>
      have hbs : (61 : Byte) ∉ bs := fun hmem => heq (List.mem_cons_of_mem _ hmem)
      have hrest := ih has bs hbs
      by_cases hab : a = b
      · subst hab
        simp only [List.cons_append, List.isPrefixOf?, beq_self_eq_true, if_true, hrest,
          List.cons.injEq, true_and]
      · simp [List.isPrefixOf?, hab, Ne.symm hab]

theorem valueOf_line (hname : (61 : Byte) ∉ name) (h : e.Plain) :
    valueOf name (e.line ++ t) = if e.name = name then some e.value else valueOf name t := by
  have hline : e.line ++ t = (e.name ++ 61 :: e.value) ++ 10 :: t := by
    simp [Entry.line]
  have hnewline : (10 : Byte) ∉ e.name ++ 61 :: e.value := by
    simp only [List.mem_append, List.mem_cons, not_or]
    exact ⟨h.name_newline, by decide, h.value_newline⟩
  rw [valueOf, hline, List.splitOn_append_cons_self_of_not_mem hnewline, List.findSome?_cons,
    isPrefixOf?_line hname h]
  by_cases heq : e.name = name
  · rw [if_pos heq, if_pos heq]
  · rw [if_neg heq, if_neg heq]
    rfl

/-- Every entry of a report gives its value, if their names differ. -/
theorem valueOf_report (h : ∀ e ∈ es, e.Plain) (hnodup : (es.map Entry.name).Nodup) (he : e ∈ es) :
    valueOf e.name (report es ++ t) = some e.value := by
  induction es with
  | nil => cases he
  | cons e' es ih =>
    have hname : (61 : Byte) ∉ e.name := (h e he).name_eq
    obtain ⟨hnotMem, hnodup⟩ := List.nodup_cons.mp hnodup
    rw [report, List.flatMap_cons, List.append_assoc,
      valueOf_line hname (h e' (List.mem_cons_self ..))]
    rcases List.mem_cons.mp he with rfl | htail
    · rw [if_pos rfl]
    · have hne : e'.name ≠ e.name := fun heq => hnotMem (heq ▸ List.mem_map_of_mem htail)
      rw [if_neg hne]
      exact ih (fun e' he' => h e' (List.mem_cons_of_mem _ he')) hnodup htail

/-- An entry whose value is a series of numbers reads back. -/
theorem numbersOf_report {zs : List Int} (h : ∀ e ∈ es, e.Plain)
    (hnodup : (es.map Entry.name).Nodup) (he : e ∈ es)
    (hvalue : e.value = [58].intercalate (zs.map signedDecimal)) (hne : zs ≠ []) :
    numbersOf e.name (report es ++ t) = some zs := by
  rw [numbersOf, valueOf_report h hnodup he, hvalue]
  exact readInts_intercalate hne

end Report
