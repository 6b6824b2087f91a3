-- SUMMARY: The array elements that printing the statistics reads: all lie in their arrays exactly when the output is cut off in its last row.
import GioneeP4.Wpa.ReadBack

/-!
# Array bounds

Every call of `print_sta_statistics` reads its arguments, those its format has no
use for as well, and a call that does not fit has read them before the function
returns. The loop counter of a row of reserved bytes stands behind the row when
the newline is printed.
-/

namespace Wpa

open CText Printing

variable {env : Env} {s : StaStatistics} {bufLen : Nat}

/-! ## What is read -/

/-- `TC_DATA_NUM` -/
def tcDataNum : Nat := 4

/-- The number of elements of an array of the struct. -/
def StatisticsArray.size : StatisticsArray → Nat
  | .tcBufFullCnt | .tcQueLen | .tcAvgQueLen | .tcCurQueLen => tcDataNum
  | .reserved => 32

/-- Prints the calls at the cursor, until `ret >= end - pos` for one of them, and collects the
    elements they read. -/
def printReading (buf : Buffer) (pos : Nat) :
    List PrintCall → Printed × List (StatisticsArray × Nat)
  | [] => (⟨true, pos, buf⟩, [])
  | call :: calls =>
      if call.text.length ≥ buf.length - pos then
        (⟨false, pos, snprintf buf pos call.text⟩, call.reads)
      else
        let (printed, reads) :=
          printReading (snprintf buf pos call.text) (pos + call.text.length) calls
        (printed, call.reads ++ reads)

/-- The elements `print_sta_statistics` reads when it prints to a buffer of some length. -/
def statisticsReads (env : Env) (s : StaStatistics) (bufLen : Nat) :
    List (StatisticsArray × Nat) :=
  (printReading (fresh bufLen) 0 (statisticsCalls env s)).2

def ReadsInBounds (env : Env) (s : StaStatistics) (bufLen : Nat) : Prop :=
  ∀ element ∈ statisticsReads env s bufLen, element.2 < element.1.size

/-- Collecting what is read does not change what is printed. -/
theorem printReading_printed {buf : Buffer} {pos : Nat} {calls : List PrintCall} :
    (printReading buf pos calls).1 = printAll buf pos (calls.map PrintCall.text) := by
  induction calls generalizing buf pos with
  | nil => rfl
  | cons call calls ih =>
    simp only [printReading, List.map_cons, printAll]
    split
    · rfl
    · exact ih

/-- What is read is what the calls of the series read. -/
theorem printReading_reads {buf : Buffer} {pos : Nat} {calls : List PrintCall} :
    (printReading buf pos calls).2 =
      (attempted PrintCall.text (buf.length - pos) calls).flatMap PrintCall.reads := by
  induction calls generalizing buf pos with
  | nil => rfl
  | cons call calls ih =>
    simp only [printReading, attempted, List.flatMap_cons]
    split
    · rw [List.flatMap_nil, List.append_nil]
    · rw [Nat.sub_sub]
      simp only [ih, length_snprintf]

theorem statisticsReads_eq :
    statisticsReads env s bufLen =
      (attempted PrintCall.text bufLen (statisticsCalls env s)).flatMap PrintCall.reads := by
  rw [statisticsReads, printReading_reads, length_fresh, Nat.sub_zero]

/-! ## The calls -/

/-- All that a call reads lies in its array. -/
def PrintCall.InBounds (call : PrintCall) : Prop :=
  ∀ element ∈ call.reads, element.2 < element.1.size

theorem inBounds_plain {t : Text} : (plain t).InBounds := fun _ h => nomatch h

/-- The line of a counter reads one element for each traffic class. -/
theorem inBounds_tcLine {name : String} {array : StatisticsArray} {words : Bytes 16}
    (h : array.size = tcDataNum) : (tcLine name array words).InBounds := by
  intro element helement
  obtain ⟨i, hi, rfl⟩ := List.mem_map.mp helement
  dsimp only
  rw [h]
  exact List.mem_range.mp hi

/-- A row of reserved bytes reads no further than its end; its newline reads the element behind. -/
theorem reservedCalls_split {first last : Nat} (h : last ≤ 32) :
    ∃ row, reservedCalls s first last = row ++ [⟨ascii "\n", [(.reserved, last)]⟩] ∧
      ∀ call ∈ row, call.InBounds := by
  refine ⟨_, rfl, fun call hcall element helement => ?_⟩
  obtain ⟨i, hi, hcall⟩ := List.mem_flatMap.mp hcall
  have hread : call.reads = [(.reserved, i)] := by
    rcases List.mem_cons.mp hcall with rfl | hspace
    · rfl
    · split at hspace
      · rw [List.mem_singleton.mp hspace]
      · cases hspace
  obtain rfl := List.mem_singleton.mp (hread ▸ helement)
  have hbetween := List.mem_range'_1.mp hi
  change i < 32
  omega

theorem statisticsCalls_header :
    ∃ header, statisticsCalls env s =
        header ++ reservedCalls s 0 16 ++ [plain (ascii "reserved1=")] ++
          reservedCalls s 16 32 ++ [plain (ascii "====\n")] ∧
      header ≠ [] ∧ ∀ call ∈ header, call.InBounds := by
  refine ⟨_, rfl, List.cons_ne_nil _ _, ?_⟩
  simp only [List.forall_mem_cons, List.not_mem_nil, inBounds_plain, true_and]
  exact ⟨inBounds_tcLine rfl, inBounds_tcLine rfl, inBounds_tcLine rfl, inBounds_tcLine rfl,
    fun _ h => h.elim⟩

/-- Only the newline of the last row reads past an array. -/
theorem statisticsCalls_split :
    ∃ calls, statisticsCalls env s =
        calls ++ [⟨ascii "\n", [(.reserved, 32)]⟩, plain (ascii "====\n")] ∧
      calls ≠ [] ∧ ∀ call ∈ calls, call.InBounds := by
  obtain ⟨header, hcalls, hne, hheader⟩ := @statisticsCalls_header env s
  obtain ⟨row₀, hrow₀, hbounds₀⟩ := @reservedCalls_split s 0 16 (by decide)
  obtain ⟨row₁, hrow₁, hbounds₁⟩ := @reservedCalls_split s 16 32 le_rfl
  -- behind the first row the counter stands in the middle of the array
  have hnewline : PrintCall.InBounds ⟨ascii "\n", [(.reserved, 16)]⟩ := by
    intro element helement
    obtain rfl := List.mem_singleton.mp helement
    decide
  refine ⟨header ++ row₀ ++ [⟨ascii "\n", [(.reserved, 16)]⟩, plain (ascii "reserved1=")] ++ row₁,
    ?_, ?_, ?_⟩
  · rw [hcalls, hrow₀, hrow₁]
    simp only [List.append_assoc, List.cons_append, List.nil_append]
  · simp [hne]
  · intro call hcall
    simp only [List.mem_append, List.mem_cons, List.not_mem_nil, or_false] at hcall
    rcases hcall with ((hcall | hcall) | rfl | rfl) | hcall
    · exact hheader call hcall
    · exact hbounds₀ call hcall
    · exact hnewline
    · exact inBounds_plain
    · exact hbounds₁ call hcall

/-! ## Bounds -/

theorem length_statisticsText {calls : List PrintCall}
    (h : statisticsCalls env s =
      calls ++ [⟨ascii "\n", [(.reserved, 32)]⟩, plain (ascii "====\n")]) :
    (statisticsText env s).length = (calls.map PrintCall.text).flatten.length + 6 := by
  rw [statisticsText, h, List.map_append, List.flatten_append, List.length_append]
  rfl

/-- The newline of the last row is printed unless the output is cut off before. -/
theorem reads_behind_reserved (h : (statisticsText env s).length < bufLen + 6) :
    (.reserved, 32) ∈ statisticsReads env s bufLen := by
  obtain ⟨calls, hcalls, hne, -⟩ := @statisticsCalls_split env s
  have hlength := length_statisticsText hcalls
  rw [statisticsReads_eq, hcalls, attempted_append hne, if_pos (by omega), List.flatMap_append,
    attempted, List.flatMap_cons]
  exact List.mem_append_right _ (List.mem_append_left _ (List.mem_singleton_self _))

/-- The elements read lie in their arrays exactly when the output is at least six bytes longer than
    the buffer. -/
theorem statistics_reads_in_bounds_iff :
    ReadsInBounds env s bufLen ↔ bufLen + 6 ≤ (statisticsText env s).length := by
  constructor
  · intro h
    by_contra hfits
    exact absurd (h _ (reads_behind_reserved (by omega))) (by decide)
  · intro hcut element helement
    obtain ⟨calls, hcalls, hne, hbounds⟩ := @statisticsCalls_split env s
    have hlength := length_statisticsText hcalls
    rw [statisticsReads_eq, hcalls, attempted_append hne, if_neg (by omega)] at helement
    obtain ⟨call, hcall, hread⟩ := List.mem_flatMap.mp helement
    exact hbounds call (mem_of_mem_attempted hcall) element hread

/-- Statistics that fit in the buffer read the reserved byte behind the last. -/
theorem reserved_read_past_end : ¬ReadsInBounds .idle wrappedStatistics 4096 := by
  intro h
  have hfits : (statisticsText .idle wrappedStatistics).length < 4096 + 6 :=
    length_wrappedStatistics.trans (by decide)
  exact absurd (h _ (reads_behind_reserved hfits)) (by decide)

end Wpa
