-- SUMMARY: The output of the statistics in the caller's memory: station statistics are printed whole or not at all, and nothing is written past the buffer.
import GioneeP4.Lib.Memory
import GioneeP4.Wpa.StackLeak

/-!
# Output in memory

The caller's buffer is a part of memory, and the two printers move a pointer
through it. What they leave in memory is what the commands leave in a buffer of
their own, so nothing lands outside the buffer.
-/

namespace Wpa

open Prog CText Printing Memory

variable {env : Env} {m : Mem Byte} {buf bufLen : Nat}

/-! ## Through a pointer -/

/-- `print_sta_statistics` to the buffer at an address: what it returns and the memory it leaves. -/
def printStaStatisticsTo (env : Env) (s : StaStatistics) (m : Mem Byte) (buf bufLen : Nat) :
    Int × Mem Byte :=
  let printed := printTo m buf (buf + bufLen) ((statisticsCalls env s).map PrintCall.text)
  (if printed.complete then (printed.pos : Int) - buf else 0, printed.mem)

/-- The printing part of `wpa_driver_get_sta_link_detect`, to the buffer at an address. -/
def printStaLinkDetectTo (s : StaLinkDetect) (m : Mem Byte) (buf bufLen : Nat) : Int × Mem Byte :=
  let printed := printTo m buf (buf + bufLen) (linkDetectLines s)
  ((printed.pos : Int) - buf, printed.mem)

/-- In memory the statistics are what the command leaves in a fresh buffer. -/
theorem printStaStatisticsTo_eq {s : StaStatistics} {st : CmdState} (hbuf : st.buf = fresh bufLen) :
    ∃ t, exec (printStaStatistics env s) st = (.ok (printStaStatisticsTo env s m buf bufLen).1, t) ∧
      (printStaStatisticsTo env s m buf bufLen).2 = commit m buf t.buf := by
  have hresult : ∀ printed : Printed,
      (if printed.complete then ((buf + printed.pos : Nat) : Int) - buf else 0) =
        statisticsResult printed := by
    intro printed
    rw [Nat.cast_add, add_sub_cancel_left, statisticsResult]
  simp only [exec_printStaStatistics, printStaStatisticsTo, printTo_fresh, hbuf, hresult,
    map_text_statisticsCalls]
  exact ⟨_, rfl, rfl⟩

/-- In memory link detection is what the command leaves in a fresh buffer. -/
theorem printStaLinkDetectTo_eq {s : StaLinkDetect} :
    printStaLinkDetectTo s m buf bufLen =
      let printed := printAll (fresh bufLen) 0 (linkLines.map (render (LinkDetectAttr.text s)))
      (linkDetectResult printed, commit m buf printed.buf) := by
  simp only [printStaLinkDetectTo, printTo_fresh, linkDetectLines_eq, Nat.cast_add,
    add_sub_cancel_left, linkDetectResult]

/-! ## Station statistics -/

/-- The texts of all the calls, one behind the other. -/
def statisticsText (env : Env) (s : StaStatistics) : Text :=
  ((statisticsCalls env s).map PrintCall.text).flatten

/-- A text is returned and stored whole with its NUL, or 0 is returned; nothing but the buffer is
    written. -/
structure AllOrNothing (t : Text) (m : Mem Byte) (buf bufLen : Nat) (out : Int × Mem Byte) :
    Prop where
  whole : t.length < bufLen → out.1 = t.length ∧ load out.2 buf (t.length + 1) = t ++ [0]
  nothing : bufLen ≤ t.length → out.1 = 0
  frame : ∀ a, a < buf ∨ buf + bufLen ≤ a → out.2 a = m a

theorem statisticsCalls_ne_nil {s : StaStatistics} :
    (statisticsCalls env s).map PrintCall.text ≠ [] := List.cons_ne_nil _ _

theorem statistics_complete_iff {s : StaStatistics} :
    (printAll (fresh bufLen) 0 ((statisticsCalls env s).map PrintCall.text)).complete = true ↔
      (statisticsText env s).length < bufLen := by
  rw [printAll_complete_iff, length_fresh, Nat.zero_add]
  exact or_iff_right statisticsCalls_ne_nil

/-- The statistics are stored as one text that is cut off. -/
theorem printStaStatisticsTo_mem {s : StaStatistics} :
    (printStaStatisticsTo env s m buf bufLen).2 = snprintfTo m buf bufLen (statisticsText env s) :=
  printTo_mem statisticsCalls_ne_nil

theorem printStaStatisticsTo_of_fits {s : StaStatistics}
    (h : (statisticsText env s).length < bufLen) :
    (printStaStatisticsTo env s m buf bufLen).1 = (statisticsText env s).length := by
  have hcomplete := statistics_complete_iff.mpr h
  simp only [printStaStatisticsTo, printTo_fresh]
  rw [if_pos hcomplete, printAll_pos hcomplete, Nat.zero_add, Nat.cast_add, add_sub_cancel_left]
  rfl

/-- Station statistics are printed whole or not at all. -/
theorem statistics_all_or_nothing {s : StaStatistics} :
    AllOrNothing (statisticsText env s) m buf bufLen (printStaStatisticsTo env s m buf bufLen) := by
  refine ⟨?_, ?_, ?_⟩
  · intro hfits
    rw [printStaStatisticsTo_mem]
    exact ⟨printStaStatisticsTo_of_fits hfits, load_snprintfTo hfits⟩
  · intro hlong
    simp only [printStaStatisticsTo, printTo_fresh]
    exact if_neg (mt statistics_complete_iff.mp (by omega))
  · intro a ha
    rw [printStaStatisticsTo_mem]
    exact snprintfTo_outside ha

end Wpa
