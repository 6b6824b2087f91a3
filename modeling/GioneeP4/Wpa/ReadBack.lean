-- SUMMARY: Reading the printed statistics back: link detection prints the longest series of its lines that fits, and counters from 2^31 on do not read back.
import GioneeP4.Lib.Report
import GioneeP4.Wpa.Output

/-!
# Reading the statistics back

Both outputs are reports of name=value lines. Link detection prints its counters
unsigned, and as many lines as fit; station statistics print theirs with `%d`.
-/

namespace Wpa

open Prog CText Printing Memory Report

variable {env : Env} {wpaS : Option Station} {replies : List Reply}
variable {m : Mem Byte} {buf bufLen : Nat}

theorem notMem_decimal {n : Nat} : (10 : Byte) ∉ decimal n := fun h =>
  absurd (mem_decimal h) (by decide)

/-! ## Link detection -/

/-- The counters of link detection, under the names they are printed with. -/
def linkCounters (s : StaLinkDetect) : List (String × BitVec 64) :=
  [("rFailedCount", s.txFailCnt),
    ("rRetryCount", s.txRetryCnt),
    ("rMultipleRetryCount", s.txMultiRetryCnt),
    ("rACKFailureCount", s.ackFailCnt),
    ("rFCSErrorCount", s.fcsErrCnt),
    ("tx_total", s.txCnt),
    ("tx_ok", s.txOkCnt),
    ("tx_os", s.txOsCnt)]

/-- The entry of a counter. -/
def linkEntry (c : String × BitVec 64) : Entry := ⟨ascii c.1, decimal c.2.toNat⟩

/-- What link detection prints: the longest series of its lines that fits, with numbers that read
    back. -/
structure LinkOutput (s : StaLinkDetect) (m : Mem Byte) (buf bufLen : Nat) (out : Int × Mem Byte)
    (printed : List Text) : Prop where
  longest : LongestPrefix bufLen (linkDetectLines s) printed
  length : out.1 = printed.flatten.length
  text : load out.2 buf printed.flatten.length = printed.flatten
  numbers : ∀ c ∈ (linkCounters s).take printed.length,
    numbersOf (ascii c.1) (load out.2 buf printed.flatten.length) = some [(c.2.toNat : Int)]
  frame : ∀ a, a < buf ∨ buf + bufLen ≤ a → out.2 a = m a

theorem linkDetectLines_entries {s : StaLinkDetect} :
    linkDetectLines s = ((linkCounters s).map linkEntry).map Entry.line := by
  simp only [linkDetectLines, linkCounters, linkEntry, List.map_cons, List.map_nil]
  rfl

/-- The names of the lines of link detection. -/
def linkNames : List String :=
  ["rFailedCount", "rRetryCount", "rMultipleRetryCount", "rACKFailureCount", "rFCSErrorCount",
    "tx_total", "tx_ok", "tx_os"]

theorem map_name_linkEntry {s : StaLinkDetect} :
    ((linkCounters s).map linkEntry).map Entry.name = linkNames.map ascii := by
  simp only [linkCounters, linkEntry, linkNames, List.map_cons, List.map_nil]

theorem linkEntry_plain {s : StaLinkDetect} : ∀ e ∈ (linkCounters s).map linkEntry, e.Plain := by
  apply plain_of_names
  · rw [map_name_linkEntry]
    decide
  · intro e he
    obtain ⟨c, -, rfl⟩ := List.mem_map.mp he
    exact notMem_decimal

/-- The counters whose lines are printed read back. -/
theorem numbersOf_linkCounters {s : StaLinkDetect} {n : Nat} :
    ∀ c ∈ (linkCounters s).take n,
      numbersOf (ascii c.1) ((linkDetectLines s).take n).flatten = some [(c.2.toNat : Int)] := by
  intro c hc
  have htext : ((linkDetectLines s).take n).flatten =
      report (((linkCounters s).take n).map linkEntry) ++ [] := by
    rw [linkDetectLines_entries, ← List.map_take, ← List.map_take, report, List.append_nil,
      List.flatMap_def]
  have hplain : ∀ e ∈ ((linkCounters s).take n).map linkEntry, e.Plain := by
    intro e he
    rw [List.map_take] at he
    exact linkEntry_plain e (List.mem_of_mem_take he)
  have hnames : (linkNames.map ascii).Nodup := by decide
  have hnodup : ((((linkCounters s).take n).map linkEntry).map Entry.name).Nodup := by
    rw [List.map_take, List.map_take, map_name_linkEntry]
    exact hnames.sublist (List.take_sublist _ _)
  have hvalue : (linkEntry c).value = [58].intercalate ([(c.2.toNat : Int)].map signedDecimal) := by
    simp [linkEntry, List.intercalate, signedDecimal]
  rw [htext]
  exact numbersOf_report hplain hnodup (List.mem_map_of_mem hc) hvalue (List.cons_ne_nil _ _)

/-- In memory link detection leaves the longest series of lines that fits. -/
theorem linkOutput_printed {s : StaLinkDetect} :
    LinkOutput s m buf bufLen (printStaLinkDetectTo s m buf bufLen)
      (fitting bufLen (linkDetectLines s)) := by
  have hne : linkDetectLines s ≠ [] := List.cons_ne_nil _ _
  have hmem : (printStaLinkDetectTo s m buf bufLen).2 =
      snprintfTo m buf bufLen (linkDetectLines s).flatten := printTo_mem hne
  have hlongest : LongestPrefix bufLen (linkDetectLines s) (fitting bufLen (linkDetectLines s)) :=
    longestPrefix_fitting
  obtain ⟨rest, hrest⟩ := hlongest.isPrefix
  have hload : load (printStaLinkDetectTo s m buf bufLen).2 buf
      (fitting bufLen (linkDetectLines s)).flatten.length =
        (fitting bufLen (linkDetectLines s)).flatten := by
    rcases hlongest.fits with hnil | hfits
    · rw [hnil]
      rfl
    · have hflatten : (linkDetectLines s).flatten =
          (fitting bufLen (linkDetectLines s)).flatten ++ rest.flatten := by
        rw [← List.flatten_append, hrest]
      rw [hmem, load_snprintfTo_take hfits (by rw [hflatten, List.length_append]; omega), hflatten,
        List.take_left]
  refine ⟨hlongest, ?_, hload, ?_, ?_⟩
  · have hspec := @printAll_spec (fresh bufLen) [] (linkDetectLines s) holds_nil (Nat.zero_le _)
    simp only [List.length_nil, List.nil_append, length_fresh, Nat.sub_zero] at hspec
    simp only [printStaLinkDetectTo, printTo_fresh, Nat.cast_add, add_sub_cancel_left, hspec.1]
  · rw [hload]
    have htake : fitting bufLen (linkDetectLines s) =
        (linkDetectLines s).take (fitting bufLen (linkDetectLines s)).length :=
      List.prefix_iff_eq_take.mp hlongest.isPrefix
    generalize fitting bufLen (linkDetectLines s) = printed at htake ⊢
    intro c hc
    rw [htake]
    exact numbersOf_linkCounters c hc
  · intro a ha
    rw [hmem]
    exact snprintfTo_outside ha

/-- A query that succeeds prints the longest series of lines that fits the caller's buffer. -/
theorem link_detect_prints_longest {ifaces : List Iface} {stack : StaLinkDetect}
    (h : linkDetectReplies env wpaS = some replies) :
    let s := replies.foldl testmodeStaLinkDetectHandler stack
    let out := printStaLinkDetectTo s m buf bufLen
    ∃ t printed, runStaLinkDetect env wpaS bufLen ifaces stack = (.ok out.1, t) ∧
      out.2 = commit m buf t.buf ∧ LinkOutput s m buf bufLen out printed := by
  obtain ⟨sent, hrun⟩ := @runStaLinkDetect_of_replies _ _ bufLen _ ifaces stack h
  intro s out
  have hout : out = (linkDetectResult (printedLinkDetect bufLen replies stack),
      commit m buf (printedLinkDetect bufLen replies stack).buf) := printStaLinkDetectTo_eq
  refine ⟨⟨(printedLinkDetect bufLen replies stack).buf, sent, ifaces⟩,
    fitting bufLen (linkDetectLines s), ?_, ?_, linkOutput_printed⟩
  · rw [hrun, hout]
  · rw [hout]

/-- A reply with two counters, the first of them negative for the handler. -/
def linkReply : Reply :=
  some [⟨LinkDetectAttr.ackFailCnt.number, List.replicate 8 0xff⟩,
    ⟨LinkDetectAttr.txCnt.number, [0, 1, 0, 0, 0, 0, 0, 0]⟩]

/-- A station whose kernel gives that reply. -/
def Env.linked : Env :=
  { Env.idle with
    features := { (default : Features) with poorLinkDetect := true }
    exchange := fun _ => .exchanged 0 [linkReply] }

/-- Two counters from the kernel and the rest from the stack, in a buffer that the last line does
    not fit in. -/
theorem link_detect_prints_longest_linked :
    let s : StaLinkDetect := { StaLinkDetect.filledWith 7 with ackFailCnt := 1, txCnt := 256 }
    let out := printStaLinkDetectTo s (fun _ => 0xaa) 100 110
    ∃ t printed, runStaLinkDetect .linked (some ⟨broadcast, true, true⟩) 110 [] (.filledWith 7) =
        (.ok out.1, t) ∧
      out.2 = commit (fun _ => 0xaa) 100 t.buf ∧
      LinkOutput s (fun _ => 0xaa) 100 110 out printed :=
  @link_detect_prints_longest .linked _ [linkReply] _ _ _ _ (.filledWith 7) rfl

/-! ## Station statistics -/

/-- The words of an array. -/
def wordsOf (array : Bytes 16) : List (BitVec 32) := (List.range 4).map fun i => wordOf array i

/-- The counters the kernel reports as unsigned 32-bit numbers, under the names they are printed
    with. -/
def statisticsCounters (s : StaStatistics) : List (String × List (BitVec 32)) :=
  [("total_cnt", [s.txTotalCnt]),
    ("threshold_cnt", [s.txExcThresholdCnt]),
    ("fail_cnt", [s.txFailCnt]),
    ("timeout_cnt", [s.txTimeoutCnt]),
    ("apt", [s.txAvgProcessTime]),
    ("aat", [s.txAvgAirTime]),
    ("TC_buf_full_cnt", wordsOf s.tcBufFullCnt),
    ("TC_sta_que_len", wordsOf s.tcQueLen),
    ("TC_avg_que_len", wordsOf s.tcAvgQueLen),
    ("TC_cur_que_len", wordsOf s.tcCurQueLen)]

/-- Every counter reads back from a text as the number the kernel reported. -/
def CountersReadBack (s : StaStatistics) (t : Text) : Prop :=
  ∀ c ∈ statisticsCounters s,
    numbersOf (ascii c.1) t = some (c.2.map fun word => (word.toNat : Int))

/-- The entry of a counter, printed with `%d`. -/
def counterEntry (c : String × List (BitVec 32)) : Entry :=
  ⟨ascii c.1, [58].intercalate ((c.2.map BitVec.toInt).map signedDecimal)⟩

/-- The entries before the counters. -/
def identityEntries (env : Env) (s : StaStatistics) : List Entry :=
  [⟨ascii "sta_addr", macstr s.addr⟩,
    ⟨ascii "link_score", decimal s.linkScore.toNat⟩,
    ⟨ascii "per", decimal s.per.toNat⟩,
    ⟨ascii "rssi", signedDecimal s.rssi⟩,
    ⟨ascii "phy", ascii "0x" ++ hex true 8 s.phyMode.toNat⟩,
    ⟨ascii "rate", oneDecimal env s.txRate⟩]

/-- The entries of the output up to the flag. -/
def statisticsEntries (env : Env) (s : StaStatistics) : List Entry :=
  identityEntries env s ++ (statisticsCounters s).map counterEntry

theorem statisticsText_entries {s : StaStatistics} :
    ∃ rest, statisticsText env s = report (statisticsEntries env s) ++ rest := by
  have hsingle : ∀ t : Text, [58].intercalate [t] = t := fun _ => List.intercalate_singleton
  have hcalls : ((statisticsCalls env s).map PrintCall.text).take 16 =
      (statisticsEntries env s).map Entry.line := by
    simp only [statisticsEntries, statisticsCounters, counterEntry, List.map_append, List.map_cons,
      List.map_nil, hsingle]
    rfl
  refine ⟨(((statisticsCalls env s).map PrintCall.text).drop 16).flatten, ?_⟩
  rw [statisticsText, report, List.flatMap_def, ← hcalls, ← List.flatten_append,
    List.take_append_drop]

/-- The names of the lines of the statistics up to the flag. -/
def statisticsNames : List String :=
  ["sta_addr", "link_score", "per", "rssi", "phy", "rate", "total_cnt", "threshold_cnt", "fail_cnt",
    "timeout_cnt", "apt", "aat", "TC_buf_full_cnt", "TC_sta_que_len", "TC_avg_que_len",
    "TC_cur_que_len"]

theorem map_name_statisticsEntries {s : StaStatistics} :
    (statisticsEntries env s).map Entry.name = statisticsNames.map ascii := by
  simp only [statisticsEntries, identityEntries, statisticsCounters, counterEntry, statisticsNames,
    List.map_cons, List.map_nil, List.cons_append, List.nil_append]

theorem notMem_macstr {addr : Addr} : (10 : Byte) ∉ macstr addr := by
  apply notMem_intercalate (by decide)
  intro t ht
  obtain ⟨b, -, rfl⟩ := List.mem_map.mp ht
  exact notMem_hex (by decide)

/-- Formatting a double prints no newline. -/
def DoublesPlain (env : Env) : Prop := ∀ bits, (10 : Byte) ∉ env.formatDouble bits

theorem notMem_oneDecimal {rate : Double} (h : DoublesPlain env) :
    (10 : Byte) ∉ oneDecimal env rate := by
  cases rate with
  | half twice =>
    simp only [oneDecimal, List.mem_append, not_or]
    exact ⟨⟨notMem_decimal, by decide⟩, notMem_decimal⟩
  | raw bits => exact h bits

theorem statisticsEntries_plain {s : StaStatistics} (h : DoublesPlain env) :
    ∀ e ∈ statisticsEntries env s, e.Plain := by
  have hphy : (10 : Byte) ∉ ascii "0x" ++ hex true 8 s.phyMode.toNat := by
    rw [List.mem_append, not_or]
    exact ⟨by decide, notMem_hex (by decide)⟩
  apply plain_of_names
  · rw [map_name_statisticsEntries]
    decide
  · intro e he
    rcases List.mem_append.mp he with hidentity | hcounter
    · simp only [identityEntries, List.mem_cons, List.not_mem_nil, or_false] at hidentity
      rcases hidentity with rfl | rfl | rfl | rfl | rfl | rfl
      · exact notMem_macstr
      · exact notMem_decimal
      · exact notMem_decimal
      · exact notMem_signedDecimal (by decide) (by decide)
      · exact hphy
      · exact notMem_oneDecimal h
    · obtain ⟨c, -, rfl⟩ := List.mem_map.mp hcounter
      refine notMem_intercalate (by decide) fun t ht => ?_
      obtain ⟨z, -, rfl⟩ := List.mem_map.mp ht
      exact notMem_signedDecimal (by decide) (by decide)

/-- A counter reads back as the number its words stand for when they are signed. -/
theorem numbersOf_statisticsText {s : StaStatistics} (h : DoublesPlain env) :
    ∀ c ∈ statisticsCounters s,
      numbersOf (ascii c.1) (statisticsText env s) = some (c.2.map BitVec.toInt) := by
  intro c hc
  obtain ⟨rest, hrest⟩ := @statisticsText_entries env s
  have hnodup : ((statisticsEntries env s).map Entry.name).Nodup := by
    rw [map_name_statisticsEntries]
    decide
  have hmem : counterEntry c ∈ statisticsEntries env s :=
    List.mem_append_right _ (List.mem_map_of_mem hc)
  have hwords : ∀ words ∈ (statisticsCounters s).map Prod.snd, words ≠ [] := by
    simp [statisticsCounters, wordsOf]
  rw [hrest]
  apply numbersOf_report (statisticsEntries_plain h) hnodup hmem rfl
  rw [ne_eq, List.map_eq_nil_iff]
  exact hwords c.2 (List.mem_map_of_mem hc)

/-- The number of a word is the unsigned one in the lower half of the range. -/
theorem toInt_eq_toNat_iff {word : BitVec 32} :
    word.toInt = (word.toNat : Int) ↔ word.toNat < 2 ^ 31 := by
  rw [BitVec.toInt_eq_toNat_cond]
  split
  · omega
  · omega

/-- A buffer with enough room gives back the text of all the calls. -/
theorem load_printStaStatisticsTo {s : StaStatistics}
    (hroom : (statisticsText env s).length < bufLen) :
    let out := printStaStatisticsTo env s m buf bufLen
    load out.2 buf out.1.toNat = statisticsText env s := by
  intro out
  have hlen : out.1 = (statisticsText env s).length := printStaStatisticsTo_of_fits hroom
  have hmem : out.2 = snprintfTo m buf bufLen (statisticsText env s) := printStaStatisticsTo_mem
  rw [hmem, hlen, Int.toNat_natCast, load_snprintfTo_take hroom le_rfl, List.take_length]

/-- In a buffer with enough room the counters read back exactly when all are below 2^31. -/
theorem counters_read_back_iff {s : StaStatistics} (hformat : DoublesPlain env)
    (hroom : (statisticsText env s).length < bufLen) :
    let out := printStaStatisticsTo env s m buf bufLen
    CountersReadBack s (load out.2 buf out.1.toNat) ↔
      ∀ c ∈ statisticsCounters s, ∀ word ∈ c.2, word.toNat < 2 ^ 31 := by
  intro out
  rw [load_printStaStatisticsTo hroom]
  refine forall₂_congr fun c hc => ?_
  rw [numbersOf_statisticsText hformat c hc, Option.some.injEq, List.map_inj_left]
  exact forall₂_congr fun word _ => toInt_eq_toNat_iff

/-- Statistics of a station with one counter in the upper half of the range. -/
def wrappedStatistics : StaStatistics := { (default : StaStatistics) with txTotalCnt := 0x80000000 }

theorem length_wrappedStatistics : (statisticsText .idle wrappedStatistics).length < 4096 := by
  decide +kernel

theorem counters_read_back_wrapped :
    let out := printStaStatisticsTo .idle wrappedStatistics (fun _ => 0xaa) 100 4096
    CountersReadBack wrappedStatistics (load out.2 100 out.1.toNat) ↔
      ∀ c ∈ statisticsCounters wrappedStatistics, ∀ word ∈ c.2, word.toNat < 2 ^ 31 :=
  @counters_read_back_iff .idle _ _ _ _ (fun _ => List.not_mem_nil) length_wrappedStatistics

/-- A total of 2^31 reads back as a negative number. -/
theorem total_not_read_back :
    let out := printStaStatisticsTo .idle wrappedStatistics (fun _ => 0xaa) 100 4096
    ¬CountersReadBack wrappedStatistics (load out.2 100 out.1.toNat) := by
  intro out h
  have htotal : ("total_cnt", [wrappedStatistics.txTotalCnt]) ∈ statisticsCounters wrappedStatistics :=
    List.mem_cons_self ..
  have hread := h _ htotal
  rw [load_printStaStatisticsTo length_wrappedStatistics,
    numbersOf_statisticsText (fun _ => List.not_mem_nil) _ htotal] at hread
  exact absurd hread (by decide)

end Wpa
