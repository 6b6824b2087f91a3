-- SUMMARY: What the statistics commands show of the stack: the output depends on a struct's earlier contents where a value no reply covers is in sight.
import GioneeP4.Wpa.DriverCmd
import GioneeP4.Wpa.Fields

/-!
# Stack contents in the output

Neither command initialises its struct, and a reply fills in what it carries. What
the caller reads then depends on the kernel's replies alone if and only if the
first value that no reply covers is printed behind the last usable byte.
-/

namespace Wpa

open Prog CText Printing Fill

variable {env : Env} {wpaS : Option Station} {addr : Text} {bufLen : Nat} {replies : List Reply}

/-! ## Queries -/

/-- The query both commands make: one message through the handle of `wpa_s`. -/
def stationQuery (env : Env) (wpaS : Option Station) (params : TestmodeParams)
    (buf : TestmodeBuf) : DrvM (Int × TestmodeBuf) := do
  let station ← derefStation wpaS
  wpaDriverNl80211Testmode env station.drvPriv params buf

/-- The replies a query comes back with, if it succeeds. -/
def stationReplies (exchange : TestmodeParams → Exchange) (wpaS : Option Station)
    (params : TestmodeParams) : Option (List Reply) :=
  match wpaS, exchange params with
  | some station, .exchanged ret replies =>
      if station.drvPriv ∧ 0 ≤ ret then some replies else none
  | _, _ => none

theorem exec_testmode_exchanged {params : TestmodeParams} {ret : Int} {buf : TestmodeBuf}
    {s : CmdState} (h : env.exchange params = .exchanged ret replies) :
    exec (wpaDriverNl80211Testmode env true params buf) s =
      (.ok (ret, handleReplies env (params.hdrIndex &&& 0x00ffffff) replies buf),
        { s with sent := s.sent ++ [params] }) := by
  unfold wpaDriverNl80211Testmode
  rw [h]
  rfl

/-- A query that succeeds hands its replies to the handler. -/
theorem exec_stationQuery {params : TestmodeParams} {buf : TestmodeBuf} {s : CmdState}
    (h : stationReplies env.exchange wpaS params = some replies) :
    ∃ ret, 0 ≤ ret ∧ exec (stationQuery env wpaS params buf) s =
      (.ok (ret, handleReplies env (params.hdrIndex &&& 0x00ffffff) replies buf),
        { s with sent := s.sent ++ [params] }) := by
  unfold stationReplies at h
  split at h
  · rename_i station ret replies' hexchange
    obtain ⟨⟨hpriv, hret⟩, hreplies⟩ := Option.ite_none_right_eq_some.mp h
    cases hreplies
    refine ⟨ret, hret, ?_⟩
    rw [stationQuery, derefStation, exec_bind_of_ok exec_pure, hpriv]
    exact exec_testmode_exchanged hexchange
  · cases h

/-- A query that fails decides the outcome, whatever it was to fill in. -/
theorem exec_stationQuery_failed {exchange : TestmodeParams → Exchange} {params : TestmodeParams}
    {s : CmdState} (h : stationReplies exchange wpaS params = none) :
    ∃ outcome, ∀ (env : Env) (buf : TestmodeBuf) (f : Int × TestmodeBuf → DrvM Int),
      env.exchange = exchange → (∀ p, p.1 < 0 → f p = pure (-1)) →
        exec (stationQuery env wpaS params buf >>= f) s = outcome := by
  cases wpaS with
  | none => exact ⟨(.error .unsetStation, s), fun env buf f _ _ => rfl⟩
  | some station =>
    cases hpriv : station.drvPriv with
    | false =>
      refine ⟨(.error .nullPointer, s), fun env buf f _ _ => ?_⟩
      apply exec_bind_of_error
      rw [stationQuery, derefStation, exec_bind_of_ok exec_pure, hpriv]
      rfl
    | true =>
      have hstep : ∀ env buf, stationQuery env (some station) params buf =
          wpaDriverNl80211Testmode env true params buf := by
        intro env buf
        rw [← hpriv]
        rfl
      simp only [hstep]
      cases hexchange : exchange params with
      | allocFailed =>
        refine ⟨(.ok (-1), s), fun env buf f henv hf => ?_⟩
        have hunsent : exec (wpaDriverNl80211Testmode env true params buf) s =
            (.ok (-1, buf), s) := by
          unfold wpaDriverNl80211Testmode
          rw [henv, hexchange]
          rfl
        rw [exec_bind_of_ok hunsent, hf _ (by dsimp only; decide), exec_pure]
      | putFailed =>
        refine ⟨(.ok (-1), s), fun env buf f henv hf => ?_⟩
        have hunsent : exec (wpaDriverNl80211Testmode env true params buf) s =
            (.ok (-105, buf), s) := by
          unfold wpaDriverNl80211Testmode
          rw [henv, hexchange]
          rfl
        rw [exec_bind_of_ok hunsent, hf _ (by dsimp only; decide), exec_pure]
      | exchanged ret replies =>
        have hret : ret < 0 := by
          simpa [stationReplies, hexchange, hpriv] using h
        refine ⟨(.ok (-1), { s with sent := s.sent ++ [params] }), fun env buf f henv hf => ?_⟩
        rw [← henv] at hexchange
        rw [exec_bind_of_ok (exec_testmode_exchanged hexchange), hf _ hret, exec_pure]

/-! ## Two stacks -/

/-- What the caller gets, the value returned and the text in the buffer, does not depend on what
    the stack held. -/
def IgnoresStack {σ : Type} (run : List Iface → σ → Except Fault Int × CmdState) : Prop :=
  ∀ ifaces stack stack', (run ifaces stack).1 = (run ifaces stack').1 ∧
    (run ifaces stack).2.buf = (run ifaces stack').2.buf

section TwoStacks

variable {σ : Type} {run : List Iface → σ → Except Fault Int × CmdState}

theorem ignoresStack_of_const
    (h : ∀ ifaces, ∃ outcome, ∀ stack, run ifaces stack = outcome) : IgnoresStack run := by
  intro ifaces stack stack'
  obtain ⟨outcome, houtcome⟩ := h ifaces
  simp only [houtcome, and_self]

/-- A run that prints ignores the stack if what it prints does. -/
theorem ignoresStack_iff_alike {printed : σ → Printed} {out : Printed → Int}
    (h : ∀ ifaces stack, ∃ sent,
      run ifaces stack = (.ok (out (printed stack)), ⟨(printed stack).buf, sent, ifaces⟩)) :
    IgnoresStack run ↔ ∀ stack stack', out (printed stack) = out (printed stack') ∧
      (printed stack).buf = (printed stack').buf := by
  constructor
  · intro hignores stack stack'
    obtain ⟨sent, hstack⟩ := h [] stack
    obtain ⟨sent', hstack'⟩ := h [] stack'
    have hsame := hignores [] stack stack'
    rw [hstack, hstack'] at hsame
    exact ⟨Except.ok.inj hsame.1, hsame.2⟩
  · intro halike ifaces stack stack'
    obtain ⟨sent, hstack⟩ := h ifaces stack
    obtain ⟨sent', hstack'⟩ := h ifaces stack'
    rw [hstack, hstack']
    exact ⟨congrArg Except.ok (halike stack stack').1, (halike stack stack').2⟩

/-- The replies leave a hole that is printed where the caller can see it. -/
def ShowsHole (replies : Option (List Reply)) (hole : List Reply → Option Text) (bufLen : Nat) :
    Prop :=
  ∃ rs c, replies = some rs ∧ hole rs = some c ∧ c.length + 1 < bufLen

theorem hidden_iff {hole : List Reply → Option Text} :
    (∀ c, hole replies = some c → bufLen ≤ c.length + 1) ↔
      ¬ShowsHole (some replies) hole bufLen := by
  constructor
  · rintro hhidden ⟨_, c, ⟨⟩, hole, hsight⟩
    have hbound := hhidden c hole
    omega
  · intro hhidden c hole
    by_contra hsight
    exact hhidden ⟨replies, c, rfl, hole, by omega⟩

theorem not_showsHole_none {hole : List Reply → Option Text} : ¬ShowsHole none hole bufLen := nofun

end TwoStacks

/-! ## Station statistics -/

/-- The statistics for a caller's buffer, on a stack that holds a given struct. -/
def runStaStatistics (env : Env) (wpaS : Option Station) (addr : Text) (bufLen : Nat)
    (ifaces : List Iface) (stack : StaStatistics) : Except Fault Int × CmdState :=
  exec (wpaDriverGetStaStatistics { env with staStatistics := stack } wpaS addr)
    (.start bufLen ifaces)

/-- The replies the statistics print, if the address is good and the query succeeds. -/
def statisticsReplies (env : Env) (wpaS : Option Station) (addr : Text) : Option (List Reply) :=
  (env.hwaddrAton addr).bind fun staAddr =>
    stationReplies env.exchange wpaS (.getStaStatistics staAddr)

/-- What the statistics print from the replies and a stack. -/
def printedStatistics (env : Env) (bufLen : Nat) (replies : List Reply) (stack : StaStatistics) :
    Printed :=
  printAll (fresh bufLen) 0 (statisticsLines.map
    (render (StaCell.text env (replies.foldl testmodeStaStatisticsHandler stack))))

/-- What the statistics return for what they printed. -/
def statisticsResult (printed : Printed) : Int := if printed.complete then printed.pos else 0

theorem handleReplies_staStatistics {staAddr : Addr} {stack : StaStatistics} :
    handleReplies env ((TestmodeParams.getStaStatistics staAddr).hdrIndex &&& 0x00ffffff) replies
      (.staStatistics stack) =
        .staStatistics (replies.foldl testmodeStaStatisticsHandler stack) := by
  have hindex : (TestmodeParams.getStaStatistics staAddr).hdrIndex &&& 0x00ffffff = 0x10 := by
    simp only [TestmodeParams.hdrIndex]
    decide
  rw [handleReplies, if_pos hindex]

theorem exec_printStaStatistics {st : StaStatistics} {s : CmdState} :
    exec (printStaStatistics env st) s =
      let printed := printAll s.buf 0 (statisticsLines.map (render (StaCell.text env st)))
      (.ok (statisticsResult printed), { s with buf := printed.buf }) := by
  unfold statisticsResult
  rw [← map_text_statisticsCalls, printStaStatistics, exec_bind_of_ok exec_get,
    exec_bind_of_ok exec_modify]
  split
  · dsimp only
    rw [if_pos ‹_›, exec_pure]
  · dsimp only
    rw [if_neg ‹_›, exec_pure]

/-- A query that succeeds prints what the replies leave in the struct. -/
theorem runStaStatistics_of_replies {ifaces : List Iface} {stack : StaStatistics}
    (h : statisticsReplies env wpaS addr = some replies) :
    ∃ sent, runStaStatistics env wpaS addr bufLen ifaces stack =
      (.ok (statisticsResult (printedStatistics env bufLen replies stack)),
        ⟨(printedStatistics env bufLen replies stack).buf, sent, ifaces⟩) := by
  obtain ⟨staAddr, haddr, hreplies⟩ := Option.bind_eq_some_iff.mp h
  have hreplies' : stationReplies ({ env with staStatistics := stack } : Env).exchange wpaS
      (.getStaStatistics staAddr) = some replies := hreplies
  obtain ⟨ret, hret, hquery⟩ := @exec_stationQuery _ _ _ _ (.staStatistics stack)
    (.start bufLen ifaces) hreplies'
  refine ⟨[.getStaStatistics staAddr], ?_⟩
  unfold runStaStatistics wpaDriverGetStaStatistics
  simp only [haddr]
  rw [handleReplies_staStatistics] at hquery
  refine (exec_bind_of_ok hquery).trans ?_
  simp only [if_neg (not_lt.mpr hret)]
  exact exec_printStaStatistics

/-- A query that fails does not look at the struct. -/
theorem runStaStatistics_of_not_replies {ifaces : List Iface}
    (h : statisticsReplies env wpaS addr = none) :
    ∃ outcome, ∀ stack, runStaStatistics env wpaS addr bufLen ifaces stack = outcome := by
  unfold runStaStatistics wpaDriverGetStaStatistics
  cases haddr : env.hwaddrAton addr with
  | none =>
    refine ⟨(.ok (-1), .start bufLen ifaces), fun stack => ?_⟩
    simp only [haddr]
    rfl
  | some staAddr =>
    have hfailed : stationReplies env.exchange wpaS (.getStaStatistics staAddr) = none := by
      simpa [statisticsReplies, haddr] using h
    obtain ⟨outcome, houtcome⟩ := exec_stationQuery_failed (s := .start bufLen ifaces) hfailed
    refine ⟨outcome, fun stack => ?_⟩
    simp only [haddr]
    apply houtcome { env with staStatistics := stack } (.staStatistics stack) _ rfl
    exact fun p hp => if_pos hp

/-- A piece that is never empty. -/
def visible : Piece StaCell → Bool
  | .text t => t ≠ []
  | .cell k => k.attr = .reservedArray

theorem visible_last :
    ∀ line ∈ statisticsLines, ∀ p ∈ line.getLast?, visible p = true := by decide

theorem shown_statisticsLines {st : StaStatistics} :
    Shown (StaCell.text env st) statisticsLines := by
  intro line hline p hp
  have hvisible := visible_last line hline p hp
  cases p with
  | text t => exact of_decide_eq_true hvisible
  | cell k =>
    obtain ⟨a, i⟩ := k
    cases (of_decide_eq_true hvisible : a = .reservedArray)
    intro hnil
    cases congrArg List.length hnil

/-- A piece that is no cell, or a cell its field has. -/
def inField : Piece StaCell → Bool
  | .text _ => true
  | .cell k => k.index < k.attr.cells

theorem inField_statisticsLines : ∀ line ∈ statisticsLines, ∀ p ∈ line, inField p = true := by
  decide

/-- The text before the first value that no reply covers, `none` when all are covered. -/
def statisticsHole (env : Env) (replies : List Reply) : Option Text :=
  beforeHole (StaCell.covered replies)
    (StaCell.text env (replies.foldl testmodeStaStatisticsHandler (.filledWith 0 0)))
    statisticsLines.flatten

theorem statistics_ignoresStack_iff :
    IgnoresStack (runStaStatistics env wpaS addr bufLen) ↔
      ¬ShowsHole (statisticsReplies env wpaS addr) (statisticsHole env) bufLen := by
  cases hreplies : statisticsReplies env wpaS addr with
  | none =>
    have hconst : IgnoresStack (runStaStatistics env wpaS addr bufLen) :=
      ignoresStack_of_const fun _ => runStaStatistics_of_not_replies hreplies
    exact iff_of_true hconst not_showsHole_none
  | some replies =>
    have hcovered : ∀ stack stack' k, StaCell.covered replies k = true →
        StaCell.text env (replies.foldl testmodeStaStatisticsHandler stack) k =
          StaCell.text env (replies.foldl testmodeStaStatisticsHandler stack') k :=
      fun _ _ _ hk => text_of_covered hk
    have hapart : ∀ k, .cell k ∈ statisticsLines.flatten → StaCell.covered replies k = false →
        StartsApart
          (StaCell.text env (replies.foldl testmodeStaStatisticsHandler (.filledWith 0 0)) k)
          (StaCell.text env (replies.foldl testmodeStaStatisticsHandler (.filledWith 1 0x80)) k) := by
      intro k hk huncovered
      obtain ⟨line, hline, hk⟩ := List.mem_flatten.mp hk
      have hindex := of_decide_eq_true (inField_statisticsLines line hline _ hk)
      exact startsApart_of_not_covered hindex huncovered
    rw [← hidden_iff]
    refine Iff.trans (ignoresStack_iff_alike fun _ _ => runStaStatistics_of_replies hreplies) ?_
    exact printed_alike_iff statisticsResult hcovered (fun _ => shown_statisticsLines) hapart

/-! ## Link detection -/

/-- Link detection for a caller's buffer, on a stack that holds a given struct. -/
def runStaLinkDetect (env : Env) (wpaS : Option Station) (bufLen : Nat) (ifaces : List Iface)
    (stack : StaLinkDetect) : Except Fault Int × CmdState :=
  exec (wpaDriverGetStaLinkDetect { env with staLinkDetect := stack } wpaS) (.start bufLen ifaces)

/-- The replies that reach the handler of link detection, if the query succeeds. -/
def linkDetectReplies (env : Env) (wpaS : Option Station) : Option (List Reply) :=
  (stationReplies env.exchange wpaS .getStaLinkDetect).map fun replies =>
    if env.features.poorLinkDetect then replies else []

/-- What link detection prints from the replies and a stack. -/
def printedLinkDetect (bufLen : Nat) (replies : List Reply) (stack : StaLinkDetect) : Printed :=
  printAll (fresh bufLen) 0 (linkLines.map
    (render (LinkDetectAttr.text (replies.foldl testmodeStaLinkDetectHandler stack))))

/-- What link detection returns for what it printed. -/
def linkDetectResult (printed : Printed) : Int := printed.pos

theorem handleReplies_staLinkDetect {stack : StaLinkDetect} :
    handleReplies env (TestmodeParams.getStaLinkDetect.hdrIndex &&& 0x00ffffff) replies
      (.staLinkDetect stack) = .staLinkDetect
        ((if env.features.poorLinkDetect then replies else []).foldl testmodeStaLinkDetectHandler
          stack) := by
  have hindex : TestmodeParams.getStaLinkDetect.hdrIndex &&& 0x00ffffff = 0x20 := by decide
  rw [hindex, handleReplies, if_neg (by decide)]
  cases env.features.poorLinkDetect <;> rfl

theorem runStaLinkDetect_of_replies {ifaces : List Iface} {stack : StaLinkDetect}
    (h : linkDetectReplies env wpaS = some replies) :
    ∃ sent, runStaLinkDetect env wpaS bufLen ifaces stack =
      (.ok (linkDetectResult (printedLinkDetect bufLen replies stack)),
        ⟨(printedLinkDetect bufLen replies stack).buf, sent, ifaces⟩) := by
  obtain ⟨all, hall, rfl⟩ := Option.map_eq_some_iff.mp h
  have hall' : stationReplies ({ env with staLinkDetect := stack } : Env).exchange wpaS
      .getStaLinkDetect = some all := hall
  obtain ⟨ret, hret, hquery⟩ := @exec_stationQuery _ _ _ _ (.staLinkDetect stack)
    (.start bufLen ifaces) hall'
  refine ⟨[.getStaLinkDetect], ?_⟩
  rw [handleReplies_staLinkDetect] at hquery
  refine (exec_bind_of_ok hquery).trans ?_
  simp only [if_neg (not_lt.mpr hret), printStaLinkDetect, linkDetectLines_eq]
  rw [exec_bind_of_ok exec_get, exec_bind_of_ok exec_modify, exec_pure]
  rfl

theorem runStaLinkDetect_of_not_replies {ifaces : List Iface}
    (h : linkDetectReplies env wpaS = none) :
    ∃ outcome, ∀ stack, runStaLinkDetect env wpaS bufLen ifaces stack = outcome := by
  have hfailed := Option.map_eq_none_iff.mp h
  obtain ⟨outcome, houtcome⟩ := exec_stationQuery_failed (s := .start bufLen ifaces) hfailed
  refine ⟨outcome, fun stack => ?_⟩
  apply houtcome { env with staLinkDetect := stack } (.staLinkDetect stack) _ rfl
  exact fun p hp => if_pos hp

theorem shown_linkLines {st : StaLinkDetect} : Shown (LinkDetectAttr.text st) linkLines := by
  intro line hline p hp
  have hnewline : ∀ line ∈ linkLines, line.getLast? = some (.text (ascii "\n")) := by
    intro line hline
    simp only [linkLines, List.mem_cons, List.not_mem_nil, or_false] at hline
    rcases hline with rfl | rfl | rfl | rfl | rfl | rfl | rfl | rfl <;> rfl
  rw [hnewline line hline] at hp
  cases hp
  exact List.cons_ne_nil _ _

/-- The text before the first number that no reply carries, `none` when all are carried. -/
def linkDetectHole (replies : List Reply) : Option Text :=
  beforeHole (LinkDetectAttr.covered replies)
    (LinkDetectAttr.text (replies.foldl testmodeStaLinkDetectHandler (.filledWith 0)))
    linkLines.flatten

theorem linkDetect_ignoresStack_iff :
    IgnoresStack (runStaLinkDetect env wpaS bufLen) ↔
      ¬ShowsHole (linkDetectReplies env wpaS) linkDetectHole bufLen := by
  cases hreplies : linkDetectReplies env wpaS with
  | none =>
    have hconst : IgnoresStack (runStaLinkDetect env wpaS bufLen) :=
      ignoresStack_of_const fun _ => runStaLinkDetect_of_not_replies hreplies
    exact iff_of_true hconst not_showsHole_none
  | some replies =>
    have hcovered : ∀ stack stack' a, LinkDetectAttr.covered replies a = true →
        LinkDetectAttr.text (replies.foldl testmodeStaLinkDetectHandler stack) a =
          LinkDetectAttr.text (replies.foldl testmodeStaLinkDetectHandler stack') a :=
      fun _ _ _ ha => LinkDetectAttr.text_of_covered ha
    have hapart : ∀ a, .cell a ∈ linkLines.flatten → LinkDetectAttr.covered replies a = false →
        StartsApart
          (LinkDetectAttr.text (replies.foldl testmodeStaLinkDetectHandler (.filledWith 0)) a)
          (LinkDetectAttr.text (replies.foldl testmodeStaLinkDetectHandler (.filledWith 1)) a) :=
      fun _ _ ha => LinkDetectAttr.startsApart_of_not_covered ha
    rw [← hidden_iff]
    refine Iff.trans (ignoresStack_iff_alike fun _ _ => runStaLinkDetect_of_replies hreplies) ?_
    exact printed_alike_iff linkDetectResult hcovered (fun _ => shown_linkLines) hapart

/-! ## Both commands -/

/-- What a command gives the caller depends on the stack where a hole shows in its output. -/
theorem output_ignores_stack_iff :
    (IgnoresStack (runStaStatistics env wpaS addr bufLen) ↔
        ¬ShowsHole (statisticsReplies env wpaS addr) (statisticsHole env) bufLen) ∧
      (IgnoresStack (runStaLinkDetect env wpaS bufLen) ↔
        ¬ShowsHole (linkDetectReplies env wpaS) linkDetectHole bufLen) :=
  ⟨statistics_ignoresStack_iff, linkDetect_ignoresStack_iff⟩

/-- A kernel that acknowledges the query and answers nothing makes the command print the stack. -/
theorem statistics_print_stack :
    ¬IgnoresStack (runStaStatistics { Env.idle with hwaddrAton := fun _ => some broadcast }
      (some ⟨broadcast, true, true⟩) [] 4096) := by
  rw [statistics_ignoresStack_iff, not_not]
  exact ⟨[], ascii "sta_addr=", rfl, rfl, by decide⟩

end Wpa
