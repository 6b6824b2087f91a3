-- SUMMARY: The fate of a command's message: which message every command sends, and which commands report that it failed.
import GioneeP4.Wpa.StationUse

/-!
# Delivery of messages

A command sends at most one testmode message, which its arguments and the station
decide before it is sent. Statistics, link detection and the hotspot's block list
report how the exchange went; the other commands drop the result.
-/

namespace Wpa

open Prog CText Printing

variable {env : Env} {cmd : Text} {wpaS : Option Station} {params : TestmodeParams}

/-! ## Exchanging a message -/

/-- What `wpa_driver_nl80211_testmode` returns for a message. -/
def Exchange.ret : Exchange → Int
  | .allocFailed => -1
  | .putFailed => -105
  | .exchanged ret _ => ret

/-- The same surroundings, with a kernel that takes every message and answers none. -/
def Env.delivering (env : Env) : Env := { env with exchange := fun _ => .exchanged 0 [] }

/-- A message comes back with the result of its exchange. -/
theorem exec_testmode {buf : TestmodeBuf} {s : CmdState} :
    ∃ buf' t, exec (wpaDriverNl80211Testmode env true params buf) s =
      (.ok ((env.exchange params).ret, buf'), t) := by
  cases hexchange : env.exchange params with
  | allocFailed | putFailed | exchanged =>
    unfold wpaDriverNl80211Testmode
    rw [hexchange]
    exact ⟨_, _, rfl⟩

theorem exec_testmode_delivering {buf : TestmodeBuf} {s : CmdState} :
    ∃ p t, exec (wpaDriverNl80211Testmode env.delivering true params buf) s = (.ok p, t) ∧
      t.sent = s.sent ++ [params] := ⟨_, _, rfl, rfl⟩

/-! ## The message of a branch -/

/-- A message that goes through the driver handle of `wpa_s`. -/
def stationMessage (wpaS : Option Station) (params : TestmodeParams) : Option TestmodeParams :=
  if wpaS.any Station.drvPriv then some params else none

/-- The message of `wpas_p2p_sigma_test_mode`. -/
def sigmaMessage (wpaS : Option Station) (index value : Int) : Option TestmodeParams :=
  stationMessage wpaS (.p2pSigma (BitVec.ofInt 32 index) (BitVec.ofInt 32 value))

/-- The message of a branch that parses a number. -/
def numberedMessage (cp : Text) (swCmd base : BitVec 32) : Option TestmodeParams :=
  let parsed := strtol cp 0
  if cp = [] ∨ parsed.endp = 0 then none
  else some (.swCmd true swCmd (BitVec.ofInt 32 parsed.value + base))

/-- Bytes in a zeroed array, if they fit. -/
def padded (capacity : Nat) (bytes : List Byte) : Option (List Byte) :=
  if bytes.length ≤ capacity then some (bytes ++ List.replicate (capacity - bytes.length) 0)
  else none

def wapiMessage (layout : WapiLayout) (p : WapiKeyParam) : Option TestmodeParams :=
  if p.seqLen > layout.iwEncodeSeqMaxSize * 2 then none
  else do
    let group := if p.addr = none ∨ p.addr = some broadcast then layout.iwEncodeExtGroupKey else 0
    let setTx := if p.setTx ≠ 0 then layout.iwEncodeExtSetTxKey else 0
    let key ← padded layout.keyCapacity ((p.key.getD []).take p.keyLen)
    let txSeq ← padded (layout.iwEncodeSeqMaxSize * 2) ((p.seq.getD []).take p.seqLen)
    some (.wapiKey
      { keyIndex := p.keyIdx + 1
        keyLen := p.keyLen
        extFlags := group ||| setTx
        addr := p.addr.getD broadcast
        alg := layout.iwEncodeAlgSms4
        key := key
        extKeyLen := if p.key.isSome then p.keyLen else 0
        txSeq := txSeq })

/-- The message a branch comes to send. -/
def Branch.message (env : Env) (wpaS : Option Station) (cmd : Text) :
    Branch → Option TestmodeParams
  | .getStaStatistics =>
      (env.hwaddrAton (cmd.drop 19)).bind fun addr => stationMessage wpaS (.getStaStatistics addr)
  | .getStaLinkDetect => stationMessage wpaS .getStaLinkDetect
  | .rxfilterAdd => numberedMessage (cmd.drop 12) 0x9F000000 0x00900200
  | .rxfilterRemove => numberedMessage (cmd.drop 15) 0x9F000000 0x00900300
  | .rxfilterStop => some (.swCmd true 0x9F000000 0x00900000)
  | .rxfilterStart => some (.swCmd true 0x9F000000 0x00900100)
  | .smtRate => numberedMessage (cmd.drop 8) 0xFFFF0123 0
  | .smtTestOn => some (.swCmd true 0xFFFF1234 0)
  | .smtTestOff => some (.swCmd true 0xFFFF1235 0)
  | .staBlock => (env.hwaddrAton (cmd.drop 10)).map (.hotspot 1)
  | .staUnblock => (env.hwaddrAton (cmd.drop 12)).map (.hotspot 0)
  | .setWapiKey => wapiMessage env.wapiLayout env.wapiKeyParam
  | .p2pSetOpps =>
      if setOppsParses env (cmd.drop 13) then sigmaMessage wpaS 107 (atoi (cmd.drop 13)) else none
  | .p2pSetPowerSave => sigmaMessage wpaS 108 (atoi (cmd.drop 19))
  | .p2pSetSleep =>
      if setSleepParses env (cmd.drop 14) then sigmaMessage wpaS 106 0 else none
  | .p2pSetSleepAll =>
      if setSleepParses env (ascii "ff:ff:ff:ff:ff:ff \"\"") then sigmaMessage wpaS 106 0 else none
  | _ => none

/-- A branch that returns 0 whatever became of its message. -/
def Branch.dropsResult : Branch → Bool
  | .rxfilterAdd | .rxfilterRemove | .rxfilterStop | .rxfilterStart | .smtRate | .smtTestOn
  | .smtTestOff | .setWapiKey | .p2pSetOpps | .p2pSetPowerSave | .p2pSetSleep
  | .p2pSetSleepAll => true
  | _ => false

/-- What a branch makes of the result of its message. -/
def Branch.reply (env : Env) : Branch → Int × TestmodeBuf → DrvM Int
  | .getStaStatistics, (ret, buf) =>
      if ret < 0 then return -1
      else
        match buf with
        | .staStatistics s => printStaStatistics env s
        | .none | .staLinkDetect _ => printStaStatistics env env.staStatistics
  | .getStaLinkDetect, (ret, buf) =>
      if ret < 0 then return -1
      else
        match buf with
        | .staLinkDetect s => printStaLinkDetect s
        | .none | .staStatistics _ => printStaLinkDetect env.staLinkDetect
  | .staBlock, (ret, _) | .staUnblock, (ret, _) => if ret ≠ 0 then return -1 else return 0
  | _, _ => return 0

/-! ## Branches that send -/

theorem stationMessage_eq_some {params' : TestmodeParams}
    (h : stationMessage wpaS params = some params') :
    ∃ station, wpaS = some station ∧ station.drvPriv = true ∧ params' = params := by
  unfold stationMessage at h
  split at h
  · cases wpaS with
    | none => cases ‹Option.any _ none = true›
    | some station => exact ⟨station, rfl, ‹_›, (Option.some.inj h).symm⟩
  · cases h

/-- A message of the P2P test mode goes through the handle of `wpa_s`. -/
theorem exec_p2pSigma {index value : Int} {s : CmdState}
    (h : sigmaMessage wpaS index value = some params) :
    exec (wpasP2pSigmaTestMode env wpaS index value >>= fun _ => pure (0 : Int)) s =
      exec (wpaDriverNl80211Testmode env true params .none >>= fun _ => pure (0 : Int)) s := by
  obtain ⟨station, rfl, hpriv, rfl⟩ := stationMessage_eq_some h
  unfold wpasP2pSigmaTestMode derefStation
  rw [exec_bind, exec_bind_of_ok exec_pure, hpriv, exec_bind, exec_bind]
  rcases exec (wpaDriverNl80211Testmode env true _ _) s with ⟨_ | p, t⟩ <;> rfl

theorem exec_fixedSwCmd {swCmd idx : BitVec 32} {s : CmdState} :
    exec (fixedSwCmd env swCmd idx) s =
      exec (wpaDriverNl80211Testmode env true (.swCmd true swCmd idx) .none >>= fun _ => pure (0 : Int))
        s := by
  rw [fixedSwCmd, wpaDriverNl80211DriverSwCmd, exec_bind, exec_bind]
  rcases exec (wpaDriverNl80211Testmode env true _ _) s with ⟨_ | p, t⟩ <;> rfl

theorem exec_numberedSwCmd {k : Nat} {swCmd base : BitVec 32} {s : CmdState}
    (h : numberedMessage (cmd.drop k) swCmd base = some params) (hk : k ≤ cmd.length) :
    exec (numberedSwCmd env cmd k swCmd base) s =
      exec (wpaDriverNl80211Testmode env true params .none >>= fun _ => pure (0 : Int)) s := by
  unfold numberedMessage at h
  obtain ⟨hgood, hparams⟩ := Option.ite_none_left_eq_some.mp h
  obtain ⟨hcp, hendp⟩ := not_or.mp hgood
  rw [numberedSwCmd, exec_bind_cstringAt hk, if_neg hcp, if_neg hendp, ← Option.some.inj hparams]
  exact exec_fixedSwCmd

theorem copyTo_of_padded {array : FixedArray} {capacity : Nat} {bytes all : List Byte}
    (h : padded capacity bytes = some all) : copyTo array capacity bytes = pure all := by
  obtain ⟨hfits, hall⟩ := Option.ite_none_right_eq_some.mp h
  rw [← Option.some.inj hall]
  exact if_pos hfits

theorem exec_setWapiKey {p : WapiKeyParam} {s : CmdState}
    (h : wapiMessage env.wapiLayout p = some params) :
    exec (wpaDriverNl80211SetWapiKey env p) s =
      exec (wpaDriverNl80211Testmode env true params .none >>= fun _ => pure (0 : Int)) s := by
  unfold wapiMessage at h
  obtain ⟨hseq, hrest⟩ := Option.ite_none_left_eq_some.mp h
  obtain ⟨key, hkey, hrest⟩ := Option.bind_eq_some_iff.mp hrest
  obtain ⟨txSeq, htxSeq, hparams⟩ := Option.bind_eq_some_iff.mp hrest
  rw [wpaDriverNl80211SetWapiKey, if_neg hseq, copyTo_of_padded hkey, copyTo_of_padded htxSeq,
    ← Option.some.inj hparams]
  rfl

theorem exec_zeroOrMinusOne_hotspot {bssid : Addr} {blocked : BitVec 8} {s : CmdState} :
    exec (zeroOrMinusOne (wpaDriverHotspotBlockListUpdate env bssid blocked)) s =
      exec (wpaDriverNl80211Testmode env true (.hotspot blocked bssid) .none >>=
        fun (ret, _) => if ret ≠ 0 then pure (-1) else pure 0) s := by
  rw [zeroOrMinusOne, wpaDriverHotspotBlockListUpdate, exec_bind, exec_bind, exec_bind]
  rcases exec (wpaDriverNl80211Testmode env true _ _) s with ⟨_ | p, t⟩ <;> rfl

/-- A branch with a message sends it and goes on with its result. -/
theorem exec_runBranch_of_message {drv : Drv} {branch : Branch} {s : CmdState}
    (h : branch.message env wpaS cmd = some params) (hoffset : branch.offset ≤ cmd.length) :
    ∃ buf, exec (runBranch env drv wpaS cmd branch) s =
      exec (wpaDriverNl80211Testmode env true params buf >>= branch.reply env) s := by
  cases branch with
  | getStaStatistics =>
    obtain ⟨addr, haddr, hstation⟩ := Option.bind_eq_some_iff.mp h
    obtain ⟨station, rfl, hpriv, rfl⟩ := stationMessage_eq_some hstation
    have hlow : 19 ≤ cmd.length := hoffset
    refine ⟨.staStatistics env.staStatistics, ?_⟩
    rw [runBranch, exec_bind_cstringAt hlow, wpaDriverGetStaStatistics, haddr, ← hpriv]
    rfl
  | getStaLinkDetect =>
    obtain ⟨station, rfl, hpriv, rfl⟩ := stationMessage_eq_some h
    refine ⟨.staLinkDetect env.staLinkDetect, ?_⟩
    rw [← hpriv]
    rfl
  | rxfilterAdd => exact ⟨.none, exec_numberedSwCmd h hoffset⟩
  | rxfilterRemove => exact ⟨.none, exec_numberedSwCmd h hoffset⟩
  | smtRate => exact ⟨.none, exec_numberedSwCmd h hoffset⟩
  | rxfilterStop | rxfilterStart | smtTestOn | smtTestOff =>
    cases h
    exact ⟨.none, exec_fixedSwCmd⟩
  | staBlock =>
    obtain ⟨bssid, haddr, rfl⟩ := Option.map_eq_some_iff.mp h
    have hlow : 10 ≤ cmd.length := hoffset
    refine ⟨.none, ?_⟩
    rw [runBranch, exec_bind_cstringAt hlow, wpaDriverStaBlock, haddr]
    exact exec_zeroOrMinusOne_hotspot
  | staUnblock =>
    obtain ⟨bssid, haddr, rfl⟩ := Option.map_eq_some_iff.mp h
    have hlow : 12 ≤ cmd.length := hoffset
    refine ⟨.none, ?_⟩
    rw [runBranch, exec_bind_cstringAt hlow, wpaDriverStaUnblock, haddr]
    exact exec_zeroOrMinusOne_hotspot
  | setWapiKey => exact ⟨.none, exec_setWapiKey h⟩
  | p2pSetOpps =>
    obtain ⟨hparses, hstation⟩ := Option.ite_none_right_eq_some.mp h
    have hlow : 13 ≤ cmd.length := hoffset
    refine ⟨.none, ?_⟩
    rw [runBranch, exec_bind_cstringAt hlow, exec_setOpps hparses]
    exact exec_p2pSigma hstation
  | p2pSetPowerSave =>
    have hlow : 19 ≤ cmd.length := hoffset
    refine ⟨.none, ?_⟩
    rw [runBranch, exec_bind_cstringAt hlow]
    exact exec_p2pSigma h
  | p2pSetSleep =>
    obtain ⟨hparses, hstation⟩ := Option.ite_none_right_eq_some.mp h
    have hlow : 14 ≤ cmd.length := hoffset
    refine ⟨.none, ?_⟩
    rw [runBranch, exec_bind_cstringAt hlow, exec_setSleep hparses]
    exact exec_p2pSigma hstation
  | p2pSetSleepAll =>
    obtain ⟨hparses, hstation⟩ := Option.ite_none_right_eq_some.mp h
    refine ⟨.none, ?_⟩
    rw [runBranch, exec_setSleep hparses]
    exact exec_p2pSigma hstation
  | _ => cases h

/-! ## Branches that do not send -/

section Sent

theorem stationMessage_eq_none (h : stationMessage wpaS params = none) :
    wpaS = none ∨ ∃ station, wpaS = some station ∧ station.drvPriv = false := by
  unfold stationMessage at h
  split at h
  · cases h
  · cases wpaS with
    | none => exact .inl rfl
    | some station => exact .inr ⟨station, rfl, Bool.eq_false_iff.mpr ‹_›⟩

theorem frames_cstringAt {k : Nat} : Frames CmdState.sent (cstringAt cmd k) :=
  frames_ite frames_pure frames_throw

/-- Behind the NUL there is a fault, before it the rest of the command. -/
theorem frames_bind_cstringAt {k : Nat} {f : Text → DrvM Int}
    (h : Frames CmdState.sent (f (cmd.drop k))) :
    Frames CmdState.sent (cstringAt cmd k >>= f) := by
  intro s
  by_cases hk : k ≤ cmd.length
  · rw [exec_bind_cstringAt hk]
    exact h s
  · rw [exec_bind_of_error (e := .readPastNul) (by rw [exec_cstringAt, if_neg hk])]

theorem frames_derefStation : Frames CmdState.sent (derefStation wpaS) := by
  cases wpaS with
  | none => exact frames_throw
  | some station => exact frames_pure

theorem frames_snprintfReply {text : Text} : Frames CmdState.sent (snprintfReply text) :=
  frames_bind (frames_modify fun _ => rfl) fun _ => frames_pure

theorem frames_printStaStatistics {st : StaStatistics} :
    Frames CmdState.sent (printStaStatistics env st) := by
  apply frames_bind frames_get
  intro s
  apply frames_bind
  · exact frames_modify fun _ => rfl
  · exact fun _ => frames_ite frames_pure frames_pure

theorem frames_printStaLinkDetect {st : StaLinkDetect} :
    Frames CmdState.sent (printStaLinkDetect st) := by
  apply frames_bind frames_get
  intro s
  exact frames_bind (frames_modify fun _ => rfl) fun _ => frames_pure

/-- What a branch makes of the result of its message sends no other. -/
theorem frames_reply {branch : Branch} {p : Int × TestmodeBuf} :
    Frames CmdState.sent (branch.reply env p) := by
  obtain ⟨ret, buf⟩ := p
  cases branch with
  | getStaStatistics =>
    apply frames_ite frames_pure
    cases buf <;> exact frames_printStaStatistics
  | getStaLinkDetect =>
    apply frames_ite frames_pure
    cases buf <;> exact frames_printStaLinkDetect
  | staBlock | staUnblock => exact frames_ite frames_pure frames_pure
  | _ => exact frames_pure

theorem frames_country : Frames CmdState.sent (country env cmd) := by
  have hset : Frames CmdState.sent (wpaDriverMediatekSetCountry env cmd 8) := by
    apply frames_ite frames_pure
    apply frames_bind frames_cstringAt
    intro alpha2
    apply frames_ite frames_throw
    exact frames_ite frames_pure frames_pure
  unfold country
  apply frames_ite
  · exact frames_bind frames_cstringAt fun _ => hset
  · exact hset

theorem frames_mcc : Frames CmdState.sent (mcc env wpaS cmd) := by
  apply frames_bind frames_derefStation
  intro station
  apply frames_ite
  · cases strchr cmd 32 with
    | none => exact frames_pure
    | some parts => exact frames_bind (frames_modify fun _ => rfl) fun _ => frames_pure
  · exact frames_pure

theorem frames_stop {drv : Drv} : Frames CmdState.sent (stop env drv wpaS) := by
  unfold stop
  apply frames_ite
  · exact frames_bind frames_derefStation fun _ => frames_pure
  · exact frames_pure

theorem frames_numberedSwCmd {k : Nat} {swCmd base : BitVec 32}
    (h : numberedMessage (cmd.drop k) swCmd base = none) :
    Frames CmdState.sent (numberedSwCmd env cmd k swCmd base) := by
  apply frames_bind_cstringAt
  by_cases hcp : cmd.drop k = []
  · rw [if_pos hcp]
    exact frames_pure
  · have hendp : (strtol (cmd.drop k) 0).endp = 0 := by
      simpa [numberedMessage, hcp] using h
    rw [if_neg hcp, if_pos hendp]
    exact frames_pure

theorem copyTo_of_not_padded {array : FixedArray} {capacity : Nat} {bytes : List Byte}
    (h : padded capacity bytes = none) :
    copyTo array capacity bytes = throw (.overflow array) := by
  have hlong : ¬bytes.length ≤ capacity := by simpa [padded] using h
  exact if_neg hlong

theorem frames_setWapiKey {p : WapiKeyParam} (h : wapiMessage env.wapiLayout p = none) :
    Frames CmdState.sent (wpaDriverNl80211SetWapiKey env p) := by
  unfold wpaDriverNl80211SetWapiKey
  unfold wapiMessage at h
  split at h
  · rw [if_pos ‹_›]
    exact frames_pure
  · rw [if_neg ‹_›]
    cases hkey : padded env.wapiLayout.keyCapacity ((p.key.getD []).take p.keyLen) with
    | none =>
      rw [copyTo_of_not_padded hkey]
      exact frames_throw
    | some key =>
      rw [copyTo_of_padded hkey]
      cases htxSeq : padded (env.wapiLayout.iwEncodeSeqMaxSize * 2)
          ((p.seq.getD []).take p.seqLen) with
      | none =>
        rw [copyTo_of_not_padded htxSeq]
        exact frames_throw
      | some txSeq =>
        rw [hkey, htxSeq] at h
        cases h

/-- Without a usable station, what goes through its handle is not sent. -/
theorem frames_stationTestmode {buf : TestmodeBuf} (h : stationMessage wpaS params = none) :
    Frames CmdState.sent (do
      let station ← derefStation wpaS
      wpaDriverNl80211Testmode env station.drvPriv params buf) := by
  obtain rfl | ⟨station, rfl, hpriv⟩ := stationMessage_eq_none h
  · exact frames_throw
  · apply frames_of_exec (r := .error .nullPointer)
    intro s
    rw [derefStation, exec_bind_of_ok exec_pure, hpriv]
    rfl

theorem frames_p2pSigma {index value : Int} (h : sigmaMessage wpaS index value = none) :
    Frames CmdState.sent (wpasP2pSigmaTestMode env wpaS index value) := by
  rw [wpasP2pSigmaTestMode, ← bind_assoc]
  exact frames_bind (frames_stationTestmode h) fun _ => frames_pure

theorem frames_of_outcome {m : DrvM Int}
    (h : ∃ r : Except Fault Int, (r = .ok (-1) ∨ r = .error .nullPointer) ∧
      ∀ s, exec m s = (r, s)) : Frames CmdState.sent m := by
  obtain ⟨r, -, hexec⟩ := h
  exact frames_of_exec hexec

theorem frames_setOpps
    (h : (if setOppsParses env cmd then sigmaMessage wpaS 107 (atoi cmd) else none) = none) :
    Frames CmdState.sent (p2pCtrlIfaceSetOpps env wpaS cmd) := by
  cases hparses : setOppsParses env cmd with
  | false => exact frames_of_outcome (exec_setOpps_malformed hparses)
  | true =>
    rw [if_pos hparses] at h
    intro s
    rw [exec_setOpps hparses]
    exact frames_bind (frames_p2pSigma h) (fun _ => frames_pure) s

theorem frames_setSleep
    (h : (if setSleepParses env cmd then sigmaMessage wpaS 106 0 else none) = none) :
    Frames CmdState.sent (p2pCtrlIfaceSetSleep env wpaS cmd) := by
  cases hparses : setSleepParses env cmd with
  | false => exact frames_of_outcome (exec_setSleep_malformed hparses)
  | true =>
    rw [if_pos hparses] at h
    intro s
    rw [exec_setSleep hparses]
    exact frames_bind (frames_p2pSigma h) (fun _ => frames_pure) s

/-- A branch without a message sends nothing. -/
theorem frames_runBranch {drv : Drv} {branch : Branch}
    (h : branch.message env wpaS cmd = none) :
    Frames CmdState.sent (runBranch env drv wpaS cmd branch) := by
  cases branch with
  | powermode | setRtsThreshold => exact frames_bind frames_cstringAt fun _ => frames_pure
  | getStaStatistics =>
    apply frames_bind_cstringAt
    unfold wpaDriverGetStaStatistics
    cases haddr : env.hwaddrAton (cmd.drop 19) with
    | none => exact frames_pure
    | some addr =>
      have hstation : stationMessage wpaS (.getStaStatistics addr) = none := by
        simpa [Branch.message, haddr] using h
      exact frames_bind (frames_stationTestmode hstation)
        fun p => @frames_reply env .getStaStatistics p
  | getStaLinkDetect =>
    exact frames_bind (frames_stationTestmode h) fun p => @frames_reply env .getStaLinkDetect p
  | macaddr => exact frames_bind frames_derefStation fun _ => frames_snprintfReply
  | country => exact frames_country
  | start | getpower | getRtsThreshold | btcoexscanStart | btcoexscanStop | btcoexmode
  | wapiMsgSend => exact frames_pure
  | stop => exact frames_stop
  | rxfilterAdd | rxfilterRemove | smtRate => exact frames_numberedSwCmd h
  | rxfilterStop | rxfilterStart | smtTestOn | smtTestOff => cases h
  | staBlock =>
    apply frames_bind_cstringAt
    rw [wpaDriverStaBlock, Option.map_eq_none_iff.mp h]
    exact frames_pure
  | staUnblock =>
    apply frames_bind_cstringAt
    rw [wpaDriverStaUnblock, Option.map_eq_none_iff.mp h]
    exact frames_pure
  | setWapiKey => exact frames_setWapiKey h
  | mcc => exact frames_mcc
  | p2pSetOpps => exact frames_bind_cstringAt (frames_setOpps h)
  | p2pSetPowerSave =>
    exact frames_bind_cstringAt (frames_bind (frames_p2pSigma h) fun _ => frames_pure)
  | p2pSetSleep => exact frames_bind_cstringAt (frames_setSleep h)
  | p2pSetSleepAll => exact frames_setSleep h

end Sent

/-! ## What a command sends -/

/-- The command comes to send a message, as it shows where every message is delivered. -/
def Sends (env : Env) (cmd : Text) (params : TestmodeParams) : Prop :=
  params ∈ (exec (wpaDriverNl80211DriverCmd env.delivering cmd) (.start 0 [])).2.sent

theorem ready_delivering {drv : Drv} : Ready env.delivering drv wpaS ↔ Ready env drv wpaS :=
  ⟨fun h => ⟨h.device, h.context, h.conf⟩, fun h => ⟨h.device, h.context, h.conf⟩⟩

theorem message_ne_country {branch : Branch} (h : branch.message env wpaS cmd = some params) :
    branch ≠ .country := by
  rintro rfl
  cases h

/-- Where every message is delivered, a branch with a message sends just that. -/
theorem sent_runBranch_delivering {drv : Drv} {branch : Branch} {s : CmdState}
    (h : branch.message env wpaS cmd = some params) (hoffset : branch.offset ≤ cmd.length) :
    (exec (runBranch env.delivering drv wpaS cmd branch) s).2.sent = s.sent ++ [params] := by
  have hmessage : branch.message env.delivering wpaS cmd = some params := h
  obtain ⟨buf, hrun⟩ := @exec_runBranch_of_message _ _ _ _ drv _ s hmessage hoffset
  obtain ⟨p, t, htestmode, hsent⟩ := @exec_testmode_delivering env params buf s
  rw [hrun, exec_bind_of_ok htestmode, frames_reply, hsent]

/-- A command sends the message of its branch and no other. -/
theorem sends_iff : Sends env cmd params ↔
    ∃ drv wpaS branch, Ready env drv wpaS ∧ dispatch env.features cmd = some branch ∧
      branch.message env wpaS cmd = some params := by
  constructor
  · intro hsends
    unfold Sends at hsends
    obtain hfail | ⟨drv, wpaS, branch, hready, hdispatch, hrun⟩ :=
      @driverCmd_cases env.delivering cmd
    · rw [hfail] at hsends
      cases hsends
    · rw [hrun] at hsends
      refine ⟨drv, wpaS, branch, ready_delivering.mp hready, hdispatch, ?_⟩
      cases hmessage : branch.message env wpaS cmd with
      | none =>
        have hnone : branch.message env.delivering wpaS cmd = none := hmessage
        rw [frames_runBranch hnone] at hsends
        cases hsends
      | some params' =>
        have hoffset := offset_le_length hdispatch (message_ne_country hmessage)
        rw [sent_runBranch_delivering hmessage hoffset] at hsends
        rw [List.mem_singleton.mp hsends]
  · rintro ⟨drv, wpaS, branch, hready, hdispatch, hmessage⟩
    have hoffset := offset_le_length hdispatch (message_ne_country hmessage)
    have hdispatch' : dispatch env.delivering.features cmd = some branch := hdispatch
    rw [Sends, driverCmd_of_dispatch (ready_delivering.mpr hready) hdispatch',
      sent_runBranch_delivering hmessage hoffset]
    exact List.mem_singleton_self params

/-- A program returns 0 and sends one message. -/
def SendsOne (m : DrvM Int) (params : TestmodeParams) : Prop :=
  ∀ s, ∃ t, exec m s = (.ok 0, t) ∧ t.sent = s.sent ++ [params]

/-- A program returns -1 and sends nothing. -/
def Refuses (m : DrvM Int) : Prop := ∀ s, ∃ t, exec m s = (.ok (-1), t) ∧ t.sent = s.sent

/-! ## What a command reports -/

/-- A command that dispatches to a branch with a message goes through its exchange. -/
theorem exec_driverCmd_of_message {drv : Drv} {branch : Branch} {s : CmdState}
    (hready : Ready env drv wpaS) (hdispatch : dispatch env.features cmd = some branch)
    (hmessage : branch.message env wpaS cmd = some params) :
    ∃ buf t, exec (wpaDriverNl80211DriverCmd env cmd) s =
      exec (branch.reply env ((env.exchange params).ret, buf)) t := by
  rw [driverCmd_of_dispatch hready hdispatch]
  obtain ⟨buf, hrun⟩ := @exec_runBranch_of_message _ _ _ _ drv _ s hmessage
    (offset_le_length hdispatch (message_ne_country hmessage))
  obtain ⟨buf', t, htestmode⟩ := @exec_testmode env params buf s
  exact ⟨buf', t, hrun.trans (exec_bind_of_ok htestmode)⟩

/-- A branch that keeps the result of its message returns -1 for a failure. -/
theorem reply_of_failed {branch : Branch} {ret : Int} {buf : TestmodeBuf}
    (hmessage : branch.message env wpaS cmd = some params) (hkeeps : branch.dropsResult = false)
    (hfailed : ret < 0) : branch.reply env (ret, buf) = pure (-1) := by
  cases branch with
  | getStaStatistics | getStaLinkDetect => exact if_pos hfailed
  | staBlock | staUnblock => exact if_pos hfailed.ne
  | rxfilterAdd | rxfilterRemove | rxfilterStop | rxfilterStart | smtRate | smtTestOn
  | smtTestOff | setWapiKey | p2pSetOpps | p2pSetPowerSave | p2pSetSleep | p2pSetSleepAll =>
    cases hkeeps
  | _ => cases hmessage

theorem reply_of_drops {branch : Branch} {p : Int × TestmodeBuf}
    (h : branch.dropsResult = true) : branch.reply env p = pure 0 := by
  cases branch <;> first | rfl | cases h

/-- A branch that drops the result of its message comes to send one that fails. -/
def DropsFailure (env : Env) (cmd : Text) : Prop :=
  ∃ drv wpaS branch params, Ready env drv wpaS ∧ dispatch env.features cmd = some branch ∧
    branch.dropsResult = true ∧ branch.message env wpaS cmd = some params ∧
      (env.exchange params).ret < 0

/-- What a command returns is not negative only if its message got through. -/
def ReportsFate (env : Env) (cmd : Text) : Prop :=
  ∀ params, Sends env cmd params →
    ∀ s ret t, exec (wpaDriverNl80211DriverCmd env cmd) s = (.ok ret, t) → 0 ≤ ret →
      0 ≤ (env.exchange params).ret

/-- A command reports the fate of its message, unless it drops a failure. -/
theorem reports_fate_iff : ReportsFate env cmd ↔ ¬DropsFailure env cmd := by
  constructor
  · rintro hreports ⟨drv, wpaS, branch, params, hready, hdispatch, hdrops, hmessage, hfailed⟩
    have hsends := sends_iff.mpr ⟨drv, wpaS, branch, hready, hdispatch, hmessage⟩
    obtain ⟨buf, t, hexec⟩ :=
      exec_driverCmd_of_message (s := .start 0 []) hready hdispatch hmessage
    rw [reply_of_drops hdrops] at hexec
    have hret := hreports params hsends _ _ _ hexec le_rfl
    omega
  · intro hkeeps params hsends s ret t hexec hret
    obtain ⟨drv, wpaS, branch, hready, hdispatch, hmessage⟩ := sends_iff.mp hsends
    by_contra hfailed
    have hneg : (env.exchange params).ret < 0 := by omega
    have hbranch : branch.dropsResult = false := by
      cases hdrops : branch.dropsResult with
      | false => rfl
      | true =>
        exact absurd ⟨drv, wpaS, branch, params, hready, hdispatch, hdrops, hmessage, hneg⟩ hkeeps
    obtain ⟨buf, u, hrun⟩ := exec_driverCmd_of_message (s := s) hready hdispatch hmessage
    rw [reply_of_failed hmessage hbranch hneg, hexec] at hrun
    cases hrun
    omega

/-- `rxfilter-stop` returns 0 although its message found no memory. -/
theorem rxfilterStop_drops_failure :
    ¬ReportsFate { Env.idle with exchange := fun _ => .allocFailed } (ascii "rxfilter-stop") := by
  intro hreports
  have hret := hreports (.swCmd true 0x9F000000 0x00900000) (List.mem_singleton_self _)
    (.start 0 []) _ _ rfl le_rfl
  revert hret
  decide

end Wpa
