-- SUMMARY: The driver command entry point: its chain of string comparisons, and what each branch does.
import GioneeP4.Wpa.Statistics

/-!
# Driver commands

`wpa_driver_nl80211_driver_cmd` compares the command string with one literal after
the other and runs the branch of the first that matches. The chain is a table in
source order; the branches read their arguments through `cmd + k`.
-/

namespace Wpa

open CText Printing

/-! ## The chain of comparisons -/

inductive Branch
  | powermode | getStaStatistics | getStaLinkDetect | macaddr | country | start | stop | getpower
  | getRtsThreshold | setRtsThreshold | rxfilterAdd | rxfilterRemove | rxfilterStop | rxfilterStart
  | btcoexscanStart | btcoexscanStop | btcoexmode | smtRate | smtTestOn | smtTestOff | staBlock
  | staUnblock | setWapiKey | wapiMsgSend | mcc | p2pSetOpps | p2pSetPowerSave | p2pSetSleep
  | p2pSetSleepAll
  deriving DecidableEq

/-- The comparison of one `if`, true when the C function returns 0. -/
inductive Test
  | strncasecmp (literal : String) (n : Nat)
  | strncmp (literal : String) (n : Nat)
  | strcasecmp (literal : String)
  deriving DecidableEq

def Test.holds (cmd : Text) : Test → Bool
  | .strncasecmp literal n => CText.strncasecmp cmd (ascii literal) n
  | .strncmp literal n => CText.strncmp cmd (ascii literal) n
  | .strcasecmp literal => CText.strcasecmp cmd (ascii literal)

/-- One `if` of the chain, under the feature it is compiled for. -/
structure Case where
  compiled : Features → Bool
  test : Test
  branch : Branch

def always (_ : Features) : Bool := true

/-- The chain, in source order. -/
def cases : List Case :=
  [⟨always, .strncasecmp "POWERMODE " 10, .powermode⟩,
    ⟨always, .strncasecmp "GET_STA_STATISTICS " 19, .getStaStatistics⟩,
    ⟨Features.poorLinkDetect, .strncasecmp "GET_STA_LINK_DETECT" 19, .getStaLinkDetect⟩,
    ⟨always, .strncmp "MACADDR" 7, .macaddr⟩,
    ⟨always, .strncasecmp "COUNTRY" 7, .country⟩,
    ⟨always, .strcasecmp "start", .start⟩,
    ⟨always, .strcasecmp "stop", .stop⟩,
    ⟨always, .strncasecmp "getpower" 8, .getpower⟩,
    ⟨always, .strncasecmp "get-rts-threshold" 17, .getRtsThreshold⟩,
    ⟨always, .strncasecmp "set-rts-threshold" 17, .setRtsThreshold⟩,
    ⟨always, .strncasecmp "rxfilter-add" 12, .rxfilterAdd⟩,
    ⟨always, .strncasecmp "rxfilter-remove" 15, .rxfilterRemove⟩,
    ⟨always, .strncasecmp "rxfilter-stop" 13, .rxfilterStop⟩,
    ⟨always, .strncasecmp "rxfilter-start" 14, .rxfilterStart⟩,
    ⟨always, .strcasecmp "btcoexscan-start", .btcoexscanStart⟩,
    ⟨always, .strcasecmp "btcoexscan-stop", .btcoexscanStop⟩,
    ⟨always, .strncasecmp "btcoexmode" 10, .btcoexmode⟩,
    ⟨always, .strncasecmp "smt-rate" 8, .smtRate⟩,
    ⟨always, .strncasecmp "smt-test-on" 11, .smtTestOn⟩,
    ⟨always, .strncasecmp "smt-test-off" 12, .smtTestOff⟩,
    ⟨Features.hotspotMgr, .strncmp "STA-BLOCK " 10, .staBlock⟩,
    ⟨Features.hotspotMgr, .strncmp "STA-UNBLOCK " 12, .staUnblock⟩,
    ⟨Features.wapi, .strncasecmp "set-wapi-key" 12, .setWapiKey⟩,
    ⟨Features.wapi, .strncasecmp "wapi-msg-send" 13, .wapiMsgSend⟩,
    ⟨Features.p2pSigma, .strncasecmp "mcc" 3, .mcc⟩,
    ⟨Features.p2pSigma, .strncmp "p2p_set_opps " 13, .p2pSetOpps⟩,
    ⟨Features.p2pSigma, .strncmp "p2p_set_power_save " 19, .p2pSetPowerSave⟩,
    ⟨Features.p2pSigma, .strncmp "p2p_set_sleep " 14, .p2pSetSleep⟩,
    ⟨Features.p2pSigma, .strncmp "p2p_set_sleep" 13, .p2pSetSleepAll⟩]

/-- The branch a command string runs, `none` when it is unsupported. -/
def dispatch (features : Features) (cmd : Text) : Option Branch :=
  (cases.find? fun c => c.compiled features && c.test.holds cmd).map Case.branch

/-- A branch runs because the comparison of one of its `if`s holds. -/
theorem dispatch_eq_some {features : Features} {cmd : Text} {branch : Branch}
    (h : dispatch features cmd = some branch) :
    ∃ c ∈ cases, c.branch = branch ∧ c.test.holds cmd = true := by
  obtain ⟨c, hfind, rfl⟩ := Option.map_eq_some_iff.mp h
  refine ⟨c, List.mem_of_find?_eq_some hfind, rfl, ?_⟩
  have hboth := List.find?_some hfind
  simp only [Bool.and_eq_true] at hboth
  exact hboth.2

/-- A branch that only one `if` runs is run where its comparison holds. -/
theorem holds_of_dispatch {features : Features} {cmd : Text} {branch : Branch} {test : Test}
    (h : dispatch features cmd = some branch)
    (honly : ∀ c ∈ cases, c.branch = branch → c.test = test) : test.holds cmd = true := by
  obtain ⟨c, hc, hbranch, htest⟩ := dispatch_eq_some h
  rw [honly c hc hbranch] at htest
  exact htest

/-- What starts with neither `P` nor `G` passes the first three comparisons by. -/
theorem not_powermode_or_get {cmd t : Text} {b : Byte} {n : Nat}
    (h : strncasecmp cmd (b :: t) (n + 1) = true) (hpower : toLower b ≠ toLower 80)
    (hget : toLower b ≠ toLower 71) :
    strncasecmp cmd (ascii "POWERMODE ") 10 = false ∧
      strncasecmp cmd (ascii "GET_STA_STATISTICS ") 19 = false ∧
        strncasecmp cmd (ascii "GET_STA_LINK_DETECT") 19 = false :=
  ⟨strncasecmp_eq_false h hpower, strncasecmp_eq_false h hget, strncasecmp_eq_false h hget⟩

/-- The commands that start with `MACADDR`. -/
theorem dispatch_macaddr_iff {features : Features} {cmd : Text} :
    dispatch features cmd = some .macaddr ↔ strncmp cmd (ascii "MACADDR") 7 = true := by
  constructor
  · intro h
    exact @holds_of_dispatch _ _ _ (.strncmp "MACADDR" 7) h (by decide)
  · intro h
    obtain ⟨hpower, hstatistics, hlink⟩ :=
      not_powermode_or_get (strncasecmp_of_strncmp h) (by decide) (by decide)
    simp [dispatch, cases, Test.holds, always, hpower, hstatistics, hlink, h]

/-- The commands that start with `COUNTRY`, in any case. -/
theorem dispatch_country_iff {features : Features} {cmd : Text} :
    dispatch features cmd = some .country ↔ strncasecmp cmd (ascii "COUNTRY") 7 = true := by
  constructor
  · intro h
    exact @holds_of_dispatch _ _ _ (.strncasecmp "COUNTRY" 7) h (by decide)
  · intro h
    obtain ⟨hpower, hstatistics, hlink⟩ := not_powermode_or_get h (by decide) (by decide)
    have hmac : strncmp cmd (ascii "MACADDR") 7 = false := by
      by_contra hmac
      have hboth : strncasecmp cmd (ascii "MACADDR") 7 = false :=
        strncasecmp_eq_false h (by decide)
      rw [strncasecmp_of_strncmp (Bool.not_eq_false _ ▸ hmac)] at hboth
      cases hboth
    simp [dispatch, cases, Test.holds, always, hpower, hstatistics, hlink, hmac, h]

/-! ## Branches -/

variable (env : Env)

/-- The string at `cmd + k`, a fault when that is behind the NUL of `cmd`. -/
def cstringAt (cmd : Text) (k : Nat) : DrvM Text :=
  if k ≤ cmd.length then return cmd.drop k else throw .readPastNul

/-- Prints a text to the start of the caller's buffer and returns what `snprintf` does. -/
def snprintfReply (text : Text) : DrvM Int := do
  modify fun s => { s with buf := snprintf s.buf 0 text }
  return text.length

def macaddr (wpaS : Option Station) : DrvM Int := do
  let station ← derefStation wpaS
  snprintfReply (ascii "Macaddr = " ++ macstr station.ownAddr ++ ascii "\n")

/-- `wpa_driver_mediatek_set_country` of the argument at `cmd + k`. -/
def wpaDriverMediatekSetCountry (cmd : Text) (k : Nat) : DrvM Int :=
  if env.socket < 0 then return -1
  else do
    let alpha2 ← cstringAt cmd k
    let text := ascii "COUNTRY " ++ alpha2
    -- char buf[11]
    if text.length + 1 > 11 then throw (.overflow .countryBuf)
    else
      let ret := env.ioctl text
      if ret < 0 then return ret else return 0

def country (cmd : Text) : DrvM Int := do
  let _ ← if env.debug then cstringAt cmd 8 else pure []
  wpaDriverMediatekSetCountry env cmd 8

def stop (drv : Drv) (wpaS : Option Station) : DrvM Int := do
  if drv.associated then
    let _ ← derefStation wpaS
    let _ := env.wpaDrvDeauthenticate
    return (env.linuxSetIfaceFlags false).val
  else
    return (env.linuxSetIfaceFlags false).val

/-- The branches whose driver call is commented out: `ret` is still what it was before. -/
def readBack (ret : Int) (name : String) : DrvM Int :=
  if ret = 0 then snprintfReply (ascii name ++ decimal env.stackWord.toNat ++ ascii "\n")
  else return ret

/-- The branches that parse a number after their keyword and send it in a command word. -/
def numberedSwCmd (cmd : Text) (k : Nat) (swCmd base : BitVec 32) : DrvM Int := do
  let cp ← cstringAt cmd k
  if cp = [] then return -1
  else
    let parsed := strtol cp 0
    if parsed.endp = 0 then return -1
    else
      let _ ← wpaDriverNl80211DriverSwCmd env true swCmd (BitVec.ofInt 32 parsed.value + base)
      return 0

/-- The branches that send a fixed command word. -/
def fixedSwCmd (swCmd idx : BitVec 32) : DrvM Int := do
  let _ ← wpaDriverNl80211DriverSwCmd env true swCmd idx
  return 0

/-- The branches that return 0 or -1 for the result of a call. -/
def zeroOrMinusOne (call : DrvM Int) : DrvM Int := do
  let ret ← call
  if ret ≠ 0 then return -1 else return 0

/-! ### P2P -/

def wpasP2pSigmaTestMode (wpaS : Option Station) (index value : Int) : DrvM Int := do
  let station ← derefStation wpaS
  let (ret, _) ← wpaDriverNl80211Testmode env station.drvPriv
    (.p2pSigma (BitVec.ofInt 32 index) (BitVec.ofInt 32 value)) .none
  return ret

/-- `str = os_strchr(s, ' '); *str++ = '\0';` leaves the string behind the space. -/
def afterSpace (s : Text) : DrvM Text :=
  match strchr s 32 with
  | none => throw .nullPointer
  | some (_, rest) => return rest

def p2pCtrlIfaceSetOpps (wpaS : Option Station) (cmd : Text) : DrvM Int := do
  let ctWin := atoi cmd
  let str ← afterSpace cmd
  match env.hwaddrAton str with
  | none => return -1
  | some _ =>
      -- the SSID is only logged
      let _ ← afterSpace str
      let _ ← wpasP2pSigmaTestMode env wpaS 107 ctWin
      return 0

def p2pCtrlIfaceSetPowerSave (wpaS : Option Station) (cmd : Text) : DrvM Int := do
  let value := atoi cmd
  let _ ← wpasP2pSigmaTestMode env wpaS 108 value
  return 0

def p2pCtrlIfaceSetSleep (wpaS : Option Station) (cmd : Text) : DrvM Int :=
  match env.hwaddrAton cmd with
  | none => return -1
  | some _ => do
      let _ ← afterSpace cmd
      let _ ← wpasP2pSigmaTestMode env wpaS 106 0
      return 0

/-- What `mcc` makes of one interface. -/
def Iface.setMcc (mcc : Int) (iface : Iface) : Iface :=
  if mcc ≠ 0 then
    { numMultichanConcurrent := 2
      drvFlags := iface.drvFlags ||| env.wpaDriverFlagsP2pConcurrent
      concurrentOperations := iface.concurrentOperations.map fun _ => 1 }
  else
    { numMultichanConcurrent := 0
      drvFlags := iface.drvFlags &&& ~~~env.wpaDriverFlagsP2pConcurrent
      concurrentOperations := iface.concurrentOperations.map fun _ => 0 }

def mcc (wpaS : Option Station) (cmd : Text) : DrvM Int := do
  let station ← derefStation wpaS
  if station.drvPriv then
    match strchr cmd 32 with
    | none => return -1
    | some (_, value) =>
        modify fun s => { s with ifaces := s.ifaces.map (Iface.setMcc env (atoi value)) }
        return 0
  else
    return -1

/-! ## The entry point -/

def runBranch (drv : Drv) (wpaS : Option Station) (cmd : Text) : Branch → DrvM Int
  | .powermode => do
      let state ← cstringAt cmd 10
      let _ := atoi state
      return -1
  | .getStaStatistics => do wpaDriverGetStaStatistics env wpaS (← cstringAt cmd 19)
  | .getStaLinkDetect => wpaDriverGetStaLinkDetect env wpaS
  | .macaddr => macaddr wpaS
  | .country => country env cmd
  | .start => return (env.linuxSetIfaceFlags true).val
  | .stop => stop env drv wpaS
  | .getpower => readBack env (-1) "powermode = "
  | .getRtsThreshold => readBack env (-1) "rts-threshold = "
  | .setRtsThreshold => do
      let cp ← cstringAt cmd 17
      let _ := strtol cp 0
      return -1
  | .rxfilterAdd => numberedSwCmd env cmd 12 0x9F000000 0x00900200
  | .rxfilterRemove => numberedSwCmd env cmd 15 0x9F000000 0x00900300
  | .rxfilterStop => fixedSwCmd env 0x9F000000 0x00900000
  | .rxfilterStart => fixedSwCmd env 0x9F000000 0x00900100
  | .btcoexscanStart | .btcoexscanStop | .btcoexmode => return 0
  | .smtRate => numberedSwCmd env cmd 8 0xFFFF0123 0
  | .smtTestOn => fixedSwCmd env 0xFFFF1234 0
  | .smtTestOff => fixedSwCmd env 0xFFFF1235 0
  | .staBlock => do zeroOrMinusOne (wpaDriverStaBlock env (← cstringAt cmd 10))
  | .staUnblock => do zeroOrMinusOne (wpaDriverStaUnblock env (← cstringAt cmd 12))
  | .setWapiKey => wpaDriverNl80211SetWapiKey env env.wapiKeyParam
  | .wapiMsgSend => return wpaDriverNl80211SendMsg env.wapiMsgInLen
  | .mcc => mcc env wpaS cmd
  | .p2pSetOpps => do p2pCtrlIfaceSetOpps env wpaS (← cstringAt cmd 13)
  | .p2pSetPowerSave => do p2pCtrlIfaceSetPowerSave env wpaS (← cstringAt cmd 19)
  | .p2pSetSleep => do p2pCtrlIfaceSetSleep env wpaS (← cstringAt cmd 14)
  | .p2pSetSleepAll => p2pCtrlIfaceSetSleep env wpaS (ascii "ff:ff:ff:ff:ff:ff \"\"")

def wpaDriverNl80211DriverCmd (cmd : Text) : DrvM Int :=
  match env.drv with
  | none => return -1
  | some drv =>
      match drv.ctx with
      | none => return -1
      | some ctx =>
          let wpaS := if env.ifname = ascii "ap0" then none else some ctx
          if wpaS.any fun station => !station.conf then return -1
          else
            match dispatch env.features cmd with
            | none => return -1
            | some branch => runBranch env drv wpaS cmd branch

/-- The checks before the chain pass, with `wpa_s` set as given. -/
structure Ready (drv : Drv) (wpaS : Option Station) : Prop where
  device : env.drv = some drv
  context : ∃ ctx, drv.ctx = some ctx ∧ wpaS = if env.ifname = ascii "ap0" then none else some ctx
  conf : (wpaS.any fun station => !station.conf) = false

variable {env} {drv : Drv} {wpaS : Option Station} {cmd : Text}

theorem driverCmd_of_ready (h : Ready env drv wpaS) :
    wpaDriverNl80211DriverCmd env cmd =
      match dispatch env.features cmd with
      | none => pure (-1)
      | some branch => runBranch env drv wpaS cmd branch := by
  obtain ⟨hdrv, ⟨ctx, hctx, rfl⟩, hconf⟩ := h
  simp only [wpaDriverNl80211DriverCmd, hdrv, hctx, hconf]
  rfl

theorem driverCmd_of_dispatch {branch : Branch} (h : Ready env drv wpaS)
    (hdispatch : dispatch env.features cmd = some branch) :
    wpaDriverNl80211DriverCmd env cmd = runBranch env drv wpaS cmd branch := by
  rw [driverCmd_of_ready h, hdispatch]

/-- A command returns -1, or passes the checks and runs the branch of the chain. -/
theorem driverCmd_cases :
    wpaDriverNl80211DriverCmd env cmd = pure (-1) ∨
      ∃ drv wpaS branch, Ready env drv wpaS ∧ dispatch env.features cmd = some branch ∧
        wpaDriverNl80211DriverCmd env cmd = runBranch env drv wpaS cmd branch := by
  cases hdrv : env.drv with
  | none => exact .inl (by simp only [wpaDriverNl80211DriverCmd, hdrv])
  | some drv =>
    cases hctx : drv.ctx with
    | none => exact .inl (by simp only [wpaDriverNl80211DriverCmd, hdrv, hctx])
    | some ctx =>
      cases hconf : (if env.ifname = ascii "ap0" then none else some ctx).any
          fun station => !station.conf with
      | true =>
        left
        simp only [wpaDriverNl80211DriverCmd, hdrv, hctx]
        exact if_pos hconf
      | false =>
        have hready : Ready env drv (if env.ifname = ascii "ap0" then none else some ctx) :=
          ⟨hdrv, ⟨ctx, hctx, rfl⟩, hconf⟩
        cases hdispatch : dispatch env.features cmd with
        | none =>
          left
          rw [driverCmd_of_ready hready, hdispatch]
        | some branch =>
          exact .inr ⟨drv, _, branch, hready, rfl, driverCmd_of_dispatch hready hdispatch⟩

/-- A caller's buffer of `bufLen` bytes before the call. -/
def CmdState.start (bufLen : Nat) (ifaces : List Iface) : CmdState := ⟨fresh bufLen, [], ifaces⟩

/-- A configured station `wlan0` without optional features: the kernel accepts every message and
    answers none. -/
def Env.idle : Env where
  features := default
  ifname := ascii "wlan0"
  drv := some ⟨some ⟨Vector.replicate 6 0, true, true⟩, false⟩
  exchange _ := .exchanged 0 []
  linuxSetIfaceFlags _ := ⟨0, le_rfl⟩
  wpaDrvDeauthenticate := 0
  socket := 3
  ioctl _ := 0
  hwaddrAton _ := none
  debug := false
  staStatistics := default
  staLinkDetect := default
  stackWord := 0
  formatDouble _ := []
  wapiLayout := default
  wapiKeyParam := default
  wapiMsgInLen := 0
  wpaDriverFlagsP2pConcurrent := 0

theorem ready_idle : ∃ drv station, Ready Env.idle drv (some station) := by
  refine ⟨_, _, rfl, ⟨_, rfl, rfl⟩, ?_⟩
  decide

end Wpa
