-- SUMMARY: Sessions of driver commands: what the kernel is sent and how the interfaces end up, command by command.
import GioneeP4.Lib.Register
import GioneeP4.Wpa.Delivery
import GioneeP4.Wpa.Mcc

/-!
# Sessions

Commands come one after the other, each with a buffer of its own and with whatever
the kernel answers at the time. The kernel sees the messages of the commands in their
order, and the interfaces are a register that `mcc` writes.
-/

namespace Wpa

open Prog CText Printing Register

variable {env : Env} {cmd : Text} {wpaS : Option Station}

/-! ## What the branches leave alone -/

section Keeps

variable {γ : Type} {part : CmdState → γ}

/-- The part of the state has nothing to do with the messages sent. -/
def IgnoresSent (part : CmdState → γ) : Prop := ∀ s sent, part { s with sent := sent } = part s

def IgnoresBuf (part : CmdState → γ) : Prop := ∀ s buf, part { s with buf := buf } = part s

def IgnoresIfaces (part : CmdState → γ) : Prop := ∀ s ifaces, part { s with ifaces := ifaces } = part s

theorem keeps_cstringAt {k : Nat} : Frames part (cstringAt cmd k) :=
  frames_ite frames_pure frames_throw

theorem keeps_derefStation : Frames part (derefStation wpaS) := by
  cases wpaS with
  | none => exact frames_throw
  | some station => exact frames_pure

theorem keeps_afterSpace {s : Text} : Frames part (afterSpace s) := by
  unfold afterSpace
  cases strchr s 32 with
  | none => exact frames_throw
  | some parts => exact frames_pure

theorem keeps_testmode (h : IgnoresSent part) {priv : Bool} {params : TestmodeParams}
    {buf : TestmodeBuf} : Frames part (wpaDriverNl80211Testmode env priv params buf) := by
  unfold wpaDriverNl80211Testmode
  apply frames_ite frames_throw
  cases env.exchange params with
  | allocFailed => exact frames_pure
  | putFailed => exact frames_pure
  | exchanged ret replies => exact frames_bind (frames_modify fun s => h s _) fun _ => frames_pure

theorem keeps_fixedSwCmd (h : IgnoresSent part) {swCmd idx : BitVec 32} :
    Frames part (fixedSwCmd env swCmd idx) :=
  frames_bind (frames_bind (keeps_testmode h) fun _ => frames_pure) fun _ => frames_pure

theorem keeps_numberedSwCmd (h : IgnoresSent part) {k : Nat} {swCmd base : BitVec 32} :
    Frames part (numberedSwCmd env cmd k swCmd base) := by
  apply frames_bind keeps_cstringAt
  intro cp
  apply frames_ite frames_pure
  exact frames_ite frames_pure (keeps_fixedSwCmd h)

theorem keeps_blockListUpdate (h : IgnoresSent part) {bssid : Addr} {blocked : BitVec 8} :
    Frames part (zeroOrMinusOne (wpaDriverHotspotBlockListUpdate env bssid blocked)) := by
  apply frames_bind (frames_bind (keeps_testmode h) fun _ => frames_pure)
  exact fun ret => frames_ite frames_pure frames_pure

theorem keeps_staBlock (h : IgnoresSent part) :
    Frames part (zeroOrMinusOne (wpaDriverStaBlock env cmd)) := by
  unfold wpaDriverStaBlock
  cases env.hwaddrAton cmd with
  | none => exact frames_bind frames_pure fun _ => frames_ite frames_pure frames_pure
  | some bssid => exact keeps_blockListUpdate h

theorem keeps_staUnblock (h : IgnoresSent part) :
    Frames part (zeroOrMinusOne (wpaDriverStaUnblock env cmd)) := by
  unfold wpaDriverStaUnblock
  cases env.hwaddrAton cmd with
  | none => exact frames_bind frames_pure fun _ => frames_ite frames_pure frames_pure
  | some bssid => exact keeps_blockListUpdate h

theorem keeps_copyTo {array : FixedArray} {capacity : Nat} {bytes : List Byte} :
    Frames part (copyTo array capacity bytes) :=
  frames_ite frames_pure frames_throw

theorem keeps_setWapiKey (h : IgnoresSent part) {p : WapiKeyParam} :
    Frames part (wpaDriverNl80211SetWapiKey env p) := by
  apply frames_ite frames_pure
  apply frames_bind keeps_copyTo
  intro key
  apply frames_bind keeps_copyTo
  intro txSeq
  exact frames_bind (keeps_testmode h) fun _ => frames_pure

theorem keeps_p2pSigma (h : IgnoresSent part) {index value : Int} :
    Frames part (wpasP2pSigmaTestMode env wpaS index value) := by
  apply frames_bind keeps_derefStation
  exact fun station => frames_bind (keeps_testmode h) fun _ => frames_pure

theorem keeps_setOpps (h : IgnoresSent part) :
    Frames part (p2pCtrlIfaceSetOpps env wpaS cmd) := by
  apply frames_bind keeps_afterSpace
  intro str
  cases env.hwaddrAton str with
  | none => exact frames_pure
  | some addr =>
    apply frames_bind keeps_afterSpace
    exact fun _ => frames_bind (keeps_p2pSigma h) fun _ => frames_pure

theorem keeps_setSleep (h : IgnoresSent part) :
    Frames part (p2pCtrlIfaceSetSleep env wpaS cmd) := by
  unfold p2pCtrlIfaceSetSleep
  cases env.hwaddrAton cmd with
  | none => exact frames_pure
  | some addr =>
    apply frames_bind keeps_afterSpace
    exact fun _ => frames_bind (keeps_p2pSigma h) fun _ => frames_pure

theorem keeps_country : Frames part (country env cmd) := by
  have hset : Frames part (wpaDriverMediatekSetCountry env cmd 8) := by
    apply frames_ite frames_pure
    apply frames_bind keeps_cstringAt
    intro alpha2
    exact frames_ite frames_throw (frames_ite frames_pure frames_pure)
  unfold country
  apply frames_ite
  · exact frames_bind keeps_cstringAt fun _ => hset
  · exact hset

theorem keeps_stop {drv : Drv} : Frames part (stop env drv wpaS) := by
  unfold stop
  exact frames_ite (frames_bind keeps_derefStation fun _ => frames_pure) frames_pure

theorem keeps_printStaStatistics (h : IgnoresBuf part) {st : StaStatistics} :
    Frames part (printStaStatistics env st) := by
  apply frames_bind frames_get
  intro s
  apply frames_bind (frames_modify fun s => h s _)
  exact fun _ => frames_ite frames_pure frames_pure

theorem keeps_printStaLinkDetect (h : IgnoresBuf part) {st : StaLinkDetect} :
    Frames part (printStaLinkDetect st) := by
  apply frames_bind frames_get
  intro s
  exact frames_bind (frames_modify fun s => h s _) fun _ => frames_pure

theorem keeps_reply (h : IgnoresBuf part) {branch : Branch} {p : Int × TestmodeBuf} :
    Frames part (branch.reply env p) := by
  obtain ⟨ret, buf⟩ := p
  cases branch with
  | getStaStatistics =>
    apply frames_ite frames_pure
    cases buf <;> exact keeps_printStaStatistics h
  | getStaLinkDetect =>
    apply frames_ite frames_pure
    cases buf <;> exact keeps_printStaLinkDetect h
  | staBlock | staUnblock => exact frames_ite frames_pure frames_pure
  | _ => exact frames_pure

theorem keeps_getStaStatistics (hsent : IgnoresSent part) (hbuf : IgnoresBuf part) {addr : Text} :
    Frames part (wpaDriverGetStaStatistics env wpaS addr) := by
  unfold wpaDriverGetStaStatistics
  cases env.hwaddrAton addr with
  | none => exact frames_pure
  | some staAddr =>
    apply frames_bind (frames_bind keeps_derefStation fun _ => keeps_testmode hsent)
    exact fun p => @keeps_reply env _ part hbuf .getStaStatistics p

theorem keeps_mcc (h : IgnoresIfaces part) : Frames part (mcc env wpaS cmd) := by
  apply frames_bind keeps_derefStation
  intro station
  apply frames_ite
  · cases strchr cmd 32 with
    | none => exact frames_pure
    | some parts => exact frames_bind (frames_modify fun s => h s _) fun _ => frames_pure
  · exact frames_pure

/-- Every branch sends at most, three of them print, and `mcc` sets up the interfaces. -/
theorem keeps_runBranch {drv : Drv} {branch : Branch} (hsent : IgnoresSent part)
    (hprints : branch.prints = true → IgnoresBuf part)
    (hmcc : branch = .mcc → IgnoresIfaces part) :
    Frames part (runBranch env drv wpaS cmd branch) := by
  cases branch with
  | powermode | setRtsThreshold => exact frames_bind keeps_cstringAt fun _ => frames_pure
  | getStaStatistics =>
    exact frames_bind keeps_cstringAt fun _ => keeps_getStaStatistics hsent (hprints rfl)
  | getStaLinkDetect =>
    apply frames_bind (frames_bind keeps_derefStation fun _ => keeps_testmode hsent)
    exact fun p => @keeps_reply env _ part (hprints rfl) .getStaLinkDetect p
  | macaddr =>
    apply frames_bind keeps_derefStation
    intro station
    exact frames_bind (frames_modify fun s => hprints rfl s _) fun _ => frames_pure
  | country => exact keeps_country
  | start | getpower | getRtsThreshold | btcoexscanStart | btcoexscanStop | btcoexmode
  | wapiMsgSend => exact frames_pure
  | stop => exact keeps_stop
  | rxfilterAdd | rxfilterRemove | smtRate => exact keeps_numberedSwCmd hsent
  | rxfilterStop | rxfilterStart | smtTestOn | smtTestOff => exact keeps_fixedSwCmd hsent
  | staBlock => exact frames_bind keeps_cstringAt fun _ => keeps_staBlock hsent
  | staUnblock => exact frames_bind keeps_cstringAt fun _ => keeps_staUnblock hsent
  | setWapiKey => exact keeps_setWapiKey hsent
  | mcc => exact keeps_mcc (hmcc rfl)
  | p2pSetOpps => exact frames_bind keeps_cstringAt fun _ => keeps_setOpps hsent
  | p2pSetPowerSave =>
    apply frames_bind keeps_cstringAt
    exact fun _ => frames_bind (keeps_p2pSigma hsent) fun _ => frames_pure
  | p2pSetSleep => exact frames_bind keeps_cstringAt fun _ => keeps_setSleep hsent
  | p2pSetSleepAll => exact keeps_setSleep hsent

end Keeps

/-! ## What a command comes down to -/

/-- The branch that a command runs, with the `wpa_s` it runs with, if the checks pass. -/
def selected (env : Env) (cmd : Text) : Option (Drv × Option Station × Branch) :=
  match env.drv with
  | none => none
  | some drv =>
      match drv.ctx with
      | none => none
      | some ctx =>
          let wpaS := if env.ifname = ascii "ap0" then none else some ctx
          if wpaS.any fun station => !station.conf then none
          else (dispatch env.features cmd).map fun branch => (drv, wpaS, branch)

theorem driverCmd_eq :
    wpaDriverNl80211DriverCmd env cmd =
      match selected env cmd with
      | none => pure (-1)
      | some (drv, wpaS, branch) => runBranch env drv wpaS cmd branch := by
  unfold wpaDriverNl80211DriverCmd selected
  cases env.drv with
  | none => rfl
  | some drv =>
    cases hctx : drv.ctx with
    | none => simp only [hctx]
    | some ctx =>
      simp only [hctx]
      generalize (if env.ifname = ascii "ap0" then none else some ctx) = wpaS
      by_cases hconf : (wpaS.any fun station => !station.conf) = true
      · rw [if_pos hconf, if_pos hconf]
      · rw [if_neg hconf, if_neg hconf]
        cases dispatch env.features cmd <;> rfl

theorem dispatch_of_selected {drv : Drv} {branch : Branch}
    (h : selected env cmd = some (drv, wpaS, branch)) :
    dispatch env.features cmd = some branch := by
  unfold selected at h
  cases hdrv : env.drv with
  | none => simp only [hdrv, reduceCtorEq] at h
  | some drv' =>
    cases hctx : drv'.ctx with
    | none => simp only [hdrv, hctx, reduceCtorEq] at h
    | some ctx =>
      simp only [hdrv, hctx] at h
      obtain ⟨-, hbranch⟩ := Option.ite_none_left_eq_some.mp h
      obtain ⟨branch', hdispatch, hsame⟩ := Option.map_eq_some_iff.mp hbranch
      rw [hdispatch, (Prod.mk.inj (Prod.mk.inj hsame).2).2]

def Exchange.reaches : Exchange → Bool
  | .exchanged _ _ => true
  | .allocFailed | .putFailed => false

/-- The message of a command that gets to the kernel. -/
def reached (env : Env) (cmd : Text) : Option TestmodeParams :=
  (selected env cmd).bind fun (_, wpaS, branch) =>
    (branch.message env wpaS cmd).filter fun params => (env.exchange params).reaches

/-- The argument that `mcc` sets up the interfaces with. -/
def mccArgument (env : Env) (cmd : Text) : Option Int :=
  (selected env cmd).bind fun (_, wpaS, branch) =>
    if branch = .mcc ∧ wpaS.any Station.drvPriv then
      (strchr cmd 32).map fun (_, value) => atoi value
    else none

/-- The command prints to the buffer of its caller. -/
def prints (env : Env) (cmd : Text) : Bool :=
  (selected env cmd).any fun (_, _, branch) => branch.prints

section Command

variable {s : CmdState}

theorem sent_testmode {params : TestmodeParams} {buf : TestmodeBuf} :
    ∃ p t, exec (wpaDriverNl80211Testmode env true params buf) s = (.ok p, t) ∧
      t.sent = s.sent ++ if (env.exchange params).reaches then [params] else [] := by
  unfold wpaDriverNl80211Testmode
  rw [if_neg (by decide)]
  cases env.exchange params with
  | allocFailed => exact ⟨_, _, exec_pure, (List.append_nil _).symm⟩
  | putFailed => exact ⟨_, _, exec_pure, (List.append_nil _).symm⟩
  | exchanged ret replies => exact ⟨_, _, exec_bind_of_ok exec_modify, rfl⟩

theorem sent_runBranch {drv : Drv} {branch : Branch}
    (hdispatch : dispatch env.features cmd = some branch) :
    (exec (runBranch env drv wpaS cmd branch) s).2.sent =
      s.sent ++ ((branch.message env wpaS cmd).filter fun params =>
        (env.exchange params).reaches).toList := by
  cases hmessage : branch.message env wpaS cmd with
  | none =>
    rw [frames_runBranch hmessage]
    exact (List.append_nil _).symm
  | some params =>
    obtain ⟨buf, hrun⟩ := @exec_runBranch_of_message _ _ _ _ drv _ s hmessage
      (offset_le_length hdispatch (message_ne_country hmessage))
    obtain ⟨p, t, htestmode, hsent⟩ := @sent_testmode env s params buf
    rw [hrun, exec_bind_of_ok htestmode, frames_reply, hsent, Option.filter_some]
    cases (env.exchange params).reaches <;> rfl

/-- The kernel is sent what the command comes down to. -/
theorem sent_driverCmd :
    (exec (wpaDriverNl80211DriverCmd env cmd) s).2.sent = s.sent ++ (reached env cmd).toList := by
  rw [driverCmd_eq, reached]
  cases hselected : selected env cmd with
  | none => exact (List.append_nil _).symm
  | some parts => exact sent_runBranch (dispatch_of_selected hselected)

theorem ifaces_mcc :
    (exec (mcc env wpaS cmd) s).2.ifaces =
      match (if wpaS.any Station.drvPriv then
        (strchr cmd 32).map fun (_, value) => atoi value else none) with
      | none => s.ifaces
      | some value => s.ifaces.map (Iface.setMcc env value) := by
  cases wpaS with
  | none => rfl
  | some station =>
    rw [mcc, derefStation, exec_bind_of_ok exec_pure]
    cases hpriv : station.drvPriv with
    | false => simp [hpriv]
    | true =>
      cases hspace : strchr cmd 32 with
      | none => simp [hpriv]
      | some parts => simp [hpriv]

/-- Only `mcc` touches the interfaces. -/
theorem ifaces_driverCmd :
    (exec (wpaDriverNl80211DriverCmd env cmd) s).2.ifaces =
      match mccArgument env cmd with
      | none => s.ifaces
      | some value => s.ifaces.map (Iface.setMcc env value) := by
  rw [driverCmd_eq, mccArgument]
  cases hselected : selected env cmd with
  | none => rfl
  | some parts =>
    obtain ⟨drv, wpaS, branch⟩ := parts
    by_cases hmcc : branch = .mcc
    · subst hmcc
      have hrun := @ifaces_mcc env cmd wpaS s
      simpa [runBranch] using hrun
    · have hkept : Frames CmdState.ifaces (runBranch env drv wpaS cmd branch) :=
        keeps_runBranch (fun _ _ => rfl) (fun _ _ _ => rfl) fun h => absurd h hmcc
      rw [hkept]
      simp [hmcc]

/-- A command that does not print leaves the buffer of its caller alone. -/
theorem buf_driverCmd (h : prints env cmd = false) :
    (exec (wpaDriverNl80211DriverCmd env cmd) s).2.buf = s.buf := by
  rw [driverCmd_eq]
  cases hselected : selected env cmd with
  | none => rfl
  | some parts =>
    obtain ⟨drv, wpaS, branch⟩ := parts
    have hprints : branch.prints = false := by simpa [prints, hselected] using h
    have hkept : Frames CmdState.buf (runBranch env drv wpaS cmd branch) :=
      keeps_runBranch (fun _ _ => rfl) (fun hbranch => by rw [hprints] at hbranch; cases hbranch)
        fun _ _ _ => rfl
    exact hkept s

end Command

/-! ## Sessions -/

/-- A command with what it meets, and the length of the buffer of its caller. -/
structure Request where
  env : Env
  cmd : Text
  bufLen : Nat

/-- What lasts from one command to the next. -/
structure Session where
  sent : List TestmodeParams
  ifaces : List Iface

def Session.step (session : Session) (request : Request) : Session :=
  let t := (exec (wpaDriverNl80211DriverCmd request.env request.cmd)
    ⟨fresh request.bufLen, session.sent, session.ifaces⟩).2
  ⟨t.sent, t.ifaces⟩

section Session

variable {session : Session} {requests : List Request}

theorem sent_step {request : Request} :
    (session.step request).sent =
      session.sent ++ (reached request.env request.cmd).toList := sent_driverCmd

theorem sent_session :
    (Machine.after Session.step session requests).sent =
      session.sent ++ (requests.filterMap fun request => reached request.env request.cmd) := by
  induction requests generalizing session with
  | nil => exact (List.append_nil _).symm
  | cons request requests ih =>
    rw [Machine.after_cons, ih, sent_step, List.append_assoc]
    cases hreached : reached request.env request.cmd <;> simp [hreached]

/-- The messages of a session. Each command sends one or none, which is decided by itself and not
    by those before it, and the kernel gets them in order. Buffers are left alone by commands that
    do not print. -/
theorem session_messages :
    (Machine.after Session.step session requests).sent =
      session.sent ++ (requests.filterMap fun request => reached request.env request.cmd) ∧
    ∀ request ∈ requests, prints request.env request.cmd = false → ∀ s : CmdState,
      (exec (wpaDriverNl80211DriverCmd request.env request.cmd) s).2.buf = s.buf :=
  ⟨sent_session, fun _ _ hprints _ => buf_driverCmd hprints⟩

theorem or_andNot {x mask : BitVec 32} : (x ||| mask) &&& ~~~mask = x &&& ~~~mask := by
  ext i hi
  simp only [BitVec.getElem_and, BitVec.getElem_or, BitVec.getElem_not]
  cases mask[i] <;> simp

theorem andNot_or {x mask : BitVec 32} : (x &&& ~~~mask) ||| mask = x ||| mask := by
  ext i hi
  simp only [BitVec.getElem_and, BitVec.getElem_or, BitVec.getElem_not]
  cases mask[i] <;> simp

/-- Setting an interface forgets how it was set before. -/
theorem setMcc_setMcc {value value' : Int} {iface : Iface} :
    (iface.setMcc env value).setMcc env value' = iface.setMcc env value' := by
  by_cases hvalue : value = 0 <;> by_cases hvalue' : value' = 0 <;>
    simp [Iface.setMcc, hvalue, hvalue', or_andNot, andNot_or, BitVec.or_assoc, BitVec.and_assoc,
      Function.comp_def]

theorem ifaces_step {request : Request} :
    (session.step request).ifaces =
      match mccArgument request.env request.cmd with
      | none => session.ifaces
      | some value => session.ifaces.map (Iface.setMcc request.env value) := ifaces_driverCmd

theorem setMcc_congr {env' : Env}
    (h : env.wpaDriverFlagsP2pConcurrent = env'.wpaDriverFlagsP2pConcurrent) :
    Iface.setMcc env = Iface.setMcc env' := by
  funext value iface
  rw [Iface.setMcc, Iface.setMcc, h]

/-- The interfaces after a session are as the last `mcc` that was accepted left them, whatever the
    other commands. -/
theorem session_interfaces {build : Env}
    (hbuild : ∀ request ∈ requests,
      request.env.wpaDriverFlagsP2pConcurrent = build.wpaDriverFlagsP2pConcurrent) :
    (Machine.after Session.step session requests).ifaces =
      match lastWrite (requests.map fun request => mccArgument request.env request.cmd) with
      | none => session.ifaces
      | some value => session.ifaces.map (Iface.setMcc build value) := by
  induction requests generalizing session with
  | nil => rfl
  | cons request requests ih =>
    obtain ⟨hrequest, hrest⟩ := List.forall_mem_cons.mp hbuild
    rw [Machine.after_cons, ih hrest, ifaces_step, setMcc_congr hrequest, List.map_cons,
      lastWrite_cons]
    cases lastWrite (requests.map fun request => mccArgument request.env request.cmd) with
    | none => cases mccArgument request.env request.cmd <;> rfl
    | some last =>
      cases mccArgument request.env request.cmd with
      | none => rfl
      | some value => simp [setMcc_setMcc, Function.comp_def]

/-- Concurrency switched on and off again, with other commands before and between. -/
theorem session_interfaces_off :
    (Machine.after Session.step ⟨[], [⟨1, 0x105, none⟩]⟩
      ([ascii "MACADDR", ascii "mcc 1", ascii "rxfilter-stop", ascii "mcc 0"].map fun cmd =>
        ⟨.concurrent, cmd, 64⟩)).ifaces = [⟨0, 0x005, none⟩] := by
  have hlast := @session_interfaces ⟨[], [⟨1, 0x105, none⟩]⟩
    ([ascii "MACADDR", ascii "mcc 1", ascii "rxfilter-stop", ascii "mcc 0"].map fun cmd =>
      ⟨.concurrent, cmd, 64⟩) .concurrent (by simp)
  rw [hlast]
  decide +kernel

end Session

end Wpa
