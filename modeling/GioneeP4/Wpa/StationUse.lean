-- SUMMARY: The uses of the station context: the commands that read `wpa_s` on the hotspot interface, where it is never set.
import GioneeP4.Wpa.QuietBranches

/-!
# Uses of the station context

The entry point sets `wpa_s` unless the interface is `ap0`, and the chain that
follows is the same for both. A command reads `wpa_s` depending on its branch, on
whether its arguments parse, and for `stop` on the association.
-/

namespace Wpa

open Prog CText Printing

variable {env : Env} {cmd : Text}

/-! ## Which commands read `wpa_s` -/

/-- Whether `set_opps` gets past its parsing. -/
def setOppsParses (env : Env) (cmd : Text) : Bool :=
  match strchr cmd 32 with
  | none => false
  | some (_, str) => (env.hwaddrAton str).isSome && (strchr str 32).isSome

/-- Whether `set_sleep` gets past its parsing. -/
def setSleepParses (env : Env) (cmd : Text) : Bool :=
  (env.hwaddrAton cmd).isSome && (strchr cmd 32).isSome

/-- Whether a branch comes to read `wpa_s`. -/
def Branch.usesStation (env : Env) (drv : Drv) (cmd : Text) : Branch → Bool
  | .getStaStatistics => (env.hwaddrAton (cmd.drop 19)).isSome
  | .getStaLinkDetect | .macaddr | .mcc | .p2pSetPowerSave => true
  | .stop => drv.associated
  | .p2pSetOpps => setOppsParses env (cmd.drop 13)
  | .p2pSetSleep => setSleepParses env (cmd.drop 14)
  | .p2pSetSleepAll => setSleepParses env (ascii "ff:ff:ff:ff:ff:ff \"\"")
  | _ => false

theorem exec_afterSpace {s : CmdState} {text before rest : Text}
    (h : strchr text 32 = some (before, rest)) : exec (afterSpace text) s = (.ok rest, s) := by
  unfold afterSpace
  rw [h]
  rfl

theorem exec_afterSpace_none {s : CmdState} {text : Text} (h : strchr text 32 = none) :
    exec (afterSpace text) s = (.error .nullPointer, s) := by
  unfold afterSpace
  rw [h]
  rfl

/-- What `set_opps` does with arguments that parse: one message, whose result it drops. -/
theorem exec_setOpps {wpaS : Option Station} {s : CmdState} (h : setOppsParses env cmd = true) :
    exec (p2pCtrlIfaceSetOpps env wpaS cmd) s =
      exec (wpasP2pSigmaTestMode env wpaS 107 (atoi cmd) >>= fun _ => pure 0) s := by
  unfold setOppsParses at h
  split at h
  · cases h
  · rename_i before str hspace
    obtain ⟨haddr, hssid⟩ := Bool.and_eq_true_iff.mp h
    obtain ⟨addr, haddr⟩ := Option.isSome_iff_exists.mp haddr
    obtain ⟨⟨strBefore, ssid⟩, hssid⟩ := Option.isSome_iff_exists.mp hssid
    rw [p2pCtrlIfaceSetOpps, exec_bind_of_ok (exec_afterSpace hspace)]
    simp only [haddr]
    rw [exec_bind_of_ok (exec_afterSpace hssid)]

/-- Malformed arguments of `set_opps` decide its outcome before it reads `wpa_s`. -/
theorem exec_setOpps_malformed {wpaS : Option Station} (h : setOppsParses env cmd = false) :
    ∃ r : Except Fault Int, (r = .ok (-1) ∨ r = .error .nullPointer) ∧
      ∀ s, exec (p2pCtrlIfaceSetOpps env wpaS cmd) s = (r, s) := by
  unfold p2pCtrlIfaceSetOpps
  unfold setOppsParses at h
  cases hspace : strchr cmd 32 with
  | none => exact ⟨_, .inr rfl, fun s => exec_bind_of_error (exec_afterSpace_none hspace)⟩
  | some parts =>
    rw [hspace] at h
    cases haddr : env.hwaddrAton parts.2 with
    | none =>
      refine ⟨_, .inl rfl, fun s => ?_⟩
      rw [exec_bind_of_ok (exec_afterSpace hspace)]
      simp only [haddr]
      rfl
    | some addr =>
      simp only [haddr, Option.isSome_some, Bool.true_and, Option.isSome_eq_false_iff,
        Option.isNone_iff_eq_none] at h
      refine ⟨_, .inr rfl, fun s => ?_⟩
      rw [exec_bind_of_ok (exec_afterSpace hspace)]
      simp only [haddr]
      exact exec_bind_of_error (exec_afterSpace_none h)

/-- What `set_sleep` does with arguments that parse. -/
theorem exec_setSleep {wpaS : Option Station} {s : CmdState} (h : setSleepParses env cmd = true) :
    exec (p2pCtrlIfaceSetSleep env wpaS cmd) s =
      exec (wpasP2pSigmaTestMode env wpaS 106 0 >>= fun _ => pure 0) s := by
  obtain ⟨haddr, hssid⟩ := Bool.and_eq_true_iff.mp h
  obtain ⟨addr, haddr⟩ := Option.isSome_iff_exists.mp haddr
  obtain ⟨⟨before, ssid⟩, hssid⟩ := Option.isSome_iff_exists.mp hssid
  simp only [p2pCtrlIfaceSetSleep, haddr]
  rw [exec_bind_of_ok (exec_afterSpace hssid)]

/-- Malformed arguments of `set_sleep` decide its outcome before it reads `wpa_s`. -/
theorem exec_setSleep_malformed {wpaS : Option Station} (h : setSleepParses env cmd = false) :
    ∃ r : Except Fault Int, (r = .ok (-1) ∨ r = .error .nullPointer) ∧
      ∀ s, exec (p2pCtrlIfaceSetSleep env wpaS cmd) s = (r, s) := by
  unfold p2pCtrlIfaceSetSleep
  unfold setSleepParses at h
  cases haddr : env.hwaddrAton cmd with
  | none => exact ⟨_, .inl rfl, fun s => rfl⟩
  | some addr =>
    simp only [haddr, Option.isSome_some, Bool.true_and, Option.isSome_eq_false_iff,
      Option.isNone_iff_eq_none] at h
    exact ⟨_, .inr rfl, fun s => exec_bind_of_error (exec_afterSpace_none h)⟩

theorem exec_p2pSigma_unset {s : CmdState} {index value : Int} :
    exec (wpasP2pSigmaTestMode env none index value) s = (.error .unsetStation, s) := rfl

theorem exec_setOpps_unset {s : CmdState} (h : setOppsParses env cmd = true) :
    exec (p2pCtrlIfaceSetOpps env none cmd) s = (.error .unsetStation, s) :=
  (exec_setOpps h).trans (exec_bind_of_error exec_p2pSigma_unset)

theorem exec_setSleep_unset {s : CmdState} (h : setSleepParses env cmd = true) :
    exec (p2pCtrlIfaceSetSleep env none cmd) s = (.error .unsetStation, s) :=
  (exec_setSleep h).trans (exec_bind_of_error exec_p2pSigma_unset)

theorem exec_getStaStatistics_unset {s : CmdState} {addr : Text}
    (h : (env.hwaddrAton addr).isSome = true) :
    exec (wpaDriverGetStaStatistics env none addr) s = (.error .unsetStation, s) := by
  obtain ⟨staAddr, haddr⟩ := Option.isSome_iff_exists.mp h
  simp only [wpaDriverGetStaStatistics, haddr]
  rfl

/-- A branch that reads `wpa_s` where it is not set goes wrong there. -/
theorem runBranch_unset {drv : Drv} {branch : Branch} {s : CmdState}
    (huses : branch.usesStation env drv cmd = true) (hoffset : branch.offset ≤ cmd.length) :
    exec (runBranch env drv none cmd branch) s = (.error .unsetStation, s) := by
  cases branch with
  | getStaStatistics =>
    have hlow : 19 ≤ cmd.length := hoffset
    rw [runBranch, exec_bind_cstringAt hlow]
    exact exec_getStaStatistics_unset huses
  | getStaLinkDetect | macaddr | mcc => rfl
  | stop =>
    have hassociated : drv.associated = true := huses
    simp only [runBranch, stop, hassociated]
    rfl
  | p2pSetOpps =>
    have hlow : 13 ≤ cmd.length := hoffset
    rw [runBranch, exec_bind_cstringAt hlow]
    exact exec_setOpps_unset huses
  | p2pSetPowerSave =>
    have hlow : 19 ≤ cmd.length := hoffset
    rw [runBranch, exec_bind_cstringAt hlow]
    rfl
  | p2pSetSleep =>
    have hlow : 14 ≤ cmd.length := hoffset
    rw [runBranch, exec_bind_cstringAt hlow]
    exact exec_setSleep_unset huses
  | p2pSetSleepAll => exact exec_setSleep_unset huses
  | _ => cases huses

/-! ## Branches that leave `wpa_s` alone -/

/-- A program that never uses `wpa_s` where it is not set. -/
abbrev LeavesStation {α : Type} (m : DrvM α) : Prop :=
  Always m (fun _ => True) fun fault => fault ≠ .unsetStation

theorem tolerates_set {station : Station} :
    Tolerates (fun fault => fault ≠ .unsetStation) (some station) where
  nullPointer := nofun
  overflow _ _ := nofun
  unsetStation := nofun

/-- A branch that takes `wpa_s` from its caller. -/
def Branch.takesStation : Branch → Bool
  | .getStaStatistics | .getStaLinkDetect | .macaddr | .stop | .mcc | .p2pSetOpps
  | .p2pSetPowerSave | .p2pSetSleep | .p2pSetSleepAll => true
  | _ => false

/-- A branch that does not take `wpa_s` runs the same on every interface. -/
theorem runBranch_of_not_takes {drv : Drv} {wpaS wpaS' : Option Station} {branch : Branch}
    (h : branch.takesStation = false) :
    runBranch env drv wpaS cmd branch = runBranch env drv wpaS' cmd branch := by
  cases branch <;> first | rfl | cases h

theorem leavesStation_country : LeavesStation (country env cmd) := by
  have hargument : ∀ k, LeavesStation (cstringAt cmd k) := fun _ =>
    always_ite (always_pure trivial) (always_throw nofun)
  have hset : LeavesStation (wpaDriverMediatekSetCountry env cmd 8) := by
    apply always_ite (always_pure trivial)
    apply always_bind (hargument 8)
    intro alpha2 _
    apply always_ite (always_throw nofun)
    exact always_ite (always_pure trivial) (always_pure trivial)
  unfold country
  apply always_ite
  · exact always_bind (hargument 8) fun _ _ => hset
  · exact hset

/-- A program that only returns -1 or meets a null pointer leaves `wpa_s` alone. -/
theorem leavesStation_of_exec {m : DrvM Int}
    (h : ∃ r : Except Fault Int, (r = .ok (-1) ∨ r = .error .nullPointer) ∧
      ∀ s, exec m s = (r, s)) : LeavesStation m := by
  obtain ⟨r, rfl | rfl, hexec⟩ := h
  · intro s
    unfold Ensures
    rw [hexec]
    trivial
  · intro s
    unfold Ensures
    rw [hexec]
    nofun

/-- A branch that does not come to read `wpa_s` runs without it. -/
theorem leavesStation_runBranch {drv : Drv} {branch : Branch}
    (huses : branch.usesStation env drv cmd = false) (hbranch : branch ≠ .country)
    (hoffset : branch.offset ≤ cmd.length) :
    LeavesStation (runBranch env drv none cmd branch) := by
  cases htakes : branch.takesStation with
  | false =>
    have hsame : runBranch env drv none cmd branch =
        runBranch env drv (some ⟨broadcast, true, true⟩) cmd branch :=
      runBranch_of_not_takes htakes
    rw [hsame]
    exact always_runBranch tolerates_set hbranch hoffset
  | true =>
    cases branch with
    | getStaStatistics =>
      have haddr : env.hwaddrAton (cmd.drop 19) = none := by
        simpa [Branch.usesStation] using huses
      have hstatistics : LeavesStation (wpaDriverGetStaStatistics env none (cmd.drop 19)) := by
        simp only [wpaDriverGetStaStatistics, haddr]
        exact always_pure trivial
      intro s
      exact ensures_bind_of_ok (exec_cstringAt_of_le hoffset) (hstatistics s)
    | stop =>
      have hassociated : drv.associated = false := huses
      simp only [runBranch, stop, hassociated]
      exact always_pure trivial
    | p2pSetOpps =>
      intro s
      exact ensures_bind_of_ok (exec_cstringAt_of_le hoffset)
        (leavesStation_of_exec (exec_setOpps_malformed huses) s)
    | p2pSetSleep =>
      intro s
      exact ensures_bind_of_ok (exec_cstringAt_of_le hoffset)
        (leavesStation_of_exec (exec_setSleep_malformed huses) s)
    | p2pSetSleepAll => exact leavesStation_of_exec (exec_setSleep_malformed huses)
    | getStaLinkDetect | macaddr | mcc | p2pSetPowerSave => cases huses
    | _ => cases htakes

/-! ## Every command -/

/-- A command reads `wpa_s` on an interface where it is not set. -/
def UsesUnsetStation (env : Env) (cmd : Text) : Prop :=
  ∃ drv branch, Ready env drv none ∧ dispatch env.features cmd = some branch ∧
    branch.usesStation env drv cmd = true

/-- `wpa_s` is used where it is set, and a command that needs it is refused elsewhere. -/
structure StationGuarded (env : Env) (cmd : Text) : Prop where
  unused : ∀ s t, exec (wpaDriverNl80211DriverCmd env cmd) s ≠ (.error .unsetStation, t)
  refused : ∀ drv branch, Ready env drv none → dispatch env.features cmd = some branch →
    branch.usesStation env drv cmd = true →
      ∀ s, ∃ ret t, exec (wpaDriverNl80211DriverCmd env cmd) s = (.ok ret, t) ∧ ret < 0

theorem usesStation_ne_country {drv : Drv} {branch : Branch}
    (h : branch.usesStation env drv cmd = true) : branch ≠ .country := by
  rintro rfl
  cases h

/-- A command that reads `wpa_s` where it is not set goes wrong from every state. -/
theorem exec_driverCmd_unset (h : UsesUnsetStation env cmd) (s : CmdState) :
    exec (wpaDriverNl80211DriverCmd env cmd) s = (.error .unsetStation, s) := by
  obtain ⟨drv, branch, hready, hdispatch, huses⟩ := h
  rw [driverCmd_of_dispatch hready hdispatch]
  exact runBranch_unset huses (offset_le_length hdispatch (usesStation_ne_country huses))

theorem leavesStation_driverCmd (h : ¬UsesUnsetStation env cmd) :
    LeavesStation (wpaDriverNl80211DriverCmd env cmd) := by
  obtain hfail | ⟨drv, wpaS, branch, hready, hdispatch, hrun⟩ := @driverCmd_cases env cmd
  · rw [hfail]
    exact always_pure trivial
  · rw [hrun]
    by_cases hbranch : branch = .country
    · subst hbranch
      exact leavesStation_country
    · have hoffset := offset_le_length hdispatch hbranch
      cases wpaS with
      | some station => exact always_runBranch tolerates_set hbranch hoffset
      | none =>
        apply leavesStation_runBranch _ hbranch hoffset
        cases huses : branch.usesStation env drv cmd with
        | false => rfl
        | true => exact absurd ⟨drv, branch, hready, hdispatch, huses⟩ h

/-- The station context is guarded for every command but those that read it on `ap0`. -/
theorem station_guarded_iff : StationGuarded env cmd ↔ ¬UsesUnsetStation env cmd := by
  constructor
  · intro hguarded huses
    exact hguarded.unused _ _ (exec_driverCmd_unset huses (.start 0 []))
  · intro h
    refine ⟨?_, ?_⟩
    · intro s t hexec
      exact always_true_iff.mp (leavesStation_driverCmd h) s _ t hexec rfl
    · intro drv branch hready hdispatch huses
      exact absurd ⟨drv, branch, hready, hdispatch, huses⟩ h

/-- `MACADDR` on `ap0` reads the address of a station that was never set. -/
theorem macaddr_uses_unset_station :
    ¬StationGuarded { Env.idle with ifname := ascii "ap0" } (ascii "MACADDR") := by
  intro hguarded
  exact hguarded.unused (.start 0 []) _ rfl

end Wpa
