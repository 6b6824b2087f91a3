-- SUMMARY: What the branches of a driver command have in common: their reads stay within the command, and most return no text.
import GioneeP4.Wpa.DriverCmd

/-!
# Quiet branches

The literals of the chain cover the offsets their branches add to `cmd`. Given
that, every branch but `country` fails in bounds only, and every branch but three
returns at most 0.
-/

namespace Wpa

open Prog CText Printing

/-- A fault other than a read behind the command's NUL or a write behind the country text. -/
def InBounds (fault : Fault) : Prop := fault ≠ .readPastNul ∧ fault ≠ .overflow .countryBuf

instance : DecidablePred InBounds := fun fault =>
  inferInstanceAs (Decidable (fault ≠ .readPastNul ∧ fault ≠ .overflow .countryBuf))

variable {env : Env} {cmd : Text} {wpaS : Option Station}

/-! ## Offsets -/

/-- The `k` of the `cmd + k` a branch reads, 0 when it reads none. -/
def Branch.offset : Branch → Nat
  | .powermode => 10
  | .getStaStatistics => 19
  | .country => 8
  | .setRtsThreshold => 17
  | .rxfilterAdd => 12
  | .rxfilterRemove => 15
  | .smtRate => 8
  | .staBlock => 10
  | .staUnblock => 12
  | .p2pSetOpps => 13
  | .p2pSetPowerSave => 19
  | .p2pSetSleep => 14
  | _ => 0

/-- The bytes of the literal that a comparison covers. -/
def Test.covered : Test → Nat
  | .strncasecmp literal n => min n (ascii literal).length
  | .strncmp literal n => min n (ascii literal).length
  | .strcasecmp literal => (ascii literal).length

theorem Test.covered_le_length {test : Test} (h : test.holds cmd = true) :
    test.covered ≤ cmd.length := by
  cases test with
  | strncasecmp literal n => exact min_le_length_of_agree h
  | strncmp literal n => exact min_le_length_of_agree h
  | strcasecmp literal =>
    have hmap : cmd.map toLower = (ascii literal).map toLower := of_decide_eq_true h
    have hlength := congrArg List.length hmap
    rw [List.length_map, List.length_map] at hlength
    exact hlength.ge

/-- The literal of every `if` but that of `COUNTRY` covers the offset of its branch. -/
theorem offset_le_covered :
    ∀ c ∈ cases, c.branch ≠ .country → c.branch.offset ≤ c.test.covered := by decide

theorem offset_le_length {branch : Branch} (h : dispatch env.features cmd = some branch)
    (hbranch : branch ≠ .country) : branch.offset ≤ cmd.length := by
  obtain ⟨c, hmem, rfl, htest⟩ := dispatch_eq_some h
  exact (offset_le_covered c hmem hbranch).trans (Test.covered_le_length htest)

/-- A program that fails in bounds only. -/
abbrev StaysInBounds {α : Type} (m : DrvM α) : Prop := Always m (fun _ => True) InBounds

/-- A program that returns no text and fails in bounds only. -/
abbrev Quiet (m : DrvM Int) : Prop := Always m (fun ret => ret ≤ 0) InBounds

theorem exec_cstringAt {s : CmdState} {k : Nat} :
    exec (cstringAt cmd k) s =
      if k ≤ cmd.length then (.ok (cmd.drop k), s) else (.error .readPastNul, s) := by
  unfold cstringAt
  split <;> rfl

theorem exec_cstringAt_of_le {s : CmdState} {k : Nat} (h : k ≤ cmd.length) :
    exec (cstringAt cmd k) s = (.ok (cmd.drop k), s) := by
  rw [exec_cstringAt, if_pos h]

theorem exec_bind_cstringAt {α : Type} {s : CmdState} {k : Nat} {f : Text → DrvM α}
    (h : k ≤ cmd.length) : exec (cstringAt cmd k >>= f) s = exec (f (cmd.drop k)) s :=
  exec_bind_of_ok (exec_cstringAt_of_le h)

theorem ensures_cstringAt {s : CmdState} {k : Nat} {Q : Text → CmdState → Prop}
    {E : Fault → CmdState → Prop} (h : k ≤ cmd.length) (hQ : Q (cmd.drop k) s) :
    Ensures (cstringAt cmd k) s Q E := by
  unfold Ensures
  rw [exec_cstringAt_of_le h]
  exact hQ

/-! ## Steps that branches share -/

/-- The faults of a branch whose reads stay within the command, the country code apart: a null
    pointer, a WAPI array that overflows, and `wpa_s` where it is not set. -/
structure Tolerates (E : Fault → Prop) (wpaS : Option Station) : Prop where
  nullPointer : E .nullPointer
  overflow : ∀ array, array ≠ .countryBuf → E (.overflow array)
  unsetStation : wpaS = none → E .unsetStation

theorem tolerates_inBounds : Tolerates InBounds wpaS where
  nullPointer := by decide
  overflow := by
    intro array harray
    exact ⟨nofun, fun heq => harray (Fault.overflow.inj heq)⟩
  unsetStation _ := by decide

section Steps

variable {E : Fault → Prop}

theorem always_cstringAt {k : Nat} (h : k ≤ cmd.length) :
    Always (cstringAt cmd k) (fun _ => True) E := fun _ => ensures_cstringAt h trivial

theorem always_derefStation (hE : Tolerates E wpaS) :
    Always (derefStation wpaS) (fun _ => True) E := by
  cases wpaS with
  | none => exact always_throw (hE.unsetStation rfl)
  | some station => exact always_pure trivial

theorem always_testmode (hnull : E .nullPointer) {priv : Bool} {params : TestmodeParams}
    {buf : TestmodeBuf} :
    Always (wpaDriverNl80211Testmode env priv params buf) (fun _ => True) E := by
  apply always_ite
  · exact always_throw hnull
  · cases env.exchange params with
    | allocFailed => exact always_pure trivial
    | putFailed => exact always_pure trivial
    | exchanged ret replies => exact always_bind always_modify fun _ _ => always_pure trivial

theorem always_swCmd (hnull : E .nullPointer) {set : Bool} {adr dat : BitVec 32} :
    Always (wpaDriverNl80211DriverSwCmd env set adr dat) (fun _ => True) E :=
  always_bind (always_testmode hnull) fun _ _ => always_pure trivial

theorem always_blockListUpdate (hnull : E .nullPointer) {bssid : Addr} {blocked : BitVec 8} :
    Always (wpaDriverHotspotBlockListUpdate env bssid blocked) (fun _ => True) E :=
  always_bind (always_testmode hnull) fun _ _ => always_pure trivial

theorem always_staBlock (hnull : E .nullPointer) :
    Always (wpaDriverStaBlock env cmd) (fun _ => True) E := by
  unfold wpaDriverStaBlock
  cases env.hwaddrAton cmd with
  | none => exact always_pure trivial
  | some bssid => exact always_blockListUpdate hnull

theorem always_staUnblock (hnull : E .nullPointer) :
    Always (wpaDriverStaUnblock env cmd) (fun _ => True) E := by
  unfold wpaDriverStaUnblock
  cases env.hwaddrAton cmd with
  | none => exact always_pure trivial
  | some bssid => exact always_blockListUpdate hnull

theorem always_copyTo {array : FixedArray} {capacity : Nat} {bytes : List Byte}
    (h : E (.overflow array)) : Always (copyTo array capacity bytes) (fun _ => True) E :=
  always_ite (always_pure trivial) (always_throw h)

theorem always_afterSpace (hnull : E .nullPointer) {s : Text} :
    Always (afterSpace s) (fun _ => True) E := by
  unfold afterSpace
  split
  · exact always_throw hnull
  · exact always_pure trivial

theorem always_p2pSigma (hE : Tolerates E wpaS) {index value : Int} :
    Always (wpasP2pSigmaTestMode env wpaS index value) (fun _ => True) E := by
  apply always_bind (always_derefStation hE)
  intro station _
  exact always_bind (always_testmode hE.nullPointer) fun _ _ => always_pure trivial

/-! ## Branches without a text -/

theorem nonpos_fixedSwCmd (hnull : E .nullPointer) {swCmd idx : BitVec 32} :
    Always (fixedSwCmd env swCmd idx) (fun ret => ret ≤ 0) E :=
  always_bind (always_swCmd hnull) fun _ _ => always_pure le_rfl

theorem nonpos_numberedSwCmd (hnull : E .nullPointer) {k : Nat} {swCmd base : BitVec 32}
    (h : k ≤ cmd.length) :
    Always (numberedSwCmd env cmd k swCmd base) (fun ret => ret ≤ 0) E := by
  apply always_bind (always_cstringAt h)
  intro cp _
  apply always_ite (always_pure (by decide))
  apply always_ite (always_pure (by decide))
  exact nonpos_fixedSwCmd hnull

theorem nonpos_zeroOrMinusOne {call : DrvM Int} (h : Always call (fun _ => True) E) :
    Always (zeroOrMinusOne call) (fun ret => ret ≤ 0) E := by
  apply always_bind h
  intro ret _
  exact always_ite (always_pure (by decide)) (always_pure le_rfl)

theorem nonpos_setWapiKey (hE : Tolerates E wpaS) {p : WapiKeyParam} :
    Always (wpaDriverNl80211SetWapiKey env p) (fun ret => ret ≤ 0) E := by
  apply always_ite (always_pure (by decide))
  apply always_bind (always_copyTo (hE.overflow .wapiKey (by decide)))
  intro key _
  apply always_bind (always_copyTo (hE.overflow .wapiTxSeq (by decide)))
  intro txSeq _
  exact always_bind (always_testmode hE.nullPointer) fun _ _ => always_pure le_rfl

theorem nonpos_sendMsg {msgInLen : Int} :
    Always (pure (wpaDriverNl80211SendMsg msgInLen) : DrvM Int) (fun ret => ret ≤ 0) E := by
  apply always_pure
  unfold wpaDriverNl80211SendMsg
  split
  · decide
  · exact le_rfl

theorem nonpos_setOpps (hE : Tolerates E wpaS) :
    Always (p2pCtrlIfaceSetOpps env wpaS cmd) (fun ret => ret ≤ 0) E := by
  apply always_bind (always_afterSpace hE.nullPointer)
  intro str _
  cases env.hwaddrAton str with
  | none => exact always_pure (by decide)
  | some addr =>
    apply always_bind (always_afterSpace hE.nullPointer)
    intro ssid _
    exact always_bind (always_p2pSigma hE) fun _ _ => always_pure le_rfl

theorem nonpos_setPowerSave (hE : Tolerates E wpaS) :
    Always (p2pCtrlIfaceSetPowerSave env wpaS cmd) (fun ret => ret ≤ 0) E :=
  always_bind (always_p2pSigma hE) fun _ _ => always_pure le_rfl

theorem nonpos_setSleep (hE : Tolerates E wpaS) :
    Always (p2pCtrlIfaceSetSleep env wpaS cmd) (fun ret => ret ≤ 0) E := by
  unfold p2pCtrlIfaceSetSleep
  cases env.hwaddrAton cmd with
  | none => exact always_pure (by decide)
  | some addr =>
    apply always_bind (always_afterSpace hE.nullPointer)
    intro ssid _
    exact always_bind (always_p2pSigma hE) fun _ _ => always_pure le_rfl

theorem nonpos_mcc (hE : Tolerates E wpaS) :
    Always (mcc env wpaS cmd) (fun ret => ret ≤ 0) E := by
  apply always_bind (always_derefStation hE)
  intro station _
  apply always_ite
  · cases strchr cmd 32 with
    | none => exact always_pure (by decide)
    | some parts => exact always_bind always_modify fun _ _ => always_pure le_rfl
  · exact always_pure (by decide)

theorem nonpos_stop (hE : Tolerates E wpaS) {drv : Drv} :
    Always (stop env drv wpaS) (fun ret => ret ≤ 0) E := by
  unfold stop
  apply always_ite
  · apply always_bind (always_derefStation hE)
    intro station _
    exact always_pure (env.linuxSetIfaceFlags false).property
  · exact always_pure (env.linuxSetIfaceFlags false).property

end Steps

/-- The branches that print to the caller's buffer. -/
def Branch.prints : Branch → Bool
  | .getStaStatistics | .getStaLinkDetect | .macaddr => true
  | _ => false

theorem nonpos_runBranch {E : Fault → Prop} {drv : Drv} {branch : Branch} (hE : Tolerates E wpaS)
    (hprints : branch.prints = false) (hbranch : branch ≠ .country)
    (hoffset : branch.offset ≤ cmd.length) :
    Always (runBranch env drv wpaS cmd branch) (fun ret => ret ≤ 0) E := by
  have hnull := hE.nullPointer
  cases branch with
  | getStaStatistics | getStaLinkDetect | macaddr => cases hprints
  | country => exact absurd rfl hbranch
  | powermode | setRtsThreshold =>
    apply always_bind (always_cstringAt hoffset)
    exact fun _ _ => always_pure (by decide)
  | start => exact always_pure (env.linuxSetIfaceFlags true).property
  | stop => exact nonpos_stop hE
  | getpower | getRtsThreshold => exact always_pure (by decide)
  | rxfilterAdd | rxfilterRemove | smtRate => exact nonpos_numberedSwCmd hnull hoffset
  | rxfilterStop | rxfilterStart | smtTestOn | smtTestOff => exact nonpos_fixedSwCmd hnull
  | btcoexscanStart | btcoexscanStop | btcoexmode => exact always_pure le_rfl
  | staBlock =>
    apply always_bind (always_cstringAt hoffset)
    exact fun _ _ => nonpos_zeroOrMinusOne (always_staBlock hnull)
  | staUnblock =>
    apply always_bind (always_cstringAt hoffset)
    exact fun _ _ => nonpos_zeroOrMinusOne (always_staUnblock hnull)
  | setWapiKey => exact nonpos_setWapiKey hE
  | wapiMsgSend => exact nonpos_sendMsg
  | mcc => exact nonpos_mcc hE
  | p2pSetOpps =>
    apply always_bind (always_cstringAt hoffset)
    exact fun _ _ => nonpos_setOpps hE
  | p2pSetPowerSave =>
    apply always_bind (always_cstringAt hoffset)
    exact fun _ _ => nonpos_setPowerSave hE
  | p2pSetSleep =>
    apply always_bind (always_cstringAt hoffset)
    exact fun _ _ => nonpos_setSleep hE
  | p2pSetSleepAll => exact nonpos_setSleep hE

theorem quiet_runBranch {drv : Drv} {branch : Branch} (hprints : branch.prints = false)
    (hbranch : branch ≠ .country) (hoffset : branch.offset ≤ cmd.length) :
    Quiet (runBranch env drv wpaS cmd branch) :=
  nonpos_runBranch tolerates_inBounds hprints hbranch hoffset

/-! ## Branches that print -/

section Printing

variable {E : Fault → Prop}

theorem always_macaddr (hE : Tolerates E wpaS) : Always (macaddr wpaS) (fun _ => True) E := by
  apply always_bind (always_derefStation hE)
  intro station _
  exact always_bind always_modify fun _ _ => always_pure trivial

theorem always_printStaStatistics {st : StaStatistics} :
    Always (printStaStatistics env st) (fun _ => True) E := by
  apply always_bind always_get
  intro s _
  apply always_bind always_modify
  intro _ _
  exact always_ite (always_pure trivial) (always_pure trivial)

theorem always_printStaLinkDetect {st : StaLinkDetect} :
    Always (printStaLinkDetect st) (fun _ => True) E := by
  apply always_bind always_get
  intro s _
  exact always_bind always_modify fun _ _ => always_pure trivial

theorem always_getStaStatistics (hE : Tolerates E wpaS) {addr : Text} :
    Always (wpaDriverGetStaStatistics env wpaS addr) (fun _ => True) E := by
  unfold wpaDriverGetStaStatistics
  cases env.hwaddrAton addr with
  | none => exact always_pure trivial
  | some staAddr =>
    have hquery : Always (wpasGetStaStatistics env wpaS staAddr env.staStatistics)
        (fun _ => True) E :=
      always_bind (always_derefStation hE) fun _ _ => always_testmode hE.nullPointer
    apply always_bind hquery
    rintro ⟨ret, buf⟩ _
    apply always_ite (always_pure trivial)
    cases buf <;> exact always_printStaStatistics

theorem always_getStaLinkDetect (hE : Tolerates E wpaS) :
    Always (wpaDriverGetStaLinkDetect env wpaS) (fun _ => True) E := by
  have hquery : Always (wpasGetStaLinkDetect env wpaS env.staLinkDetect) (fun _ => True) E :=
    always_bind (always_derefStation hE) fun _ _ => always_testmode hE.nullPointer
  apply always_bind hquery
  rintro ⟨ret, buf⟩ _
  apply always_ite (always_pure trivial)
  cases buf <;> exact always_printStaLinkDetect

theorem always_runBranch {drv : Drv} {branch : Branch} (hE : Tolerates E wpaS)
    (hbranch : branch ≠ .country) (hoffset : branch.offset ≤ cmd.length) :
    Always (runBranch env drv wpaS cmd branch) (fun _ => True) E := by
  cases hprints : branch.prints with
  | false =>
    exact always_mono (nonpos_runBranch hE hprints hbranch hoffset) (fun _ _ => trivial)
      fun _ h => h
  | true =>
    cases branch with
    | getStaStatistics =>
      apply always_bind (always_cstringAt hoffset)
      exact fun _ _ => always_getStaStatistics hE
    | getStaLinkDetect => exact always_getStaLinkDetect hE
    | macaddr => exact always_macaddr hE
    | _ => cases hprints

end Printing

end Wpa
