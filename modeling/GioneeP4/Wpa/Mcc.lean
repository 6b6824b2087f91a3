-- SUMMARY: The mcc command: refused without a driver handle or an argument, and otherwise the same switch on every interface.
import GioneeP4.Wpa.QuietBranches
import Mathlib.Data.List.Forall2

/-!
# Multi-channel concurrency

`mcc` walks over the interfaces of the supplicant. With a non-zero argument every
one of them gets two channels and the concurrency flag, otherwise every one loses
both.
-/

namespace Wpa

open Prog CText

variable {env : Env} {drv : Drv} {station : Station} {cmd : Text}

/-- One interface before and after concurrency is switched. -/
structure Switched (mask : BitVec 32) (on : Bool) (iface iface' : Iface) : Prop where
  channels : iface'.numMultichanConcurrent = if on then 2 else 0
  flag : ∀ i, mask.getLsbD i = true → iface'.drvFlags.getLsbD i = on
  otherBits : ∀ i, mask.getLsbD i = false → iface'.drvFlags.getLsbD i = iface.drvFlags.getLsbD i
  p2p : iface'.concurrentOperations = iface.concurrentOperations.map fun _ => if on then 1 else 0

/-- What `mcc` does from a state: nothing but an error, or the same switch on every interface. -/
structure MccUniform (env : Env) (station : Station) (cmd : Text) (s : CmdState) : Prop where
  refused : station.drvPriv = false ∨ (32 : Byte) ∉ cmd →
    exec (wpaDriverNl80211DriverCmd env cmd) s = (.ok (-1), s)
  switched : ∀ before value, station.drvPriv = true → (32 : Byte) ∉ before →
    cmd = before ++ 32 :: value → ∃ ifaces',
      exec (wpaDriverNl80211DriverCmd env cmd) s = (.ok 0, { s with ifaces := ifaces' }) ∧
        List.Forall₂ (Switched env.wpaDriverFlagsP2pConcurrent (atoi value ≠ 0)) s.ifaces ifaces'

/-- The commands that start with `mcc`, in any case. -/
theorem dispatch_mcc {features : Features} (hcompiled : features.p2pSigma = true)
    (h : strncasecmp cmd (ascii "mcc") 3 = true) : dispatch features cmd = some .mcc := by
  have hm : ∀ b : Byte, toLower b = 109 → b = 109 ∨ b = 77 := by decide
  have hc : ∀ b : Byte, toLower b = 99 → b = 99 ∨ b = 67 := by decide
  obtain ⟨a, s, rfl, ha⟩ := head_of_agree h
  obtain ⟨b, t, rfl, hb⟩ := head_of_agree (Bool.and_eq_true_iff.mp h).2
  obtain ⟨c, u, rfl, hc'⟩ := head_of_agree
    (Bool.and_eq_true_iff.mp (Bool.and_eq_true_iff.mp h).2).2
  obtain ⟨poorLinkDetect, hotspotMgr, wapi, p2pSigma⟩ := features
  cases hcompiled
  rcases hm a (of_decide_eq_true ha) with rfl | rfl <;>
    rcases hc b (of_decide_eq_true hb) with rfl | rfl <;>
      rcases hc c (of_decide_eq_true hc') with rfl | rfl <;>
        cases poorLinkDetect <;> cases hotspotMgr <;> cases wapi <;> rfl

/-- Setting an interface switches it, and leaves every other bit of its flags. -/
theorem switched_setMcc {value : Int} {iface : Iface} :
    Switched env.wpaDriverFlagsP2pConcurrent (value ≠ 0) iface (iface.setMcc env value) := by
  by_cases hvalue : value ≠ 0
  · rw [Iface.setMcc, if_pos hvalue, decide_eq_true hvalue]
    refine ⟨rfl, fun i hi => ?_, fun i hi => ?_, rfl⟩
    · simp only [BitVec.getLsbD_or, hi, Bool.or_true]
    · simp only [BitVec.getLsbD_or, hi, Bool.or_false]
  · rw [Iface.setMcc, if_neg hvalue, decide_eq_false hvalue]
    refine ⟨rfl, fun i hi => ?_, fun i hi => ?_, rfl⟩
    · simp only [BitVec.getLsbD_and, BitVec.getLsbD_not, hi, Bool.not_true, Bool.and_false]
    · by_cases hwidth : i < 32
      · simp only [BitVec.getLsbD_and, BitVec.getLsbD_not, hi, hwidth, decide_true, Bool.not_false,
          Bool.and_true]
      · rw [BitVec.getLsbD_of_ge _ _ (by omega), BitVec.getLsbD_of_ge _ _ (by omega)]

/-- The switch is the same on every interface, and on nothing else. -/
theorem mcc_uniform {s : CmdState} (hready : Ready env drv (some station))
    (hcompiled : env.features.p2pSigma = true) (hcmd : strncasecmp cmd (ascii "mcc") 3 = true) :
    MccUniform env station cmd s := by
  have hrun : exec (wpaDriverNl80211DriverCmd env cmd) s = exec (mcc env (some station) cmd) s := by
    rw [driverCmd_of_dispatch hready (dispatch_mcc hcompiled hcmd), runBranch]
  constructor
  · intro hbad
    rw [hrun, mcc, derefStation, exec_bind_of_ok exec_pure]
    cases hpriv : station.drvPriv with
    | false => rfl
    | true =>
      have hspace : strchr cmd 32 = none :=
        strchr_eq_none_iff.mpr (hbad.resolve_left (by rw [hpriv]; exact Bool.noConfusion))
      rw [if_pos rfl, hspace]
      rfl
  · rintro before value hpriv hbefore rfl
    refine ⟨s.ifaces.map (Iface.setMcc env (atoi value)), ?_, ?_⟩
    · rw [hrun, mcc, derefStation, exec_bind_of_ok exec_pure, hpriv, if_pos rfl,
        strchr_eq_some_iff.mpr ⟨hbefore, rfl⟩]
      rfl
    · rw [List.forall₂_map_right_iff, List.forall₂_same]
      exact fun iface _ => switched_setMcc

/-- An idle station that knows a concurrency flag. -/
def Env.concurrent : Env :=
  { Env.idle with
    features := { (default : Features) with p2pSigma := true }
    wpaDriverFlagsP2pConcurrent := 0x100 }

/-- Two interfaces, one of them with a P2P configuration. -/
theorem mcc_uniform_two :
    MccUniform .concurrent ⟨Vector.replicate 6 0, true, true⟩ (ascii "mcc 1")
      (.start 16 [⟨0, 0x105, none⟩, ⟨2, 0, some 0⟩]) :=
  @mcc_uniform _ ⟨some ⟨Vector.replicate 6 0, true, true⟩, false⟩ _ _ _
    ⟨rfl, ⟨_, rfl, (if_neg (by decide)).symm⟩, rfl⟩ rfl (by decide)

end Wpa
