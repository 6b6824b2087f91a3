-- SUMMARY: What a history of USB configurations leaves in the gadget, and which histories leave the same.
import GioneeP4.Usb.Entering
import Mathlib.Data.List.Chain

/-!
# Histories of USB configurations

`none` and an enabling configuration together write the identifiers, the functions
and the class of the device, and decide whether `adbd` runs. The port index, the
backing file and the charger mode are set by a few configurations and reset by none,
so that they tell which of these were entered before.
-/

namespace Usb

open Init Register

variable {s : State} {config : String}

/-! ## Histories -/

/-- The device after `on init` and `on post-fs-data`. -/
def boot (s : State) : State := runCommands actions s.cleared (onInit ++ onPostFsData)

/-- The device after a history of values of `sys.usb.config`. -/
def run (s : State) (history : List String) : State := Machine.after configure s history

theorem idle_boot : Idle (boot s) := by
  have hboot : boot s = runCommands actions (s.cleared.setprop actions .usbVid "0BB4")
      (onInit.tail ++ onPostFsData) := rfl
  have hsteady : ∀ c ∈ onInit.tail ++ onPostFsData, c.Steady [.roSerialno, .usbVid] := by decide
  have hfired : actions.filter (·.waitsFor .usbVid "0BB4") = [] := by decide
  rw [hboot]
  constructor
  · rw [queue_runCommands hsteady Agree.rfl, State.setprop, hfired]
    rfl
  · rw [agree_runCommands hsteady Agree.rfl .usbVid (by decide)]
    rfl

section History

variable {history : List String}

theorem files_run {node : Node} (h : Idle s) (hhistory : ∀ v ∈ history, v ∈ configurations) :
    (run s history).files node =
      Machine.after Register.step (s.files node) (history.map (written node)) := by
  refine Machine.after_simulates (f := fun t : State => t.files node) (P := Idle) h ?_ ?_
  · exact fun t v hv ht => ht.configure (hhistory v hv)
  · exact fun t v hv ht => files_configure ht (hhistory v hv)

theorem running_run (h : Idle s) (hhistory : ∀ v ∈ history, v ∈ configurations) :
    (run s history).running .adbd =
      Machine.after Register.step (s.running .adbd) (history.map switched) := by
  refine Machine.after_simulates (f := fun t : State => t.running .adbd) (P := Idle) h ?_ ?_
  · exact fun t v hv ht => ht.configure (hhistory v hv)
  · exact fun t v hv ht => running_configure ht (hhistory v hv)

end History

/-! ## What is left of a history -/

/-- Each value is configured, and preceded by `none` unless it is `none` itself. -/
structure Disciplined (history : List String) : Prop where
  configured : ∀ v ∈ history, v ∈ configurations
  starts : history.head? = some "none"
  switches : history.IsChain fun v w => v = "none" ∨ w = "none"

def Enabling (config : String) : Prop := .write .enable "1" ∈ entering config

/-- A disciplined history that ends in a configuration. -/
structure EndsIn (config : String) (history : List String) : Prop extends Disciplined history where
  ends : history.getLast? = some config

structure Gadget where
  idVendor : String
  idProduct : String
  functions : String
  bDeviceClass : String
  portIndex : String
  bicr : String
  lunFile : String
  cmode : String
  adbd : Bool

def gadget (s : State) : Gadget where
  idVendor := s.files .idVendor
  idProduct := s.files .idProduct
  functions := s.files .functions
  bDeviceClass := s.files .bDeviceClass
  portIndex := s.files .acmPortIndex
  bicr := s.files .massStorageBicr
  lunFile := s.files .massStorageLunFile
  cmode := s.files .cmode
  adbd := s.running .adbd

/-- The port index that a configuration selects. -/
def portIndex (config : String) : Option String :=
  if config = "acm_third" then some "3" else if config = "gs3" then some "4" else none

def Bicr (config : String) : Prop := config ∈ ["bicr", "bicr,adb", "bicr,adb,acm", "bicr,acm"]

instance : DecidablePred Bicr := fun _ => inferInstanceAs (Decidable (_ ∈ _))

/-- The histories agree on the last port index they select and on whether they enter a `bicr`
    configuration and whether they charge, up to what a node held at first. -/
structure SameLeftovers (s : State) (history history' : List String) : Prop where
  port : (lastWrite (history.map portIndex)).getD (s.files .acmPortIndex) =
    (lastWrite (history'.map portIndex)).getD (s.files .acmPortIndex)
  bicr : ((∃ v ∈ history, Bicr v) ↔ ∃ v ∈ history', Bicr v) ∨
    s.files .massStorageBicr = "1" ∧ s.files .massStorageLunFile = "/dev/block/loop0"
  charging : ("charging" ∈ history ↔ "charging" ∈ history') ∨ s.files .cmode = "2"

/-- What the commands that a configuration runs write to the nodes of the gadget. -/
structure Profile (config : String) (commands : List Command) : Prop where
  port : lastWrite (commands.map (·.written (env config) .acmPortIndex)) = portIndex config
  bicr : lastWrite (commands.map (·.written (env config) .massStorageBicr)) =
    if Bicr config then some "1" else none
  lunFile : lastWrite (commands.map (·.written (env config) .massStorageLunFile)) =
    if Bicr config then some "/dev/block/loop0" else none
  cmode : lastWrite (commands.map (·.written (env config) .cmode)) =
    if config = "charging" then some "2" else none
  chosen : .write .enable "1" ∈ commands → ∀ node ∈ [Node.idVendor, .idProduct, .functions],
    (lastWrite (commands.map (·.written (env config) node))).isSome
  enabling : .write .enable "1" ∈ commands ↔ config ≠ "none" ∧ config ≠ "charging"
  reset : config = "none" →
    lastWrite (commands.map (·.written (env config) .bDeviceClass)) = some "0" ∧
      lastWrite (commands.map (·.switched .adbd)) = some false

instance {config : String} {commands : List Command} : Decidable (Profile config commands) :=
  decidable_of_iff (_ ∧ _ ∧ _ ∧ _ ∧ _ ∧ _ ∧ _)
    ⟨fun ⟨port, bicr, lunFile, cmode, chosen, enabling, reset⟩ =>
      ⟨port, bicr, lunFile, cmode, chosen, enabling, reset⟩,
    fun h => ⟨h.port, h.bicr, h.lunFile, h.cmode, h.chosen, h.enabling, h.reset⟩⟩

theorem profile : ∀ config ∈ configurations, Profile config (entering config) :=
  forall_entering (by decide +kernel)

theorem mem_configurations {a : Action} (ha : a ∈ actions) (hproperty : a.property = .usbConfig)
    (hvalue : a.value = some config) : config ∈ configurations :=
  List.mem_filterMap.mpr ⟨a, ha, by rw [if_pos hproperty, hvalue]⟩

theorem none_mem : "none" ∈ configurations :=
  mem_configurations (a := usbNone) (by simp [actions]) rfl rfl

theorem ne_none_of_enabling (h : Enabling config) : config ≠ "none" := by
  rintro rfl
  exact ((profile "none" none_mem).enabling.mp h).1 rfl

/-- `none` comes right before an enabling configuration at the end. -/
theorem EndsIn.split {history : List String} (h : EndsIn config history)
    (henabling : Enabling config) : ∃ before, history = before ++ ["none", config] := by
  obtain ⟨front, rfl⟩ := List.getLast?_eq_some_iff.mp h.ends
  rcases List.eq_nil_or_concat front with rfl | ⟨before, v, rfl⟩
  · exact absurd (Option.some.inj h.starts) (ne_none_of_enabling henabling)
  · refine ⟨before, ?_⟩
    have hswitch := h.switches
    rw [List.concat_eq_append, List.append_assoc, List.singleton_append,
      List.isChain_append_cons_cons] at hswitch
    rcases hswitch.2.1 with rfl | hnone
    · simp
    · exact absurd hnone (ne_none_of_enabling henabling)

section Ends

variable {history history' : List String}

/-- A node that `none` or the configuration writes keeps nothing of the history. -/
theorem files_run_eq {node : Node} (henabling : Enabling config) (hs : Idle s)
    (h : EndsIn config history) (h' : EndsIn config history')
    (hwritten : (lastWrite [written node "none", written node config]).isSome) :
    (run s history).files node = (run s history').files node := by
  rw [files_run hs h.configured, files_run hs h'.configured]
  obtain ⟨before, rfl⟩ := h.split henabling
  obtain ⟨before', rfl⟩ := h'.split henabling
  rw [List.map_append, List.map_append]
  exact after_eq_of_written hwritten _

theorem running_run_eq (henabling : Enabling config) (hs : Idle s)
    (h : EndsIn config history) (h' : EndsIn config history') :
    (run s history).running .adbd = (run s history').running .adbd := by
  rw [running_run hs h.configured, running_run hs h'.configured]
  obtain ⟨before, rfl⟩ := h.split henabling
  obtain ⟨before', rfl⟩ := h'.split henabling
  rw [List.map_append, List.map_append]
  apply after_eq_of_written
  have hnone : switched "none" = some false := ((profile "none" none_mem).reset rfl).2
  rw [List.map_cons, lastWrite_cons, hnone]
  cases lastWrite (List.map switched [config]) <;> rfl

/-- A node that only some configurations write, and with one value only, remembers whether one of
    them was entered. -/
theorem files_run_eq_iff {node : Node} {value : String} {writes : String → Prop}
    [DecidablePred writes] (hs : Idle s)
    (hnode : ∀ v ∈ configurations, written node v = if writes v then some value else none)
    (h : ∀ v ∈ history, v ∈ configurations) (h' : ∀ v ∈ history', v ∈ configurations) :
    (run s history).files node = (run s history').files node ↔
      ((∃ v ∈ history, writes v) ↔ ∃ v ∈ history', writes v) ∨ s.files node = value := by
  have honly : ∀ l : List String, (∀ v ∈ l, v ∈ configurations) →
      Only value (l.map (written node)) := by
    intro l hl w hw y hy
    obtain ⟨v, hv, rfl⟩ := List.mem_map.mp hw
    rw [hnode v (hl v hv)] at hy
    split at hy
    · exact (Option.some.inj hy).symm
    · cases hy
  have hmem : ∀ l : List String, (∀ v ∈ l, v ∈ configurations) →
      (some value ∈ l.map (written node) ↔ ∃ v ∈ l, writes v) := by
    intro l hl
    rw [List.mem_map]
    apply exists_congr
    intro v
    apply and_congr_right
    intro hv
    rw [hnode v (hl v hv)]
    by_cases hwrites : writes v <;> simp [hwrites]
  rw [files_run hs h, files_run hs h', after_eq_iff_of_only (honly _ h) (honly _ h'),
    hmem _ h, hmem _ h']

theorem port_run_eq_iff (hs : Idle s) (h : ∀ v ∈ history, v ∈ configurations)
    (h' : ∀ v ∈ history', v ∈ configurations) :
    (run s history).files .acmPortIndex = (run s history').files .acmPortIndex ↔
      (lastWrite (history.map portIndex)).getD (s.files .acmPortIndex) =
        (lastWrite (history'.map portIndex)).getD (s.files .acmPortIndex) := by
  have hmap : ∀ l : List String, (∀ v ∈ l, v ∈ configurations) →
      l.map (written .acmPortIndex) = l.map portIndex := fun l hl =>
    List.map_congr_left fun v hv => (profile v (hl v hv)).port
  rw [files_run hs h, files_run hs h', hmap _ h, hmap _ h', after_step, after_step]

/-- Histories that end in one configuration leave the same gadget exactly if they agree on the few
    configurations that leave something behind. -/
theorem history_independent_iff (henabling : Enabling config) (h : EndsIn config history)
    (h' : EndsIn config history') :
    gadget (run (boot s) history) = gadget (run (boot s) history') ↔
      SameLeftovers (boot s) history history' := by
  have hs : Idle (boot s) := idle_boot
  have hport := port_run_eq_iff hs h.configured h'.configured
  have hbicr := files_run_eq_iff hs (fun v hv => (profile v hv).bicr) h.configured h'.configured
  have hlun := files_run_eq_iff hs (fun v hv => (profile v hv).lunFile) h.configured h'.configured
  have hcmode := files_run_eq_iff hs (fun v hv => (profile v hv).cmode) h.configured h'.configured
  simp only [exists_eq_right] at hcmode
  constructor
  · intro hgadget
    obtain ⟨-, -, -, -, hp, hb, hl, hc, -⟩ := Gadget.mk.inj hgadget
    refine ⟨hport.mp hp, ?_, hcmode.mp hc⟩
    rcases hbicr.mp hb with hsame | hone
    · exact .inl hsame
    · rcases hlun.mp hl with hsame | hfile
      · exact .inl hsame
      · exact .inr ⟨hone, hfile⟩
  · intro hsame
    have hconfig : config ∈ configurations := h.configured _ (List.mem_of_getLast? h.ends)
    have hcovered : ∀ node ∈ [Node.idVendor, .idProduct, .functions],
        (run (boot s) history).files node = (run (boot s) history').files node := by
      intro node hnode
      apply files_run_eq henabling hs h h'
      have hchosen : (written node config).isSome :=
        (profile config hconfig).chosen henabling node hnode
      rw [lastWrite_cons, lastWrite_singleton, Option.isSome_or, hchosen, Bool.true_or]
    have hclass : (run (boot s) history).files .bDeviceClass =
        (run (boot s) history').files .bDeviceClass := by
      apply files_run_eq henabling hs h h'
      have hnone : written .bDeviceClass "none" = some "0" :=
        ((profile "none" none_mem).reset rfl).1
      rw [lastWrite_cons, hnone, Option.isSome_or, Bool.or_comm]
      rfl
    simp only [gadget, Gadget.mk.injEq]
    refine ⟨hcovered _ (by decide), hcovered _ (by decide), hcovered _ (by decide), hclass,
      hport.mpr hsame.port, hbicr.mpr ?_, hlun.mpr ?_, hcmode.mpr hsame.charging,
      running_run_eq henabling hs h h'⟩
    · exact hsame.bicr.imp_right And.left
    · exact hsame.bicr.imp_right And.right

end Ends

/-- A device with nothing written yet. -/
def blank : State := ⟨fun _ => none, fun _ => "", fun _ => false, []⟩

theorem adb_mem : "adb" ∈ configurations :=
  mem_configurations (a := adb) (by simp [actions]) rfl rfl

theorem enabling_adb : Enabling "adb" := (profile "adb" adb_mem).enabling.mpr (by decide)

theorem endsIn_adb : EndsIn "adb" ["none", "adb"] where
  configured := by simp [none_mem, adb_mem]
  starts := rfl
  switches := by decide
  ends := rfl

theorem endsIn_adb_after {visited : String} (h : visited ∈ configurations) :
    EndsIn "adb" ["none", visited, "none", "adb"] where
  configured := by simp [none_mem, adb_mem, h]
  starts := rfl
  switches := by simp
  ends := rfl

/-- `adb` is the same with and without `mtp` before it. -/
theorem adb_after_mtp : gadget (run (boot blank) ["none", "mtp", "none", "adb"]) =
    gadget (run (boot blank) ["none", "adb"]) := by
  have hmtp : "mtp" ∈ configurations := mem_configurations (a := mtp) (by simp [actions]) rfl rfl
  have hsame : SameLeftovers (boot blank) ["none", "mtp", "none", "adb"] ["none", "adb"] :=
    ⟨rfl, .inl (by decide), .inl (by decide)⟩
  exact (history_independent_iff enabling_adb (endsIn_adb_after hmtp) endsIn_adb).mpr hsame

/-- `adb` is not the same with and without charging before it: the charger keeps its mode. -/
theorem adb_after_charging : ¬∀ s config history history', Enabling config →
    EndsIn config history → EndsIn config history' →
      gadget (run (boot s) history) = gadget (run (boot s) history') := by
  intro hindependent
  have hcharging : "charging" ∈ configurations :=
    mem_configurations (a := charging) (by simp [actions]) rfl rfl
  have hgadget := hindependent blank "adb" ["none", "charging", "none", "adb"] ["none", "adb"]
    enabling_adb (endsIn_adb_after hcharging) endsIn_adb
  have hcmode := (files_run_eq_iff (s := boot blank) idle_boot (fun v hv => (profile v hv).cmode)
    (endsIn_adb_after hcharging).configured endsIn_adb.configured).mp
      (congrArg Gadget.cmode hgadget)
  revert hcmode
  decide

end Usb
