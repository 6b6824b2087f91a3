-- SUMMARY: The USB script under the loop of init: sys.usb.state against sys.usb.config while properties are written from outside.
import GioneeP4.Lib.InitLoop
import GioneeP4.Usb.History

/-!
# The USB script under the loop

Every configuration copies `sys.usb.config` into `sys.usb.state`, most of them at
their end. So whoever waits for `sys.usb.state` before the next write of
`sys.usb.config` finds the device as if each write were one step.
-/

namespace Usb

open Init Register

abbrev Loop := Init.Loop Property Node Service
abbrev Input := Init.Input Property

/-- Init with nothing to run after `on post-fs-data`. -/
def booted (s : State) : Loop := ⟨boot s, []⟩

/-- Property writes from outside and turns of init, in any order. -/
def live (s : State) (inputs : List Input) : Loop := Machine.after (Loop.next actions) (booted s) inputs

variable {s : State} {config : String} {inputs : List Input}

/-! ## The state follows the configuration -/

theorem mirrors : Mirrors actions Property.usbConfig Property.usbState where
  ne := by decide
  copies := by decide +kernel
  only := by decide +kernel

/-- A bound on the turns that a configuration takes. -/
def configurationCost : Nat := 16

/-- Bounds on the turns that commands take with the actions they trigger. -/
def fire : Command → Nat
  | .setprop .usbConfig _ => configurationCost
  | .setprop .usbCharging _ => 2
  | _ => 0

def cost (a : Action) : Nat := (a.commands.map fun c => fire c + 1).sum + 1

theorem cost_le : ∀ a ∈ actions, a.property = .usbConfig → cost a ≤ configurationCost := by
  decide +kernel

/-- At most one action waits for a value of `sys.usb.config`. -/
theorem cost_config_le {value : String} :
    ((actions.filter (·.waitsFor .usbConfig value)).map cost).sum ≤ configurationCost := by
  by_cases hvalue : value ∈ configurations
  · obtain ⟨a, ha, hproperty, -, hcontained⟩ := exists_contained hvalue
    rw [hcontained.fired, List.map_singleton, List.sum_singleton]
    exact cost_le a ha hproperty
  · have hnone : actions.filter (·.waitsFor .usbConfig value) = [] := by
      rw [List.filter_eq_nil_iff]
      intro a ha hwaits
      obtain ⟨config, hconfig, -⟩ := actions_contained a ha (property_of_waitsFor hwaits)
      simp only [Action.waitsFor, Bool.and_eq_true, Bool.or_eq_true, decide_eq_true_eq] at hwaits
      rcases hwaits with ⟨hproperty, hany | hsome⟩
      · rw [hany] at hconfig
        cases hconfig
      · exact hvalue (mem_configurations ha hproperty hsome)
    rw [hnone]
    exact Nat.zero_le _

theorem unheard : ∀ a ∈ actions, a.property ≠ Property.usbState := by
  decide +kernel

/-- A command of the script configures, reports, triggers nothing, or sets a property to a text. -/
theorem commands_cases : ∀ a ∈ actions, ∀ c ∈ a.commands,
    c.sets .usbConfig ∨ c.sets .usbState ∨ c.Silent ∨
      c.Steady [] ∧ ((c.triggered actions fun _ => none).map cost).sum ≤ fire c := by
  decide +kernel

theorem costs : Costs cost fire actions where
  action := by
    intro a _
    exact Nat.lt_succ_self _
  command := by
    intro a ha c hc properties
    rcases commands_cases a ha c hc with hconfig | hstate | hsilent | ⟨hsteady, hle⟩
    · obtain ⟨word, rfl⟩ := eq_setprop_of_sets hconfig
      simp only [Command.triggered]
      cases word.expand properties with
      | none => exact Nat.zero_le _
      | some value => exact cost_config_le
    · rw [triggered_of_unheard unheard hstate]
      exact Nat.zero_le _
    · rw [triggered_of_silent hsilent]
      exact Nat.zero_le _
    · have hread : c.triggered actions properties = c.triggered actions fun _ => none :=
        Command.triggered_congr hsteady (by simp [Agree])
      rw [hread]
      exact hle

theorem scripted_booted : Scripted actions (booted s) where
  queue := by
    rw [booted, idle_boot.queue]
    exact fun a ha => absurd ha List.not_mem_nil
  nodup := by
    rw [booted, idle_boot.queue]
    exact List.nodup_nil
  current := .inl rfl

theorem scripted_live : Scripted actions (live s inputs) :=
  Machine.after_invariant scripted_booted fun _ input _ ht => ht.next input

/-- More turns than all actions of the script take, and one at hand. -/
def turnsToSettle : Nat := 800

theorem idle_live {turns : Nat} (hturns : turnsToSettle ≤ turns) :
    (live s (inputs ++ List.replicate turns .turn)).Idle := by
  rw [live, Machine.after_append]
  apply idle_of_turns costs scripted_live
  have hle := scripted_live.remaining_le (s := live s inputs) costs
  have hsum : (actions.map cost).sum = 397 := by decide +kernel
  unfold turnsToSettle at hturns
  omega

/-- `on init` and `on post-fs-data` set `sys.usb.vid` only. -/
theorem properties_boot : (boot s).properties .usbConfig = s.properties .usbConfig := by
  have hkeeps : ∀ c ∈ onInit ++ onPostFsData, c.sets .usbConfig = false := by decide
  exact Machine.after_invariant
    (P := fun t : State => t.properties .usbConfig = s.properties .usbConfig) rfl
    fun _ c hc ht => (properties_runCommand (hkeeps c hc)).trans ht

/-- Whatever is written while init is at work, in the end `sys.usb.state` is the configuration. -/
theorem reports_config (hs : s.properties .usbConfig = none)
    (hinputs : ∀ input ∈ inputs, input.Avoids .usbState) {turns : Nat}
    (hturns : turnsToSettle ≤ turns) :
    (live s (inputs ++ List.replicate turns .turn)).Idle ∧
      ∀ config ∈ configurations,
        (live s (inputs ++ List.replicate turns .turn)).properties .usbConfig = some config →
        (live s (inputs ++ List.replicate turns .turn)).properties .usbState = some config := by
  refine ⟨idle_live hturns, ?_⟩
  intro config hconfig hset
  have hbooted : Reflected actions Property.usbConfig Property.usbState (booted s) := by
    refine ⟨scripted_booted, ?_⟩
    intro v hv
    rw [booted, properties_boot, hs] at hv
    cases hv
  have havoids : ∀ input ∈ inputs ++ List.replicate turns .turn, input.Avoids Property.usbState := by
    intro input hinput
    rcases List.mem_append.mp hinput with hold | hturn
    · exact hinputs input hold
    · rw [List.eq_of_mem_replicate hturn]
      trivial
  have hreflected := hbooted.run mirrors havoids
  obtain ⟨a, ha, -, -, hcontained⟩ := exists_contained hconfig
  have hwaits : a ∈ actions.filter (·.waitsFor .usbConfig config) :=
    hcontained.fired ▸ List.mem_singleton_self a
  exact hreflected.of_idle (idle_live hturns) hset ⟨a, ha, (List.mem_filter.mp hwaits).2⟩

/-- The persistent configuration, and `none` before init is done with it. -/
def persistThenNone (turns : Nat) : List Input :=
  [.set .persistConfig "mtp,adb", .turn, .turn, .set .usbConfig "none"] ++
    List.replicate turns .turn

theorem live_persistThenNone {turns : Nat} (hturns : 40 ≤ turns) :
    live blank (persistThenNone turns) = live blank (persistThenNone 40) := by
  obtain ⟨more, rfl⟩ := Nat.exists_eq_add_of_le hturns
  have hidle : (live blank (persistThenNone 40)).Idle := ⟨by decide +kernel, by decide +kernel⟩
  have hsplit : persistThenNone (40 + more) =
      persistThenNone 40 ++ List.replicate more .turn := by
    rw [persistThenNone, persistThenNone, List.append_assoc, List.replicate_append_replicate]
  rw [hsplit, live, Machine.after_append]
  exact turns_of_idle hidle

theorem reports_config_none :
    (live blank (persistThenNone turnsToSettle)).Idle ∧
      (live blank (persistThenNone turnsToSettle)).properties .usbState = some "none" := by
  have hlast : (live blank (persistThenNone turnsToSettle)).properties .usbConfig =
      some "none" := by
    rw [live_persistThenNone (by decide)]
    decide +kernel
  rw [persistThenNone] at hlast ⊢
  obtain ⟨hidle, hreports⟩ := @reports_config blank
    [.set .persistConfig "mtp,adb", .turn, .turn, .set .usbConfig "none"] rfl
    (by simp [Input.Avoids]) turnsToSettle le_rfl
  exact ⟨hidle, hreports "none" none_mem hlast⟩

/-! ## Writes that wait for the state -/

/-- The configurations that copy the state at their end. -/
def Reported (config : String) : Prop := config ∈ configurations ∧ config ≠ "charging"

instance : DecidablePred Reported := fun _ => inferInstanceAs (Decidable (_ ∧ _))

theorem actions_end : ∀ a ∈ actions, a.property = .usbConfig → a.value ≠ some "charging" →
    a.commands.getLast? = some (copy .usbConfig .usbState) ∧
      ∀ c ∈ a.commands.dropLast, c.Silent := by
  decide +kernel

theorem acknowledges (h : Reported config) :
    ∃ a, Acknowledges actions Property.usbConfig Property.usbState config a := by
  obtain ⟨a, ha, hproperty, hvalue, hcontained⟩ := exists_contained h.1
  obtain ⟨hlast, hsilent⟩ := actions_end a ha hproperty (by simp [hvalue, h.2])
  obtain ⟨before, hbefore⟩ := List.getLast?_eq_some_iff.mp hlast
  rw [hbefore, List.dropLast_concat] at hsilent
  exact ⟨a, hcontained.fired, ⟨before, hbefore, hsilent⟩, unheard⟩

/-- Each write sets the configuration to another that is reported, once the state is the last. -/
def AllPolite (s : State) (inputs : List Input) : Prop :=
  ∀ p ∈ Machine.steps (Loop.next actions) (booted s) inputs,
    Polite .usbConfig .usbState Reported p.1 p.2

instance : Decidable (AllPolite s inputs) := inferInstanceAs (Decidable (∀ _ ∈ _, _))

theorem follows_live (h : AllPolite s inputs) :
    Follows actions Property.usbConfig Property.usbState (live s inputs)
      (run (boot s) (writes inputs)) := by
  have hbooted : Follows actions Property.usbConfig Property.usbState (booted s) (boot s) :=
    .settled rfl rfl idle_boot.queue
  exact hbooted.run (by decide) (fun v hv => acknowledges hv) h

theorem follows_turns {turns : Nat} (h : AllPolite s inputs) :
    Follows actions Property.usbConfig Property.usbState
      (live s (inputs ++ List.replicate turns .turn)) (run (boot s) (writes inputs)) := by
  rw [live, Machine.after_append]
  refine Machine.after_invariant
    (P := fun t => Follows actions Property.usbConfig Property.usbState t
      (run (boot s) (writes inputs))) (follows_live h) ?_
  intro t input hinput ht
  rw [List.eq_of_mem_replicate hinput]
  exact ht.turn

/-- Who waits for the state does not notice that init takes its time: whenever the state is the
    configuration, and in the end, the device is where the writes lead one after the other. -/
theorem waiting_refines (h : AllPolite s inputs) :
    ((live s inputs).Idle ∨
      (live s inputs).properties .usbState = (live s inputs).properties .usbConfig →
        live s inputs = ⟨run (boot s) (writes inputs), []⟩) ∧
      ∀ turns, turnsToSettle ≤ turns →
        live s (inputs ++ List.replicate turns .turn) = ⟨run (boot s) (writes inputs), []⟩ := by
  constructor
  · rintro (hidle | hmirror)
    · exact (follows_live h).of_idle hidle
    · exact ((follows_live h).of_mirror hmirror).1
  · exact fun turns hturns => (follows_turns h).of_idle (idle_live hturns)

/-- The first configuration with the time it takes, and the next one. -/
def noneThenAdb : List Input :=
  .set .usbConfig "none" :: List.replicate 4 .turn ++ [.set .usbConfig "adb"]

theorem waiting_refines_adb : AllPolite blank noneThenAdb ∧
    ∀ turns, turnsToSettle ≤ turns →
      live blank (noneThenAdb ++ List.replicate turns .turn) =
        ⟨run (boot blank) ["none", "adb"], []⟩ := by
  have hpolite : AllPolite blank noneThenAdb := by decide +kernel
  exact ⟨hpolite, (waiting_refines hpolite).2⟩

/-- Without waiting, the second `adb` finds its action on the queue still, and `none` is run last:
    the state says `adb` of a gadget that is disabled. -/
example :
    let t := live blank (noneThenAdb ++
      [.set .usbConfig "none", .set .usbConfig "adb"] ++ List.replicate 30 .turn)
    t.properties .usbState = some "adb" ∧ t.files .enable = "0" := by
  decide +kernel

/-! ## The debugging daemon -/

/-- The gadget is enabled and offers the function. -/
def Offers (function : String) (t : State) : Prop :=
  t.files .enable = "1" ∧ function.toList ∈ (t.files .functions).toList.splitOn ','

/-- What the commands that a configuration runs do to the gadget and to `adbd`. -/
structure Switches (config : String) (commands : List Command) : Prop where
  stops : config = "none" →
    lastWrite (commands.map (·.written (env config) .enable)) = some "0" ∧
      lastWrite (commands.map (·.switched .adbd)) = some false
  charges : config = "charging" →
    lastWrite (commands.map (·.written (env config) .enable)) = none ∧
      lastWrite (commands.map (·.switched .adbd)) = none
  enables : config ≠ "none" → config ≠ "charging" →
    lastWrite (commands.map (·.written (env config) .enable)) = some "1" ∧
      ∃ functions ∈ lastWrite (commands.map (·.written (env config) .functions)),
        lastWrite (commands.map (·.switched .adbd)) =
          if "adb".toList ∈ functions.toList.splitOn ',' then some true else none

instance {config : String} {commands : List Command} : Decidable (Switches config commands) :=
  decidable_of_iff (_ ∧ _ ∧ _)
    ⟨fun ⟨stops, charges, enables⟩ => ⟨stops, charges, enables⟩,
    fun h => ⟨h.stops, h.charges, h.enables⟩⟩

theorem switches : ∀ config ∈ configurations, Switches config (entering config) :=
  forall_entering (by decide +kernel)

/-- The gadget is disabled and `adbd` stopped. -/
structure Off (t : State) : Prop where
  enable : t.files .enable = "0"
  adbd : t.running .adbd = false

/-- `adbd` runs exactly if the gadget offers it. -/
def AdbdOffered (t : State) : Prop := t.running .adbd = true ↔ Offers "adb" t

theorem Off.adbdOffered {t : State} (h : Off t) : AdbdOffered t := by
  simp [AdbdOffered, Offers, h.enable, h.adbd]

section Daemon

variable {t : State} {history : List String}

theorem off_configure (h : Idle t) : Off (configure t "none") := by
  obtain ⟨hfile, hservice⟩ := (switches "none" none_mem).stops rfl
  constructor
  · rw [files_configure h none_mem, written, hfile]
    rfl
  · rw [running_configure h none_mem, switched, hservice]
    rfl

/-- From a disabled gadget every configuration but `charging` enables it, with `adbd` if it is to be
    offered. -/
theorem adbdOffered_configure (h : Idle t) (hoff : Off t) (hconfig : config ∈ configurations) :
    AdbdOffered (configure t config) := by
  by_cases hnone : config = "none"
  · rw [hnone]
    exact (off_configure h).adbdOffered
  by_cases hcharging : config = "charging"
  · obtain ⟨hfile, hservice⟩ := (switches config hconfig).charges hcharging
    refine Off.adbdOffered ⟨?_, ?_⟩
    · rw [files_configure h hconfig, written, hfile]
      exact hoff.enable
    · rw [running_configure h hconfig, switched, hservice]
      exact hoff.adbd
  · obtain ⟨hfile, functions, hfunctions, hservice⟩ :=
      (switches config hconfig).enables hnone hcharging
    rw [AdbdOffered, Offers, files_configure h hconfig, files_configure h hconfig,
      running_configure h hconfig, written, written, switched, hfile, hfunctions, hservice, hoff.adbd]
    by_cases hadb : "adb".toList ∈ functions.toList.splitOn ','
    · rw [if_pos hadb]
      exact ⟨fun _ => ⟨rfl, hadb⟩, fun _ => rfl⟩
    · rw [if_neg hadb]
      exact ⟨fun hruns => absurd hruns (by decide), fun hoffers => absurd hoffers.2 hadb⟩

theorem idle_run (h : Disciplined history) : Idle (run (boot s) history) :=
  Machine.after_invariant idle_boot fun _ v hv ht => ht.configure (h.configured v hv)

/-- A value of a disciplined history is `none`, or comes right after `none`. -/
theorem Disciplined.of_concat {v : String} (h : Disciplined (history ++ [v])) :
    v = "none" ∨ Disciplined history ∧ history.getLast? = some "none" := by
  rcases List.eq_nil_or_concat history with rfl | ⟨before, w, rfl⟩
  · exact .inl (Option.some.inj h.starts)
  · rw [List.concat_eq_append] at h ⊢
    have hswitch := h.switches
    rw [List.append_assoc, List.singleton_append, List.isChain_append_cons_cons] at hswitch
    rcases hswitch.2.1 with rfl | hnone
    · right
      refine ⟨⟨?_, ?_, ?_⟩, by simp⟩
      · exact fun u hu => h.configured u (List.mem_append_left _ hu)
      · have hstarts := h.starts
        rwa [List.head?_append_of_ne_nil _ (by simp)] at hstarts
      · exact h.switches.left_of_append
    · exact .inl hnone

/-- Over every disciplined history `adbd` runs exactly while the gadget offers it. -/
theorem adbdOffered_run (h : Disciplined history) :
    AdbdOffered (run (boot s) history) ∧
      (history.getLast? = some "none" → Off (run (boot s) history)) := by
  induction history using List.reverseRecOn with
  | nil =>
    have hstarts := h.starts
    cases hstarts
  | append_singleton history v ih =>
    have hconfigured : v ∈ configurations := h.configured v (by simp)
    rw [run, Machine.after_append, Machine.after_cons, Machine.after_nil, ← run]
    rcases h.of_concat with rfl | ⟨hbefore, hlast⟩
    · have hidle : Idle (run (boot s) history) :=
        Machine.after_invariant idle_boot fun _ w hw ht =>
          ht.configure (h.configured w (List.mem_append_left _ hw))
      exact ⟨(off_configure hidle).adbdOffered, fun _ => off_configure hidle⟩
    · have hidle : Idle (run (boot s) history) := idle_run hbefore
      refine ⟨adbdOffered_configure hidle ((ih hbefore).2 hlast) hconfigured, ?_⟩
      intro hend
      obtain rfl : v = "none" := by simpa using hend
      exact off_configure hidle

end Daemon

/-- When the writes are polite and pass through `none`, `adbd` runs exactly if the gadget offers
    it, whenever the state is the configuration. -/
theorem adbd_runs_while_offered (h : AllPolite s inputs) (hdisciplined : Disciplined (writes inputs))
    (hmirror : (live s inputs).properties .usbState = (live s inputs).properties .usbConfig) :
    AdbdOffered (live s inputs).toState := by
  rw [((follows_live h).of_mirror hmirror).1]
  exact (adbdOffered_run hdisciplined).1

theorem adbd_runs_while_offered_adb :
    AllPolite blank (noneThenAdb ++ List.replicate 7 .turn) ∧
      AdbdOffered (live blank (noneThenAdb ++ List.replicate 7 .turn)).toState := by
  have hpolite : AllPolite blank (noneThenAdb ++ List.replicate 7 .turn) := by decide +kernel
  exact ⟨hpolite, adbd_runs_while_offered hpolite endsIn_adb.toDisciplined (by decide +kernel)⟩

end Usb
