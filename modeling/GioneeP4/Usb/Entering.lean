-- SUMMARY: Entering a USB configuration: the actions that one write of sys.usb.config leads to, and what they write.
import GioneeP4.Usb.Script

/-!
# Entering a USB configuration

A write of `sys.usb.config` runs the action of the configuration, and with it the
action of `sys.usb.charging` if the configuration sets that. Each node, and `adbd`,
then hold what these commands write last.
-/

namespace Usb

open Init Register

/-- The values of `sys.usb.config` that an action waits for. -/
def configurations : List String :=
  actions.filterMap fun a => if a.property = .usbConfig then a.value else none

/-- A write of `sys.usb.config`, with all the actions it leads to. -/
def configure (s : State) (config : String) : State :=
  settle actions (s.setprop actions .usbConfig config)

/-- The properties that the actions of configurations read. -/
def reads : List Property := [.usbVid, .usbConfig]

/-- Their values while the actions of a configuration run. -/
def env (config : String) : Property → Option String
  | .usbVid => some "0BB4"
  | .usbConfig => some config
  | _ => none

def triggered (config : String) (a : Action) : List Action :=
  a.commands.flatMap (·.triggered actions (env config))

/-- The action is the only one that waits for the configuration. Its commands read steady
    properties only, and so do those of the actions they trigger, which trigger no more. -/
structure Contained (config : String) (a : Action) : Prop where
  fired : actions.filter (·.waitsFor .usbConfig config) = [a]
  steady : ∀ c ∈ a.commands, c.Steady reads
  distinct : (triggered config a).Nodup
  bounded : (triggered config a).length < actions.length
  quiet : ∀ b ∈ triggered config a, ∀ c ∈ b.commands,
    c.Steady reads ∧ c.triggered actions (env config) = []

/-- All commands that entering a configuration runs. -/
def entering (config : String) : List Command :=
  (actions.filter (·.waitsFor .usbConfig config)).flatMap fun a =>
    a.commands ++ (triggered config a).flatMap (·.commands)

/-- What entering a configuration writes to a node. -/
def written (node : Node) (config : String) : Option String :=
  lastWrite ((entering config).map (·.written (env config) node))

/-- What entering a configuration makes of `adbd`. -/
def switched (config : String) : Option Bool :=
  lastWrite ((entering config).map (·.switched .adbd))

/-- Between two writes of `sys.usb.config`. -/
structure Idle (s : State) : Prop where
  queue : s.queue = []
  vid : s.properties .usbVid = some "0BB4"

variable {s : State} {config : String}

/-- No two actions wait for one configuration. -/
theorem fired_length :
    ∀ config ∈ configurations, (actions.filter (·.waitsFor .usbConfig config)).length = 1 := by
  decide +kernel

theorem actions_contained : ∀ a ∈ actions, a.property = .usbConfig → ∃ config ∈ a.value,
    (∀ c ∈ a.commands, c.Steady reads) ∧ (triggered config a).Nodup ∧
      (triggered config a).length < actions.length ∧ ∀ b ∈ triggered config a, ∀ c ∈ b.commands,
        c.Steady reads ∧ c.triggered actions (env config) = [] := by
  decide +kernel

theorem exists_contained (h : config ∈ configurations) :
    ∃ a ∈ actions, a.property = .usbConfig ∧ a.value = some config ∧ Contained config a := by
  obtain ⟨a, hfired⟩ := List.length_eq_one_iff.mp (fired_length config h)
  have ha : a ∈ actions.filter (·.waitsFor .usbConfig config) := hfired ▸ List.mem_singleton_self a
  obtain ⟨hmem, hwaits⟩ := List.mem_filter.mp ha
  simp only [Action.waitsFor, Bool.and_eq_true, Bool.or_eq_true, decide_eq_true_eq] at hwaits
  obtain ⟨value, hvalue, hsteady, hdistinct, hbounded, hquiet⟩ :=
    actions_contained a hmem hwaits.1
  obtain rfl : value = config := by
    rcases hwaits.2 with hnone | hsome
    · rw [hvalue] at hnone
      cases hnone
    · exact Option.some.inj (hvalue.symm.trans hsome)
  exact ⟨a, hmem, hwaits.1, hvalue, hfired, hsteady, hdistinct, hbounded, hquiet⟩

theorem agree_setprop (h : Idle s) :
    Agree reads (s.setprop actions .usbConfig config).cleared.properties (env config) := by
  intro name hname
  rcases List.mem_pair.mp hname with rfl | rfl
  · exact h.vid
  · rfl

section Entering

variable {a : Action}

theorem entering_eq (ha : Contained config a) :
    entering config = a.commands ++ (triggered config a).flatMap (·.commands) := by
  rw [entering, ha.fired, List.flatMap_singleton]

/-- What holds of the commands of every action holds of entering every configuration. -/
theorem forall_entering {P : String → List Command → Prop}
    (h : ∀ a ∈ actions, a.property = .usbConfig → ∃ config ∈ a.value,
      P config (a.commands ++ (triggered config a).flatMap (·.commands))) :
    ∀ config ∈ configurations, P config (entering config) := by
  intro config hconfig
  obtain ⟨a, hmem, hproperty, hvalue, ha⟩ := exists_contained hconfig
  obtain ⟨value, hvalue', hP⟩ := h a hmem hproperty
  obtain rfl : config = value := Option.some.inj (hvalue.symm.trans hvalue')
  rwa [entering_eq ha]

/-- Entering a configuration runs its action, and then the actions this triggers. -/
theorem configure_eq (h : Idle s) (ha : Contained config a) :
    configure s config =
      runCommands actions
        (runCommands actions (s.setprop actions .usbConfig config).cleared a.commands).cleared
        ((triggered config a).flatMap (·.commands)) := by
  have hqueue : (s.setprop actions .usbConfig config).queue = [a] := by
    simp only [State.setprop, h.queue, ha.fired]
    rfl
  obtain ⟨rounds, hrounds⟩ : ∃ rounds, actions.length = (triggered config a).length + rounds + 1 :=
    ⟨actions.length - (triggered config a).length - 1, by have := ha.bounded; omega⟩
  rw [configure, settle, hrounds]
  exact drain_of_cascade ha.steady rfl ha.distinct (fun b hb c hc => (ha.quiet b hb c hc).1)
    (fun b hb c hc => (ha.quiet b hb c hc).2) (agree_setprop h) hqueue

theorem agree_runCommands_setprop (h : Idle s) (ha : Contained config a) :
    Agree reads
      (runCommands actions (s.setprop actions .usbConfig config).cleared a.commands).cleared.properties
      (env config) :=
  agree_runCommands ha.steady (agree_setprop h)

theorem Contained.steady_triggered (ha : Contained config a) :
    ∀ c ∈ (triggered config a).flatMap (·.commands), c.Steady reads := by
  intro c hc
  obtain ⟨b, hb, hc⟩ := List.mem_flatMap.mp hc
  exact (ha.quiet b hb c hc).1

theorem Contained.quiet_triggered (ha : Contained config a) :
    ((triggered config a).flatMap (·.commands)).flatMap (·.triggered actions (env config)) = [] := by
  rw [List.flatMap_eq_nil_iff]
  intro c hc
  obtain ⟨b, hb, hc⟩ := List.mem_flatMap.mp hc
  exact (ha.quiet b hb c hc).2

end Entering

/-- A node holds what entering the configuration writes to it, or what it held before. -/
theorem files_configure {node : Node} (h : Idle s) (hconfig : config ∈ configurations) :
    (configure s config).files node = Register.step (s.files node) (written node config) := by
  obtain ⟨a, -, -, -, ha⟩ := exists_contained hconfig
  rw [configure_eq h ha, files_runCommands ha.steady_triggered (agree_runCommands_setprop h ha),
    files_cleared, files_runCommands ha.steady (agree_setprop h), ← Machine.after_append,
    ← List.map_append, ← entering_eq ha, Register.after_step]
  rfl

theorem running_configure (h : Idle s) (hconfig : config ∈ configurations) :
    (configure s config).running .adbd = Register.step (s.running .adbd) (switched config) := by
  obtain ⟨a, -, -, -, ha⟩ := exists_contained hconfig
  rw [configure_eq h ha, running_runCommands, running_cleared, running_runCommands,
    ← Machine.after_append, ← List.map_append, ← entering_eq ha, Register.after_step]
  rfl

theorem Idle.configure (h : Idle s) (hconfig : config ∈ configurations) :
    Idle (configure s config) := by
  obtain ⟨a, -, -, -, ha⟩ := exists_contained hconfig
  rw [configure_eq h ha]
  constructor
  · rw [queue_runCommands ha.steady_triggered (agree_runCommands_setprop h ha),
      ha.quiet_triggered]
    rfl
  · exact agree_runCommands ha.steady_triggered (agree_runCommands_setprop h ha) .usbVid (by decide)

end Usb
