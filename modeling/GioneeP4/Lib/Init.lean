-- SUMMARY: Init scripts: actions that wait for properties, the commands they run, and the queue they are run from.
import GioneeP4.Lib.Register
import Mathlib.Logic.Function.Basic

/-!
# Init scripts

An init script is a list of actions. Each waits for a value of a property and has
commands, which write files, set properties and start and stop services. Setting a
property adds the actions that wait for it to the tail of a queue, unless they are
on it already; queued actions are run one after the other.

As long as commands only read properties that none of them sets, each file and
each service is a register of the commands that are run.
-/

namespace Init

/-! ## Scripts -/

/-- An argument of a command: a text, or the value of a property. -/
inductive Word (π : Type)
  | text (s : String)
  | property (name : π)
  deriving DecidableEq

instance {π : Type} : Coe String (Word π) := ⟨.text⟩

/-- Commands over properties, files and services. -/
inductive Command (π κ δ : Type)
  | write (file : κ) (word : Word π)
  | setprop (name : π) (word : Word π)
  | start (service : δ)
  | stop (service : δ)
  deriving DecidableEq

/-- `on property:<property>=<value>`; no value stands for `*`. -/
structure Action (π κ δ : Type) where
  property : π
  value : Option String
  commands : List (Command π κ δ)
  deriving DecidableEq

structure State (π κ δ : Type) where
  properties : π → Option String
  files : κ → String
  running : δ → Bool
  queue : List (Action π κ δ)

variable {π κ δ : Type} [DecidableEq π] [DecidableEq κ] [DecidableEq δ]
variable {script : List (Action π κ δ)} {s t : State π κ δ} {c : Command π κ δ}
variable {properties properties' : π → Option String}

def Action.waitsFor (a : Action π κ δ) (name : π) (value : String) : Bool :=
  a.property = name && (a.value = none || a.value = some value)

/-- A word that names an unset property has no value. -/
def Word.expand (properties : π → Option String) : Word π → Option String
  | .text s => some s
  | .property name => properties name

def enqueue (queue : List (Action π κ δ)) (a : Action π κ δ) : List (Action π κ δ) :=
  if a ∈ queue then queue else queue ++ [a]

def State.setprop (script : List (Action π κ δ)) (s : State π κ δ) (name : π) (value : String) :
    State π κ δ :=
  { s with
    properties := Function.update s.properties name (some value)
    queue := (script.filter (·.waitsFor name value)).foldl enqueue s.queue }

/-- A command whose word has no value does nothing. -/
def runCommand (script : List (Action π κ δ)) (s : State π κ δ) : Command π κ δ → State π κ δ
  | .write file word =>
    match word.expand s.properties with
    | some value => { s with files := Function.update s.files file value }
    | none => s
  | .setprop name word =>
    match word.expand s.properties with
    | some value => s.setprop script name value
    | none => s
  | .start service => { s with running := Function.update s.running service true }
  | .stop service => { s with running := Function.update s.running service false }

abbrev runCommands (script : List (Action π κ δ)) (s : State π κ δ)
    (commands : List (Command π κ δ)) : State π κ δ :=
  Machine.after (runCommand script) s commands

/-- Run at most `rounds` actions from the queue. -/
def drain (script : List (Action π κ δ)) : Nat → State π κ δ → State π κ δ
  | 0, s => s
  | rounds + 1, s =>
    match s.queue with
    | [] => s
    | a :: queue => drain script rounds (runCommands script { s with queue } a.commands)

/-- Run the queue. A script whose actions are queued at most once needs no more rounds than it has
    actions. -/
abbrev settle (script : List (Action π κ δ)) (s : State π κ δ) : State π κ δ :=
  drain script script.length s

theorem drain_of_idle {rounds : Nat} (h : s.queue = []) : drain script rounds s = s := by
  cases rounds with
  | zero => rfl
  | succ rounds => rw [drain, h]

theorem drain_of_queue {rounds : Nat} {a : Action π κ δ} {queue : List (Action π κ δ)}
    (h : s.queue = a :: queue) :
    drain script (rounds + 1) s =
      drain script rounds (runCommands script { s with queue } a.commands) := by
  rw [drain, h]

/-! ## What a command does -/

/-- What a command writes to a file. -/
def Command.written (properties : π → Option String) (file : κ) :
    Command π κ δ → Option String
  | .write file' word => if file' = file then word.expand properties else none
  | _ => none

/-- What a command makes of a service. -/
def Command.switched (service : δ) : Command π κ δ → Option Bool
  | .start service' => if service' = service then some true else none
  | .stop service' => if service' = service then some false else none
  | _ => none

/-- The actions a command adds to the queue. -/
def Command.triggered (script : List (Action π κ δ)) (properties : π → Option String) :
    Command π κ δ → List (Action π κ δ)
  | .setprop name word =>
    match word.expand properties with
    | some value => script.filter (·.waitsFor name value)
    | none => []
  | _ => []

theorem files_runCommand {file : κ} :
    (runCommand script s c).files file =
      Register.step (s.files file) (c.written s.properties file) := by
  cases c with
  | write file' word =>
    simp only [runCommand, Command.written]
    cases word.expand s.properties with
    | none => rw [ite_self]; rfl
    | some value =>
      by_cases hfile : file' = file
      · subst hfile
        rw [if_pos rfl]
        exact Function.update_self ..
      · rw [if_neg hfile]
        exact Function.update_of_ne (Ne.symm hfile) ..
  | setprop name word =>
    simp only [runCommand]
    cases word.expand s.properties <;> rfl
  | start service => rfl
  | stop service => rfl

theorem running_runCommand {service : δ} :
    (runCommand script s c).running service =
      Register.step (s.running service) (c.switched service) := by
  cases c with
  | write file word =>
    simp only [runCommand]
    cases word.expand s.properties <;> rfl
  | setprop name word =>
    simp only [runCommand]
    cases word.expand s.properties <;> rfl
  | start service' | stop service' =>
    simp only [runCommand, Command.switched]
    by_cases hservice : service' = service
    · subst hservice
      rw [if_pos rfl]
      exact Function.update_self ..
    · rw [if_neg hservice]
      exact Function.update_of_ne (Ne.symm hservice) ..

theorem queue_runCommand :
    (runCommand script s c).queue = (c.triggered script s.properties).foldl enqueue s.queue := by
  cases c with
  | write file word =>
    simp only [runCommand, Command.triggered]
    cases word.expand s.properties <;> rfl
  | setprop name word =>
    simp only [runCommand, Command.triggered]
    cases word.expand s.properties <;> rfl
  | start service => rfl
  | stop service => rfl

/-! ## Commands that read steady properties -/

section Steady

variable {reads : List π}

def Word.Reads (reads : List π) : Word π → Prop
  | .text _ => True
  | .property name => name ∈ reads

/-- The command reads some of the properties and sets none of them. -/
def Command.Steady (reads : List π) : Command π κ δ → Prop
  | .write _ word => word.Reads reads
  | .setprop name word => name ∉ reads ∧ word.Reads reads
  | .start _ => True
  | .stop _ => True

instance : DecidablePred (Word.Reads reads)
  | .text _ => inferInstanceAs (Decidable True)
  | .property name => inferInstanceAs (Decidable (name ∈ reads))

instance : DecidablePred (Command.Steady (κ := κ) (δ := δ) reads)
  | .write _ word => inferInstanceAs (Decidable (word.Reads reads))
  | .setprop name word => inferInstanceAs (Decidable (name ∉ reads ∧ word.Reads reads))
  | .start _ => inferInstanceAs (Decidable True)
  | .stop _ => inferInstanceAs (Decidable True)

/-- Both give the properties that are read the same values. -/
def Agree (reads : List π) (properties properties' : π → Option String) : Prop :=
  ∀ name ∈ reads, properties name = properties' name

omit [DecidableEq π] in
theorem Agree.rfl : Agree reads properties properties := fun _ _ => Eq.refl _

omit [DecidableEq π] in
theorem Word.expand_congr {word : Word π} (hword : word.Reads reads)
    (h : Agree reads properties properties') :
    word.expand properties = word.expand properties' := by
  cases word with
  | text s => exact Eq.refl _
  | property name => exact h name hword

omit [DecidableEq π] [DecidableEq δ] in
theorem Command.written_congr {file : κ} (hc : c.Steady reads)
    (h : Agree reads properties properties') :
    c.written properties file = c.written properties' file := by
  cases c with
  | write file' word => simp only [Command.written, Word.expand_congr hc h]
  | setprop name word => exact Eq.refl _
  | start service => exact Eq.refl _
  | stop service => exact Eq.refl _

omit [DecidableEq κ] [DecidableEq δ] in
theorem Command.triggered_congr (hc : c.Steady reads) (h : Agree reads properties properties') :
    c.triggered script properties = c.triggered script properties' := by
  cases c with
  | write file word => exact Eq.refl _
  | setprop name word => simp only [Command.triggered, Word.expand_congr hc.2 h]
  | start service => exact Eq.refl _
  | stop service => exact Eq.refl _

theorem agree_runCommand (hc : c.Steady reads) (h : Agree reads s.properties properties) :
    Agree reads (runCommand script s c).properties properties := by
  cases c with
  | write file word =>
    simp only [runCommand]
    cases word.expand s.properties <;> exact h
  | setprop name word =>
    simp only [runCommand]
    cases word.expand s.properties with
    | none => exact h
    | some value =>
      intro name' hname'
      rw [← h name' hname']
      exact Function.update_of_ne (by rintro rfl; exact hc.1 hname') ..
  | start service => exact h
  | stop service => exact h

variable {commands : List (Command π κ δ)}

theorem agree_runCommands (hsteady : ∀ c ∈ commands, c.Steady reads)
    (h : Agree reads s.properties properties) :
    Agree reads (runCommands script s commands).properties properties :=
  Machine.after_invariant (P := fun t : State π κ δ => Agree reads t.properties properties) h
    fun _ c hc ht => agree_runCommand (hsteady c hc) ht

/-- Every file is a register of the commands. -/
theorem files_runCommands (hsteady : ∀ c ∈ commands, c.Steady reads)
    (h : Agree reads s.properties properties) {file : κ} :
    (runCommands script s commands).files file =
      Machine.after Register.step (s.files file) (commands.map (·.written properties file)) := by
  refine Machine.after_simulates (f := fun t : State π κ δ => t.files file)
    (P := fun t => Agree reads t.properties properties) h ?_ ?_
  · exact fun t c hc ht => agree_runCommand (hsteady c hc) ht
  · intro t c hc ht
    rw [files_runCommand, Command.written_congr (hsteady c hc) ht]

/-- Every service is a register of the commands. -/
theorem running_runCommands {service : δ} :
    (runCommands script s commands).running service =
      Machine.after Register.step (s.running service) (commands.map (·.switched service)) := by
  refine Machine.after_simulates (f := fun t : State π κ δ => t.running service)
    (P := fun _ => True) trivial (fun _ _ _ _ => trivial) ?_
  exact fun t c _ _ => running_runCommand

/-- The commands queue the actions they trigger. -/
theorem queue_runCommands (hsteady : ∀ c ∈ commands, c.Steady reads)
    (h : Agree reads s.properties properties) :
    (runCommands script s commands).queue =
      (commands.flatMap (·.triggered script properties)).foldl enqueue s.queue := by
  have hqueue : (runCommands script s commands).queue =
      Machine.after (fun queue actions => actions.foldl enqueue queue) s.queue
        (commands.map (·.triggered script properties)) := by
    refine Machine.after_simulates (f := State.queue)
      (P := fun t => Agree reads t.properties properties) h ?_ ?_
    · exact fun t c hc ht => agree_runCommand (hsteady c hc) ht
    · intro t c hc ht
      rw [queue_runCommand, Command.triggered_congr (hsteady c hc) ht]
  rw [hqueue, Machine.after, List.foldl_map, List.foldl_flatMap]

/-! ## Cascades -/

theorem foldl_enqueue {queue actions : List (Action π κ δ)} (h : (queue ++ actions).Nodup) :
    actions.foldl enqueue queue = queue ++ actions := by
  induction actions generalizing queue with
  | nil => simp
  | cons a actions ih =>
    have ha : a ∉ queue := fun hmem =>
      (List.nodup_append.mp h).2.2 a hmem a (List.mem_cons_self ..) (Eq.refl _)
    have hassoc : queue ++ a :: actions = queue ++ [a] ++ actions := by simp
    rw [List.foldl_cons, enqueue, if_neg ha, hassoc]
    exact ih (hassoc ▸ h)

def State.cleared (s : State π κ δ) : State π κ δ := { s with queue := [] }

omit [DecidableEq π] [DecidableEq κ] [DecidableEq δ] in
@[simp] theorem files_cleared : s.cleared.files = s.files := Eq.refl _

omit [DecidableEq π] [DecidableEq κ] [DecidableEq δ] in
@[simp] theorem running_cleared : s.cleared.running = s.running := Eq.refl _

/-- A command that triggers nothing does not see the queue. -/
theorem cleared_runCommand (h : c.triggered script s.properties = []) :
    (runCommand script s c).cleared = runCommand script s.cleared c := by
  cases c with
  | write file word =>
    simp only [runCommand, State.cleared]
    cases word.expand s.properties <;> exact Eq.refl _
  | setprop name word =>
    simp only [Command.triggered] at h
    simp only [runCommand, State.cleared]
    cases hword : word.expand s.properties with
    | none => exact Eq.refl _
    | some value =>
      rw [hword] at h
      simp only [State.setprop, h, List.foldl_nil]
  | start service => exact Eq.refl _
  | stop service => exact Eq.refl _

theorem cleared_runCommands (hsteady : ∀ c ∈ commands, c.Steady reads)
    (hquiet : ∀ c ∈ commands, c.triggered script properties = [])
    (h : Agree reads s.properties properties) :
    (runCommands script s commands).cleared = runCommands script s.cleared commands := by
  have hsim : (runCommands script s commands).cleared =
      runCommands script s.cleared (commands.map id) := by
    refine Machine.after_simulates (f := State.cleared) (g := id)
      (P := fun t => Agree reads t.properties properties) h ?_ ?_
    · exact fun t c hc ht => agree_runCommand (hsteady c hc) ht
    · intro t c hc ht
      apply cleared_runCommand
      rw [Command.triggered_congr (hsteady c hc) ht, hquiet c hc]
  rwa [List.map_id] at hsim

variable {actions : List (Action π κ δ)} {rounds : Nat}

/-- Actions that trigger nothing are run in the order of the queue. -/
theorem drain_of_quiet (hsteady : ∀ a ∈ actions, ∀ c ∈ a.commands, c.Steady reads)
    (hquiet : ∀ a ∈ actions, ∀ c ∈ a.commands, c.triggered script properties = [])
    (h : Agree reads s.properties properties) (hqueue : s.queue = actions) :
    drain script (actions.length + rounds) s =
      runCommands script s.cleared (actions.flatMap (·.commands)) := by
  induction actions generalizing s with
  | nil =>
    rw [drain_of_idle hqueue]
    cases s
    cases hqueue
    exact Eq.refl _
  | cons a actions ih =>
    have ha : a ∈ a :: actions := List.mem_cons_self ..
    have hrest : Agree reads ({ s with queue := actions } : State π κ δ).properties properties := h
    have hkept : (runCommands script { s with queue := actions } a.commands).queue = actions := by
      rw [queue_runCommands (hsteady a ha) hrest, List.flatMap_eq_nil_iff.mpr (hquiet a ha)]
      exact Eq.refl _
    rw [List.length_cons, Nat.add_right_comm, drain_of_queue hqueue,
      ih (fun b hb => hsteady b (List.mem_cons_of_mem _ hb))
        (fun b hb => hquiet b (List.mem_cons_of_mem _ hb))
        (agree_runCommands (hsteady a ha) hrest) hkept,
      cleared_runCommands (hsteady a ha) (hquiet a ha) hrest, List.flatMap_cons]
    exact Machine.after_append.symm

/-- An action is run first, and then those it triggers if they trigger nothing themselves. -/
theorem drain_of_cascade {a : Action π κ δ} (ha : ∀ c ∈ a.commands, c.Steady reads)
    (htriggered : a.commands.flatMap (·.triggered script properties) = actions)
    (hnodup : actions.Nodup) (hsteady : ∀ a ∈ actions, ∀ c ∈ a.commands, c.Steady reads)
    (hquiet : ∀ a ∈ actions, ∀ c ∈ a.commands, c.triggered script properties = [])
    (h : Agree reads s.properties properties) (hqueue : s.queue = [a]) :
    drain script (actions.length + rounds + 1) s =
      runCommands script (runCommands script s.cleared a.commands).cleared
        (actions.flatMap (·.commands)) := by
  have hcleared : Agree reads s.cleared.properties properties := h
  rw [drain_of_queue hqueue]
  apply drain_of_quiet hsteady hquiet (agree_runCommands ha hcleared)
  rw [queue_runCommands ha hcleared, htriggered]
  exact foldl_enqueue hnodup

end Steady

end Init
