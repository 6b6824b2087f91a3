-- SUMMARY: The lights module as its clients see it: devices opened by name and closed, and the calls that what is done through them comes down to.
import GioneeP4.Lib.Prog
import GioneeP4.Lib.Register
import GioneeP4.Lights.Device
import Mathlib.Data.List.Induction

/-!
# Devices of the module

A client opens a light by its name and gets a device, whose `set_light` it calls
until it closes it. Whether that goes wrong, and which light a device sets, is
decided by the uses before: the last of them that opened or closed a device at the
address. The devices share the statics of the module, so what is set through all of
them is one run of calls.
-/

namespace Lights

open Prog Register

/-! ## Opening and closing -/

/-- The lights of the module, in the order `open_lights` compares their names. -/
inductive Light
  | backlight | notifications | attention | battery | buttons
  deriving DecidableEq

/-- The `LIGHT_ID_*` of the HAL header. -/
structure LightIds where
  text : Light → String
  distinct : Function.Injective text

/-- The names themselves. -/
def LightIds.header : LightIds where
  text
    | .backlight => "backlight"
    | .notifications => "notifications"
    | .attention => "attention"
    | .battery => "battery"
    | .buttons => "buttons"
  distinct := by
    intro a b h
    cases a <;> cases b <;> first | rfl | exact absurd h (by decide)

def lightNamed (ids : LightIds) (name : String) : Option Light :=
  if ids.text .backlight = name then some .backlight
  else if ids.text .notifications = name then some .notifications
  else if ids.text .attention = name then some .attention
  else if ids.text .battery = name then some .battery
  else if ids.text .buttons = name then some .buttons
  else none

/-- The `set_light` function of a light. -/
def Light.call (state : LightState) : Light → Call
  | .backlight => .backlight state
  | .notifications => .led .notifications state
  | .attention => .led .attention state
  | .battery => .led .battery state
  | .buttons => .buttons state

inductive Fault
  /-- `malloc` returned null, which `memset` writes through. -/
  | noMemory
  /-- A device that was not opened, or closed since. -/
  | notOpen
  deriving DecidableEq

/-- The statics of the module, and the devices it allocated. -/
structure Module where
  device : Device
  /-- What `set_light` of the device at an address points to. -/
  heap : Nat → Option Light
  /-- `g_init` has run. -/
  gInit : Bool
  /-- How often `g_lock` was initialised. -/
  lockInits : Nat

abbrev ModuleM := Prog Fault Module

def initGlobals : ModuleM Unit := modify fun m => { m with lockInits := m.lockInits + 1 }

/-- `pthread_once(&g_init, init_globals)` -/
def pthreadOnce : ModuleM Unit := do
  if (← get).gInit then return ()
  else
    modify fun m => { m with gInit := true }
    initGlobals

/-- The result and the device, with what `malloc` returns. -/
def openLights (ids : LightIds) (name : String) (malloc : Option Nat) :
    ModuleM (Int × Option Nat) :=
  match lightNamed ids name with
  | none => return (-(EINVAL : Int), none)
  | some light => do
      pthreadOnce
      match malloc with
      | none => throw .noMemory
      | some dev =>
          modify fun m => { m with heap := Function.update m.heap dev (some light) }
          return (0, some dev)

def closeLights (dev : Option Nat) : ModuleM Int :=
  match dev with
  | none => return 0
  | some dev => do
      match (← get).heap dev with
      | none => throw .notOpen
      | some _ =>
          modify fun m => { m with heap := Function.update m.heap dev none }
          return 0

/-- `dev->set_light(dev, state)` -/
def setLightThrough (dev : Nat) (state : LightState) (outcome : Nat → Option Errno) :
    ModuleM Int := do
  let m ← get
  match m.heap dev with
  | none => throw .notOpen
  | some light =>
      let result := perform m.device ⟨light.call state, outcome⟩
      modify fun m => { m with device := result.device }
      return result.ret

/-! ## Uses -/

/-- What a client does with the module. -/
inductive Use
  | openLights (name : String) (malloc : Option Nat)
  | setLight (dev : Nat) (state : LightState) (outcome : Nat → Option Errno)
  | closeLights (dev : Option Nat)

variable {ids : LightIds} {m : Module} {use : Use} {before uses : List Use} {dev : Nat}

def Use.run (ids : LightIds) : Use → ModuleM Unit
  | .openLights name malloc => do
      let _ ← Lights.openLights ids name malloc
  | .setLight dev state outcome => do
      let _ ← setLightThrough dev state outcome
  | .closeLights dev => do
      let _ ← Lights.closeLights dev

def runUses (ids : LightIds) : List Use → ModuleM Unit
  | [] => return ()
  | use :: uses => do
      use.run ids
      runUses ids uses

/-- The module when it is loaded. -/
def Module.loaded : Module := ⟨dark, fun _ => none, false, 0⟩

/-! ## From the history alone -/

/-- What a use makes of the device at an address. -/
def Use.makes (ids : LightIds) (dev : Nat) : Use → Option (Option Light)
  | .openLights name malloc =>
      if malloc = some dev then (lightNamed ids name).map some else none
  | .setLight _ _ _ => none
  | .closeLights dev' => if dev' = some dev then some none else none

/-- The light that the device at an address is open for. -/
def opened (ids : LightIds) (before : List Use) (dev : Nat) : Option Light :=
  (lastWrite (before.map (Use.makes ids dev))).getD none

/-- A use does not go wrong after others. -/
def Use.Safe (ids : LightIds) (before : List Use) : Use → Prop
  | .openLights name malloc => (lightNamed ids name).isSome → malloc.isSome
  | .setLight dev _ _ => (opened ids before dev).isSome
  | .closeLights dev => ∀ d, dev = some d → (opened ids before d).isSome

/-- The call that a use after others comes down to. -/
def Use.call (ids : LightIds) (before : List Use) : Use → Option Event
  | .setLight dev state outcome =>
      (opened ids before dev).map fun light => ⟨light.call state, outcome⟩
  | .openLights _ _ | .closeLights _ => none

/-- Each use of a history with those before it. -/
def inContext (uses : List Use) : List (List Use × Use) :=
  Machine.steps (fun before use => before ++ [use]) [] uses

/-- Every use is safe after those before it. -/
def Disciplined (ids : LightIds) (uses : List Use) : Prop :=
  ∀ p ∈ inContext uses, p.2.Safe ids p.1

def callsMade (ids : LightIds) (uses : List Use) : List Event :=
  (inContext uses).filterMap fun p => p.2.call ids p.1

def Use.opensLight (ids : LightIds) : Use → Bool
  | .openLights name _ => (lightNamed ids name).isSome
  | .setLight _ _ _ | .closeLights _ => false

/-- Where a history leads the module. -/
structure Follows (ids : LightIds) (uses : List Use) (m : Module) : Prop where
  heap : ∀ dev, m.heap dev = opened ids uses dev
  /-- Devices of all names and ages act on the statics as one run of calls. -/
  device : m.device = Machine.after step dark (callsMade ids uses)
  /-- The lock is initialised once, by the first light that is opened. -/
  lock : m.gInit = uses.any (Use.opensLight ids) ∧ m.lockInits = if m.gInit then 1 else 0
  ready : ∀ dev, (m.heap dev).isSome → m.lockInits = 1

/-! ## One use -/

/-- Each light is opened by its own name. -/
theorem lightNamed_eq_some_iff {name : String} {light : Light} :
    lightNamed ids name = some light ↔ ids.text light = name := by
  constructor
  · intro h
    unfold lightNamed at h
    repeat' split at h
    all_goals first | (obtain rfl := Option.some.inj h; assumption) | cases h
  · rintro rfl
    cases light <;> simp [lightNamed, ids.distinct.eq_iff]

theorem opened_concat :
    opened ids (before ++ [use]) dev = (use.makes ids dev).getD (opened ids before dev) := by
  rw [opened, List.map_append, lastWrite_append, List.map_singleton, lastWrite_singleton, opened]
  cases use.makes ids dev <;> rfl

/-- A device stays open for its light through uses that do not open or close at its address. -/
theorem opened_append {between : List Use}
    (hbetween : ∀ use ∈ between, use.makes ids dev = none) :
    opened ids (before ++ between) dev = opened ids before dev := by
  induction between using List.reverseRecOn with
  | nil => rw [List.append_nil]
  | append_singleton between use ih =>
    have huse := hbetween use (List.mem_append_right _ (List.mem_singleton_self use))
    have hrest : ∀ use ∈ between, use.makes ids dev = none :=
      fun use hmem => hbetween use (List.mem_append_left _ hmem)
    rw [← List.append_assoc, opened_concat, huse, Option.getD_none, ih hrest]

theorem inContext_concat : inContext (before ++ [use]) = inContext before ++ [(before, use)] := by
  have hbefore : Machine.after (fun before use => before ++ [use]) [] before = before := by
    induction before using List.reverseRecOn with
    | nil => rfl
    | append_singleton before use ih => rw [Machine.after_append, ih]; rfl
  rw [inContext, Machine.steps_concat, hbefore]
  rfl

theorem callsMade_concat :
    callsMade ids (before ++ [use]) = callsMade ids before ++ (use.call ids before).toList := by
  rw [callsMade, inContext_concat, List.filterMap_append]
  cases hcall : use.call ids before <;> simp [hcall, callsMade]

/-- What is set through a device is a call of the light whose name it was opened by. -/
theorem callsMade_setLight {between : List Use} {light : Light} {state : LightState}
    {outcome : Nat → Option Errno} (hbetween : ∀ use ∈ between, use.makes ids dev = none) :
    callsMade ids (before ++ [.openLights (ids.text light) (some dev)] ++ between ++
        [.setLight dev state outcome]) =
      callsMade ids (before ++ [.openLights (ids.text light) (some dev)] ++ between) ++
        [⟨light.call state, outcome⟩] := by
  have hopened : opened ids (before ++ [.openLights (ids.text light) (some dev)] ++ between) dev =
      some light := by
    rw [opened_append hbetween, opened_concat, Use.makes, if_pos rfl,
      lightNamed_eq_some_iff.mpr rfl]
    rfl
  rw [callsMade_concat, Use.call, hopened]
  rfl

theorem disciplined_concat :
    Disciplined ids (before ++ [use]) ↔ Disciplined ids before ∧ use.Safe ids before := by
  simp only [Disciplined, inContext_concat, List.forall_mem_append, List.forall_mem_singleton]

/-- Only where some light was opened is a device open. -/
theorem opensLight_of_opened (h : (opened ids before dev).isSome) :
    before.any (Use.opensLight ids) = true := by
  induction before using List.reverseRecOn with
  | nil => cases h
  | append_singleton before use ih =>
    rw [List.any_append, Bool.or_eq_true]
    rw [opened_concat] at h
    cases hmakes : use.makes ids dev with
    | none =>
      rw [hmakes] at h
      exact .inl (ih h)
    | some made =>
      rw [hmakes] at h
      right
      cases use with
      | openLights name malloc =>
        obtain ⟨-, hname⟩ := Option.ite_none_right_eq_some.mp hmakes
        obtain ⟨light, hlight, -⟩ := Option.map_eq_some_iff.mp hname
        simp [Use.opensLight, hlight]
      | setLight dev state outcome => cases hmakes
      | closeLights closed =>
        obtain ⟨-, hclosed⟩ := Option.ite_none_right_eq_some.mp hmakes
        obtain rfl := Option.some.inj hclosed
        cases h

theorem Follows.concat {m' : Module} (h : Follows ids before m)
    (hheap : ∀ dev, m'.heap dev = (use.makes ids dev).getD (m.heap dev))
    (hdevice : m'.device = Machine.after step m.device (use.call ids before).toList)
    (hinit : m'.gInit = (m.gInit || use.opensLight ids))
    (hlock : m'.lockInits = if m'.gInit then 1 else 0) : Follows ids (before ++ [use]) m' := by
  have hopened : ∀ dev, m'.heap dev = opened ids (before ++ [use]) dev := by
    intro dev
    rw [hheap, h.heap, opened_concat]
  have hany : m'.gInit = (before ++ [use]).any (Use.opensLight ids) := by
    rw [hinit, h.lock.1, List.any_append, List.any_cons, List.any_nil, Bool.or_false]
  constructor
  · exact hopened
  · rw [hdevice, h.device, callsMade_concat, Machine.after_append]
  · exact ⟨hany, hlock⟩
  · intro dev hopen
    rw [hopened] at hopen
    rw [hlock, hany, opensLight_of_opened hopen]
    rfl

/-- The module after `pthread_once`. -/
def Module.once (m : Module) : Module :=
  if m.gInit then m else { m with gInit := true, lockInits := m.lockInits + 1 }

@[simp] theorem Module.once_heap : m.once.heap = m.heap := by
  unfold Module.once
  split <;> rfl

@[simp] theorem Module.once_device : m.once.device = m.device := by
  unfold Module.once
  split <;> rfl

@[simp] theorem Module.once_gInit : m.once.gInit = true := by
  unfold Module.once
  split
  · assumption
  · rfl

theorem Follows.once_lockInits (h : Follows ids before m) : m.once.lockInits = 1 := by
  have hlock := h.lock.2
  unfold Module.once
  split
  · rename_i hinit
    rw [hlock, if_pos hinit]
  · rename_i hinit
    rw [if_neg hinit] at hlock
    rw [hlock]

theorem exec_pthreadOnce : exec pthreadOnce m = (.ok (), m.once) := by
  rw [pthreadOnce, exec_bind_of_ok exec_get, Module.once]
  split <;> rfl

/-- A safe use is done and leads on, any other goes wrong. -/
inductive Decided (ids : LightIds) (before : List Use) (m : Module) (use : Use) : Prop
  | done (m' : Module) (hsafe : use.Safe ids before) (hrun : exec (use.run ids) m = (.ok (), m'))
      (hfollows : Follows ids (before ++ [use]) m')
  | wrong (fault : Fault) (m' : Module) (hwrong : ¬use.Safe ids before)
      (hrun : exec (use.run ids) m = (.error fault, m'))

theorem decided_openLights (h : Follows ids before m) {name : String} {malloc : Option Nat} :
    Decided ids before m (.openLights name malloc) := by
  cases hname : lightNamed ids name with
  | none =>
    apply Decided.done m
    · intro hknown
      rw [hname] at hknown
      cases hknown
    · simp only [Use.run, Lights.openLights, hname, exec_bind, exec_pure]
    · apply h.concat
      · intro dev
        simp [Use.makes, hname]
      · rfl
      · simp [Use.opensLight, hname]
      · exact h.lock.2
  | some light =>
    cases malloc with
    | none =>
      apply Decided.wrong .noMemory
      · intro hsafe
        cases hsafe (by rw [hname]; rfl)
      · simp only [Use.run, Lights.openLights, hname, exec_bind, exec_pthreadOnce]
        rfl
    | some dev =>
      apply Decided.done { m.once with heap := Function.update m.heap dev (some light) }
      · exact fun _ => rfl
      · simp only [Use.run, Lights.openLights, hname, exec_bind, exec_pthreadOnce, exec_modify,
          exec_pure, Module.once_heap]
      · apply h.concat
        · intro dev'
          by_cases hdev : dev' = dev
          · subst hdev
            simp [Use.makes, hname]
          · have hother : some dev ≠ some dev' := fun heq => hdev (Option.some.inj heq).symm
            simp [Use.makes, hdev, hother]
        · exact Module.once_device
        · simp [Use.opensLight, hname]
        · simp [h.once_lockInits]

theorem decided_setLight (h : Follows ids before m) {state : LightState}
    {outcome : Nat → Option Errno} : Decided ids before m (.setLight dev state outcome) := by
  have hopen := h.heap dev
  cases hlight : opened ids before dev with
  | none =>
    rw [hlight] at hopen
    apply Decided.wrong .notOpen
    · intro hsafe
      rw [Use.Safe, hlight] at hsafe
      cases hsafe
    · simp only [Use.run, setLightThrough, exec_bind, exec_get, hopen]
      rfl
  | some light =>
    rw [hlight] at hopen
    apply Decided.done { m with device := (perform m.device ⟨light.call state, outcome⟩).device }
    · rw [Use.Safe, hlight]
      rfl
    · simp only [Use.run, setLightThrough, exec_bind, exec_get, hopen, exec_modify, exec_pure]
    · apply h.concat
      · exact fun _ => rfl
      · rw [Use.call, hlight]
        rfl
      · exact (Bool.or_false _).symm
      · exact h.lock.2

theorem decided_closeLights (h : Follows ids before m) {closed : Option Nat} :
    Decided ids before m (.closeLights closed) := by
  cases closed with
  | none =>
    apply Decided.done m
    · intro d hd
      cases hd
    · rfl
    · exact h.concat (fun _ => rfl) rfl (Bool.or_false _).symm h.lock.2
  | some dev =>
    have hopen := h.heap dev
    cases hlight : opened ids before dev with
    | none =>
      rw [hlight] at hopen
      apply Decided.wrong .notOpen
      · intro hsafe
        have hsome := hsafe dev rfl
        rw [hlight] at hsome
        cases hsome
      · simp only [Use.run, Lights.closeLights, exec_bind, exec_get, hopen]
        rfl
    | some light =>
      rw [hlight] at hopen
      apply Decided.done { m with heap := Function.update m.heap dev none }
      · intro d hd
        obtain rfl := Option.some.inj hd
        rw [hlight]
        rfl
      · simp only [Use.run, Lights.closeLights, exec_bind, exec_get, hopen, exec_modify, exec_pure]
      · apply h.concat
        · intro dev'
          by_cases hdev : dev' = dev
          · subst hdev
            simp [Use.makes]
          · have hother : some dev ≠ some dev' := fun heq => hdev (Option.some.inj heq).symm
            simp [Use.makes, hdev, hother]
        · rfl
        · exact (Bool.or_false _).symm
        · exact h.lock.2

theorem Follows.decided (h : Follows ids before m) : Decided ids before m use := by
  cases use with
  | openLights name malloc => exact decided_openLights h
  | setLight dev state outcome => exact decided_setLight h
  | closeLights closed => exact decided_closeLights h

/-! ## Runs -/

theorem Disciplined.of_append (h : Disciplined ids (before ++ uses)) : Disciplined ids before := by
  induction uses using List.reverseRecOn with
  | nil => rwa [List.append_nil] at h
  | append_singleton uses use ih =>
    rw [← List.append_assoc] at h
    exact ih (disciplined_concat.mp h).1

theorem follows_loaded : Follows ids [] .loaded := by
  refine ⟨fun _ => rfl, rfl, ⟨rfl, rfl⟩, ?_⟩
  intro dev hopen
  cases hopen

/-- The rest of a history runs to its end exactly if all of its uses are safe. -/
theorem Follows.run (h : Follows ids before m) (hbefore : Disciplined ids before) :
    (Disciplined ids (before ++ uses) ∧
      ∃ m', exec (runUses ids uses) m = (.ok (), m') ∧ Follows ids (before ++ uses) m') ∨
    (¬Disciplined ids (before ++ uses) ∧
      ∃ fault m', exec (runUses ids uses) m = (.error fault, m')) := by
  induction uses generalizing before m with
  | nil =>
    rw [List.append_nil]
    exact .inl ⟨hbefore, m, rfl, h⟩
  | cons use uses ih =>
    rw [runUses, List.append_cons]
    cases @Follows.decided _ _ use _ h with
    | done m' hsafe hrun hfollows =>
      rw [exec_bind_of_ok hrun]
      exact ih hfollows (disciplined_concat.mpr ⟨hbefore, hsafe⟩)
    | wrong fault m' hwrong hrun =>
      refine .inr ⟨?_, fault, m', exec_bind_of_error hrun⟩
      exact fun hall => hwrong (disciplined_concat.mp hall.of_append).2

theorem disciplined_nil : Disciplined ids [] := by
  intro p hp
  cases hp

theorem follows_of_run (hrun : exec (runUses ids uses) .loaded = (.ok (), m)) :
    Follows ids uses m := by
  rcases @Follows.run ids _ [] uses follows_loaded disciplined_nil with
    ⟨-, m', hm', hfollows⟩ | ⟨-, fault, m', hm'⟩
  · rw [hrun] at hm'
    cases hm'
    exact hfollows
  · rw [hrun] at hm'
    cases hm'

/-- The module runs without a fault exactly for clients that open with memory left, and set and
    close only what is open; and then it follows their history. -/
theorem module_follows :
    ((∃ m, exec (runUses ids uses) .loaded = (.ok (), m)) ↔ Disciplined ids uses) ∧
      ∀ m, exec (runUses ids uses) .loaded = (.ok (), m) → Follows ids uses m := by
  refine ⟨?_, fun m => follows_of_run⟩
  rcases @Follows.run ids _ [] uses follows_loaded disciplined_nil with
    ⟨hall, m, hrun, -⟩ | ⟨hwrong, fault, m, hrun⟩
  · exact iff_of_true ⟨m, hrun⟩ hall
  · refine iff_of_false ?_ hwrong
    rintro ⟨m', hm'⟩
    rw [hrun] at hm'
    cases hm'

/-- What is set through a device does to the statics what a call of the light does whose name the
    device was opened by. -/
theorem device_setLight {between : List Use} {light : Light} {state : LightState}
    {outcome : Nat → Option Errno} (hbetween : ∀ use ∈ between, use.makes ids dev = none)
    (hrun : exec (runUses ids (before ++ [.openLights (ids.text light) (some dev)] ++ between ++
      [.setLight dev state outcome])) .loaded = (.ok (), m)) :
    m.device = step (Machine.after step dark
      (callsMade ids (before ++ [.openLights (ids.text light) (some dev)] ++ between)))
        ⟨light.call state, outcome⟩ := by
  rw [(follows_of_run hrun).device, callsMade_setLight hbetween, Machine.after_append]
  rfl

/-- The battery light stays what it is when another light is opened. -/
example {state : LightState} {outcome : Nat → Option Errno} :
    callsMade .header [.openLights "battery" (some 1), .openLights "attention" (some 2),
      .setLight 1 state outcome] = [⟨.led .battery state, outcome⟩] := rfl

end Lights
