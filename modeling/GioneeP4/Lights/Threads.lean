-- SUMMARY: Concurrent calls of the lights module: its functions one access at a time, and what any interleaving under g_lock leaves.
import GioneeP4.Lib.Mutex
import GioneeP4.Lights.Arbitration

/-!
# Concurrent calls

Any number of threads may call the `set_light` functions at once. The functions
below take one step for each access to a static of the module and each sysfs write;
`g_lock` is what keeps the steps of two calls apart. The threads start with devices
already opened, after `init_globals` made the lock.
-/

namespace Lights

open Mutex Arbiter

/-! ## The functions of the module, one access at a time -/

namespace Threaded

abbrev LightsB := Block World

def read {α : Type} (field : World → α) : LightsB α := .atomic fun w => (field w, w)

def store (f : World → World) : LightsB Unit := .atomic fun w => ((), f w)

def writeInt (path : Node) (value : Int) : LightsB Int := .atomic (Lights.writeInt path value)

def writeOnOff (path : Node) (on off : Int) : LightsB Int :=
  .atomic (Lights.writeOnOff path on off)

def setLightBacklight (state : LightState) : LightsB Int := writeInt .lcd (rgbToBrightness state)

def setLightButtons (state : LightState) : LightsB Int :=
  writeInt .ledEnable (rgbToBrightness state)

def writeLedsLocked (led : Option LedConfig) : LightsB Int := do
  let led := led.getD ledOff
  let red := colorByte led.colorRGB 2
  let green := colorByte led.colorRGB 1
  let blue := colorByte led.colorRGB 0
  let _ ← writeInt .rgbLocked 0
  let _ ← writeInt .redLed red
  let _ ← writeInt .greenLed green
  let _ ← writeInt .blueLed blue
  let _ ← writeOnOff .redTimeout led.onMS led.offMS
  let _ ← writeOnOff .greenTimeout led.onMS led.offMS
  let _ ← writeOnOff .blueTimeout led.onMS led.offMS
  let _ ← writeInt .rgbLocked 1
  return 0

theorem le_three_of_succ {i : Nat} (h : i + 1 ≤ 3) : i ≤ 3 := Nat.le_of_succ_le h

theorem toNat_lt_three {type : Int} (h : ¬(type < 0 ∨ 3 ≤ type)) : type.toNat < 3 := by
  omega

theorem toNat_le_three {type : Int} (h : ¬(type < 0 ∨ 3 ≤ type)) : type.toNat ≤ 3 :=
  (toNat_lt_three h).le

/-- The search `for (i = type-1; i >= 0; i--)`. -/
def lowerLit : (n : Nat) → n ≤ 3 → LightsB (Option (Fin 3))
  | 0, _ => return none
  | i + 1, h => do
    let colorRGB ← read fun w => (w.gLeds ⟨i, h⟩).colorRGB
    if colorRGB > 0 then return some ⟨i, h⟩ else lowerLit i (le_three_of_succ h)

/-- The switch on `flashMode`: `led->onMS` and `led->offMS`. -/
def flashTimes (state : LightState) : Int × Int :=
  match state.flashMode with
  | .timed | .hardware => (state.flashOnMS, state.flashOffMS)
  | .none | .other _ => (0, 0)

def setLightLocked (state : LightState) (type : Int) : LightsB Int := do
  if h : type < 0 ∨ 3 ≤ type then
    return -(EINVAL : Int)
  else
    let led : Fin 3 := ⟨type.toNat, toNat_lt_three h⟩
    let times := flashTimes state
    store fun w => w.setLed led { w.gLeds led with onMS := times.1, offMS := times.2 }
    store fun w => w.setLed led { w.gLeds led with colorRGB := state.color &&& 0x00ffffff#32 }
    let colorRGB ← read fun w => (w.gLeds led).colorRGB
    let gCurLed ← read (·.gCurLed)
    if colorRGB > 0 then
      -- This LED is lit.
      if type ≥ gCurLed then
        let err ← writeLedsLocked (some (← read (·.gLeds led)))
        store fun w => w.setCursor type
        return err
      else
        return 0
    else
      -- This LED is not (any longer) lit.
      if type = gCurLed then
        match ← lowerLit type.toNat (toNat_le_three h) with
        | some i =>
            let err ← writeLedsLocked (some (← read (·.gLeds i)))
            store fun w => w.setCursor (i : Nat)
            return err
        | none =>
            let err ← writeLedsLocked none
            store fun w => w.setCursor (-1)
            return err
      else
        return 0

def setLightBattery (state : LightState) : LightsB Int := do
  let _ ← setLightLocked state 0
  return 0

def setLightNotifications (state : LightState) : LightsB Int := do
  let _ ← setLightLocked state 1
  return 0

def setLightAttention (state : LightState) : LightsB Int := do
  let _ ← setLightLocked (fixAttention state) 2
  return 0

def setLight : Call → LightsB Int
  | .led .battery state => setLightBattery state
  | .led .notifications state => setLightNotifications state
  | .led .attention state => setLightAttention state
  | .backlight state => setLightBacklight state
  | .buttons state => setLightButtons state

/-- What a call does while it has the lock. Its writes are counted from its start. -/
def body (e : Event) : LightsB Int := do
  store fun w => w.toDevice.enter e.outcome
  setLight e.call

/-! ### They do what the functions do at once -/

variable {w : World}

@[simp] theorem exec_read {α : Type} {field : World → α} :
    (read field).exec w = (field w, w) := rfl

@[simp] theorem exec_store {f : World → World} : (store f).exec w = ((), f w) := rfl

@[simp] theorem exec_writeInt {path : Node} {value : Int} :
    (writeInt path value).exec w = Lights.writeInt path value w := rfl

@[simp] theorem exec_writeOnOff {path : Node} {on off : Int} :
    (writeOnOff path on off).exec w = Lights.writeOnOff path on off w := rfl

@[simp] theorem exec_writeLedsLocked {led : Option LedConfig} :
    (writeLedsLocked led).exec w = Lights.writeLedsLocked led w := rfl

@[simp] theorem exec_lowerLit {n : Nat} {h : n ≤ 3} :
    (lowerLit n h).exec w = (Lights.lowerLit w.gLeds n h, w) := by
  induction n with
  | zero => rfl
  | succ n ih =>
    rw [lowerLit, Lights.lowerLit, Block.exec_bind, exec_read]
    simp only
    split
    · rfl
    · exact ih

/-- The two stores leave the configuration of the request. -/
theorem setLed_setLed {state : LightState} {i : Fin 3} :
    let stored := w.setLed i { w.gLeds i with
      onMS := (flashTimes state).1, offMS := (flashTimes state).2 }
    stored.setLed i { stored.gLeds i with colorRGB := state.color &&& 0x00ffffff#32 } =
      w.setLed i (ledConfigOf state) := by
  have hconfig : (⟨state.color &&& 0x00ffffff#32, (flashTimes state).1, (flashTimes state).2⟩ :
      LedConfig) = ledConfigOf state := by
    unfold flashTimes ledConfigOf
    cases state.flashMode <;> rfl
  simp [World.setLed, hconfig]

theorem exec_setLightLocked {state : LightState} {type : Int} :
    (setLightLocked state type).exec w = Lights.setLightLocked state type w := by
  unfold setLightLocked Lights.setLightLocked
  split
  · rfl
  · rw [Block.exec_bind, exec_store, Block.exec_bind, exec_store, setLed_setLed, Block.exec_bind,
      exec_read, Block.exec_bind, exec_read]
    simp only [bind, StateT.bind, modify, modifyGet, MonadStateOf.modifyGet, StateT.modifyGet, get,
      getThe, MonadStateOf.get, StateT.get, pure]
    generalize w.setLed _ (ledConfigOf state) = stored
    by_cases hlit : (stored.gLeds ⟨type.toNat, by omega⟩).colorRGB > 0
    · rw [if_pos hlit, if_pos hlit]
      by_cases hge : type ≥ stored.gCurLed
      · rw [if_pos hge, if_pos hge]
        rfl
      · rw [if_neg hge, if_neg hge]
        rfl
    · rw [if_neg hlit, if_neg hlit]
      by_cases heq : type = stored.gCurLed
      · rw [if_pos heq, if_pos heq]
        change (lowerLit type.toNat _ >>= _ : LightsB Int).exec stored = _
        rw [Block.exec_bind, exec_lowerLit]
        cases Lights.lowerLit stored.gLeds type.toNat _ <;> rfl
      · rw [if_neg heq, if_neg heq]
        rfl

theorem exec_setLight {call : Call} : (setLight call).exec w = Lights.setLight call w := by
  have hled : ∀ state type, (setLightLocked state type >>= fun _ => pure (0 : Int)).exec w =
      ((Lights.setLightLocked state type >>= fun _ => pure (0 : Int)) : LightsM Int) w := by
    intro state type
    rw [Block.exec_bind, exec_setLightLocked]
    rfl
  cases call with
  | led source state => cases source <;> exact hled _ _
  | backlight state => rfl
  | buttons state => rfl

theorem exec_body {e : Event} :
    (body e).exec w = Lights.setLight e.call (w.toDevice.enter e.outcome) := by
  rw [body, Block.exec_bind, exec_store, exec_setLight]

/-- What a call does while it has the lock is what it does at once. -/
theorem perform_body {e : Event} :
    perform w.toDevice e =
      ⟨((body e).exec w).1, ((body e).exec w).2.writes, ((body e).exec w).2.toDevice⟩ := by
  rw [exec_body]
  rfl

/-! ### They take few steps -/

theorem length_writeLedsLocked {led : Option LedConfig} :
    (writeLedsLocked led).length w = 8 := rfl

theorem length_lowerLit {n : Nat} {h : n ≤ 3} : (lowerLit n h).length w ≤ n := by
  induction n with
  | zero => exact Nat.le_refl 0
  | succ n ih =>
    rw [lowerLit, Block.length_bind, exec_read]
    have hread : (read fun w : World => (w.gLeds ⟨n, h⟩).colorRGB).length w = 1 := rfl
    rw [hread, Nat.add_comm]
    apply Nat.succ_le_succ
    simp only
    split
    · exact Nat.zero_le n
    · exact ih

@[simp] theorem length_read {α : Type} {field : World → α} : (read field).length w = 1 := rfl

@[simp] theorem length_store {f : World → World} : (store f).length w = 1 := rfl

theorem length_setLightLocked {state : LightState} {type : Int} :
    (setLightLocked state type).length w ≤ 16 := by
  unfold setLightLocked
  split
  · exact Nat.zero_le 16
  · rename_i hrange
    have hsearch := @length_lowerLit
    rw [Block.length_bind, exec_store, Block.length_bind, exec_store, setLed_setLed,
      Block.length_bind, exec_read, Block.length_bind, exec_read]
    simp only [length_store, length_read]
    generalize World.setLed _ _ _ = stored
    by_cases hlit : (stored.gLeds ⟨type.toNat, by omega⟩).colorRGB > 0
    · rw [if_pos hlit]
      by_cases hge : type ≥ stored.gCurLed
      · rw [if_pos hge]
        simp [length_writeLedsLocked]
      · rw [if_neg hge]
        simp
    · rw [if_neg hlit]
      by_cases heq : type = stored.gCurLed
      · rw [if_pos heq, Block.length_bind, exec_lowerLit]
        have hle : (lowerLit type.toNat (by omega)).length stored ≤ type.toNat := length_lowerLit
        cases Lights.lowerLit stored.gLeds type.toNat _ with
        | none =>
          simp [length_writeLedsLocked]
          omega
        | some i =>
          simp [length_writeLedsLocked]
          omega
      · rw [if_neg heq]
        simp

/-- A call takes at most seventeen steps while it has the lock. -/
theorem length_body {e : Event} : (body e).length w ≤ 17 := by
  have hled : ∀ state type w,
      (setLightLocked state type >>= fun _ => pure (0 : Int)).length w ≤ 16 := by
    intro state type w
    rw [Block.length_bind]
    exact length_setLightLocked
  rw [body, Block.length_bind, length_store, Nat.add_comm]
  apply Nat.succ_le_succ
  cases e.call with
  | led source state => cases source <;> exact hled _ _ _
  | backlight state => exact Nat.le_of_ble_eq_true rfl
  | buttons state => exact Nat.le_of_ble_eq_true rfl

end Threaded

/-! ## Any number of threads -/

section Threads

variable {ι : Type} [DecidableEq ι]

/-- The dark module before any call. -/
def initial : World := dark.enter fun _ => none

/-- The threads after a schedule, each with the calls it makes. -/
def clients (programs : ι → List Event) (schedule : List ι) : Mutex.Threads ι Event World Int :=
  (Threads.start initial programs).run Threaded.body schedule

/-- The call of a thread, at once. -/
def serialStep (d : Device) (call : ι × Event) : Device := step d call.2

/-- What calls return when they are made one after the other. -/
def serialResults (calls : List (ι × Event)) : List (ι × Event × Int) :=
  (Machine.steps serialStep dark calls).map fun (d, i, e) => (i, e, (perform d e).ret)

omit [DecidableEq ι] in
theorem toDevice_serial {w : World} {call : ι × Event} :
    (serial Threaded.body w call).toDevice = serialStep w.toDevice call := by
  rw [serialStep, step, Threaded.perform_body]
  rfl

omit [DecidableEq ι] in
theorem toDevice_after_serial {w : World} {calls : List (ι × Event)} :
    (Machine.after (serial Threaded.body) w calls).toDevice =
      Machine.after serialStep w.toDevice calls := by
  have hsim : (Machine.after (serial Threaded.body) w calls).toDevice =
      Machine.after serialStep w.toDevice (calls.map id) :=
    Machine.after_simulates (P := fun _ => True) trivial (fun _ _ _ _ => trivial)
      fun _ _ _ _ => toDevice_serial
  rwa [List.map_id] at hsim

omit [DecidableEq ι] in
theorem results_eq_serialResults {calls : List (ι × Event)} :
    results Threaded.body initial calls = serialResults calls := by
  have hsteps : (Machine.steps (serial Threaded.body) initial calls).map
      (Prod.map World.toDevice id) = Machine.steps serialStep initial.toDevice (calls.map id) :=
    Machine.steps_simulates fun _ _ => toDevice_serial
  rw [List.map_id] at hsteps
  have hdark : initial.toDevice = dark := rfl
  rw [serialResults, ← hdark, ← hsteps, List.map_map, results]
  apply List.map_congr_left
  rintro ⟨w, i, e⟩ -
  simp only [Function.comp_apply, Prod.map_apply, id_eq, Threaded.perform_body]

/-- The threads have the device as their calls leave it one after the other, in the order in which
    they got the lock. -/
structure OneAfterTheOther (programs : ι → List Event)
    (sys : Mutex.Threads ι Event World Int) : Prop where
  exclusive : ∀ i j e e' rest rest', sys.phase i = .inside e rest → sys.phase j = .inside e' rest' →
    i = j
  order : ∀ i, callsOf sys.acquired i ++ ((sys.phase i).pending ++ sys.todo i) = programs i
  free : sys.holder = none → sys.shared.toDevice = Machine.after serialStep dark sys.acquired
  /-- A call on its way gets where it would have got at once. -/
  held : ∀ i e rest, sys.phase i = .inside e rest →
    (rest.exec sys.shared).2.toDevice = Machine.after serialStep dark sys.acquired
  /-- All calls have returned but the one that has the lock. -/
  returned : ∃ before, before <+: sys.acquired ∧ sys.acquired.length ≤ before.length + 1 ∧
    sys.returned = serialResults before

theorem oneAfterTheOther {programs : ι → List Event} {sys : Mutex.Threads ι Event World Int}
    (h : Serialized Threaded.body initial programs sys) : OneAfterTheOther programs sys where
  exclusive i j e e' rest rest' := h.eq_of_inside
  order := h.order
  free hfree := by
    rw [(h.free hfree).1]
    exact toDevice_after_serial
  held i e rest hphase := by
    obtain ⟨before, hacquired, -, hexec⟩ := h.inside hphase
    rw [hexec, hacquired, Machine.after_append]
    exact toDevice_serial.trans (congrArg (serialStep · (i, e)) toDevice_after_serial)
  returned := by
    obtain ⟨before, hprefix, hlength, hreturned⟩ := h.returned_eq
    exact ⟨before, hprefix, hlength, hreturned.trans results_eq_serialResults⟩

/-- Calls are atomic. Whatever the schedule of the threads and the fate of their writes, they did
    their calls one after the other in an order that is never changed later on. -/
theorem calls_serialize (programs : ι → List Event) (schedule later : List ι) :
    OneAfterTheOther programs (clients programs schedule) ∧
      (clients programs schedule).acquired <+: (clients programs (schedule ++ later)).acquired := by
  constructor
  · exact oneAfterTheOther (serializes schedule)
  · simp only [clients, Threads.run, Machine.after_append]
    exact acquired_prefix_run later

/-! ## Calls whose writes succeed -/

theorem perform_ok {d : Device} {call : Call} : (perform d (.ok call)).ret = 0 := by
  cases call with
  | led source state =>
    rw [Event.ok, perform_led]
  | backlight state => rfl
  | buttons state => rfl

omit [DecidableEq ι] in
theorem serialResults_ok {calls : List (ι × Call)} :
    serialResults (calls.map fun p => (p.1, .ok p.2)) =
      calls.map fun (i, call) => (i, .ok call, 0) := by
  have hsnd : (Machine.steps serialStep dark
      (calls.map fun p => (p.1, Event.ok p.2))).map Prod.snd =
        calls.map fun p => (p.1, Event.ok p.2) := Machine.map_snd_steps
  have hreturns : ∀ p ∈ Machine.steps serialStep dark
      (calls.map fun p => (p.1, Event.ok p.2)),
      (fun (d, i, e) => (i, e, (perform d e).ret) : Device × ι × Event → ι × Event × Int) p =
        (p.2.1, p.2.2, 0) := by
    rintro ⟨d, i, e⟩ hp
    have hmem : (i, e) ∈ calls.map fun p => (p.1, Event.ok p.2) :=
      hsnd ▸ List.mem_map_of_mem (f := Prod.snd) hp
    obtain ⟨⟨j, call⟩, -, heq⟩ := List.mem_map.mp hmem
    obtain ⟨rfl, rfl⟩ := Prod.mk.inj heq
    simp only [perform_ok]
  rw [serialResults, List.map_congr_left hreturns]
  have hmap := congrArg (List.map fun p : ι × Event => (p.1, p.2, (0 : Int))) hsnd
  rw [List.map_map, List.map_map] at hmap
  exact hmap

/-- What threads leave that have made their calls and got them all returned. -/
structure Settled (programs : ι → List Call) (sys : Mutex.Threads ι Event World Int)
    (calls : List (ι × Call)) : Prop where
  merge : ∀ i, callsOf calls i = programs i
  returned : sys.returned = calls.map fun (i, call) => (i, .ok call, 0)
  cursor : sys.shared.gCurLed =
    cursorIndex (winner (asks (latestRequest (calls.map Prod.snd))))
  shows : Shows sys.shared.content (display (latestRequest (calls.map Prod.snd)))

/-- Arbitration between threads. When every thread keeps getting its turn and all writes succeed,
    all calls return 0, and the LED shows the winner of the requests as merged in some order. -/
theorem threads_settle [Fintype ι] {programs : ι → List Call} {rounds : List (List ι)}
    (hrounds : ∀ round ∈ rounds, ∀ i, i ∈ round)
    (hlong : ∑ i, (programs i).length * 20 ≤ rounds.length) :
    ∃ calls, Settled programs (clients (fun i => (programs i).map .ok) rounds.flatten) calls := by
  have hserialized : Serialized Threaded.body initial (fun i => (programs i).map .ok)
      (clients (fun i => (programs i).map .ok) rounds.flatten) := serializes rounds.flatten
  have hfinished : Threads.Finished (clients (fun i => (programs i).map .ok) rounds.flatten) := by
    apply finishes (c := 17) (fun e w => Threaded.length_body) hrounds
    simpa using hlong
  generalize clients (fun i => (programs i).map .ok) rounds.flatten = sys at hserialized hfinished
  have hfree : sys.holder = none := hserialized.free_of_finished hfinished
  have hmerge : ∀ i, callsOf sys.acquired i = (programs i).map Event.ok := by
    intro i
    have horder := hserialized.order i
    rw [(hfinished i).1, (hfinished i).2] at horder
    simpa [Phase.pending] using horder
  -- the calls in order, without the fate of their writes
  obtain ⟨calls, hcalls⟩ : ∃ calls : List (ι × Call),
      sys.acquired = calls.map fun p => (p.1, Event.ok p.2) := by
    refine ⟨sys.acquired.map fun p => (p.1, p.2.call), ?_⟩
    rw [List.map_map]
    apply (List.map_id _).symm.trans
    apply List.map_congr_left
    rintro ⟨i, e⟩ hmem
    obtain ⟨call, -, rfl⟩ := List.mem_map.mp (hmerge i ▸ mem_callsOf.mpr hmem)
    rfl
  have hdevice : sys.shared.toDevice =
      Machine.after step dark ((calls.map Prod.snd).map Event.ok) := by
    rw [(oneAfterTheOther hserialized).free hfree, hcalls]
    simp only [Machine.after, List.foldl_map]
    rfl
  have htracks := tracks_after ((calls.map Prod.snd).map Event.ok)
  have hrequests : ((calls.map Prod.snd).map Event.ok).map Event.call = calls.map Prod.snd := by
    rw [List.map_map]
    exact List.map_id _
  rw [← hdevice, hrequests] at htracks
  have hled := ledOk_after (calls.map Prod.snd)
  rw [← hdevice] at hled
  refine ⟨calls, ?_, ?_, ?_, ?_⟩
  · intro i
    have hcallsOf := hmerge i
    rw [hcalls, callsOf_map] at hcallsOf
    exact List.map_injective_iff.mpr (fun _ _ h => congrArg Event.call h) hcallsOf
  · rw [(hserialized.free hfree).2, results_eq_serialResults, hcalls, serialResults_ok]
  · rw [← htracks.table]
    exact htracks.cursor
  · rw [← htracks.table]
    exact hled

/-- A thread that lights the battery's LED and one that lights the one of attention. -/
theorem threads_settle_two :
    let programs : Bool → List Call := fun attention =>
      if attention then [.led .attention ⟨0xff0000ff, .timed, 500, 500⟩]
      else [.led .battery ⟨0xff00ff00, .none, 0, 0⟩]
    let rounds : List (List Bool) := List.replicate 40 [false, true]
    ∃ calls, Settled programs (clients (fun i => (programs i).map .ok) rounds.flatten) calls :=
  threads_settle (by simp) (by decide)

end Threads

end Lights
