-- SUMMARY: The lights HAL module: sysfs writes with failures, the shared notification LED, and one call of the module.
import GioneeP4.Lib.Machine
import Mathlib.Data.PNat.Defs
import Mathlib.Logic.Function.Basic

/-!
# The lights device

Embeds `liblight/lights.c`. The three notification sources (battery,
notifications, attention) share one physical RGB LED; the backlight and the
button light have a node of their own. A call runs under `g_lock`, so calls are
atomic and a run is a sequence of calls.

Every sysfs write can fail, at `open` or at `write`; both paths return `-errno`
and leave the node as it was. The `already_warned` flags only guard log lines
and are left out.
-/

namespace Lights

/-! ## Data -/

/-- The sysfs nodes the module writes. -/
inductive Node where
  | lcd
  | redLed | greenLed | blueLed
  | redTimeout | greenTimeout | blueTimeout
  | rgbLocked
  | ledEnable
  deriving DecidableEq

/-- What a write puts into a node: the arguments of the format `%d\n` of
    `write_int` or `%d %d\n` of `write_on_off`. -/
inductive Payload where
  | int (value : Int)
  | onOff (on off : Int)
  deriving DecidableEq

/-- `errno` after a failed call. -/
abbrev Errno := ℕ+

def EINVAL : Errno := 22

/-- `flashMode` of a `light_state_t`: one of the three constants of the HAL
    header, or any other value. -/
inductive FlashMode where
  | none
  | timed
  | hardware
  | other (value : Int)
  deriving DecidableEq

/-- `struct light_state_t`, the fields the module reads. -/
structure LightState where
  color : BitVec 32
  flashMode : FlashMode
  flashOnMS : Int
  flashOffMS : Int
  deriving DecidableEq

/-- `struct led_config`. -/
structure LedConfig where
  colorRGB : BitVec 32
  onMS : Int
  offMS : Int
  deriving DecidableEq

/-- The zero-initialised configuration, also the `led_off` of `write_leds_locked`. -/
def ledOff : LedConfig := ⟨0, 0, 0⟩

/-- The statics of the module and what the sysfs nodes hold. -/
structure Device where
  gLeds : Fin 3 → LedConfig
  gCurLed : Int
  content : Node → Payload

/-- One attempted sysfs write and its `errno`, if it failed. -/
structure Write where
  node : Node
  value : Payload
  error : Option Errno
  deriving DecidableEq

/-- The device during one call: `outcome n` is the fate of the call's `n`-th
    write, `writes` the writes attempted so far. -/
structure World extends Device where
  outcome : Nat → Option Errno
  writes : List Write

abbrev LightsM := StateM World

/-- The assignment `g_leds[i] = cfg`. -/
def World.setLed (w : World) (i : Fin 3) (cfg : LedConfig) : World :=
  { w with gLeds := Function.update w.gLeds i cfg }

/-- The assignment `g_cur_led = i`. -/
def World.setCursor (w : World) (i : Int) : World := { w with gCurLed := i }

/-! ## Sysfs writes -/

/-- The common body of `write_int` and `write_on_off`. -/
def writeNode (path : Node) (text : Payload) : LightsM Int := fun w =>
  match w.outcome w.writes.length with
  | none =>
      (0, { w with
        content := Function.update w.content path text
        writes := w.writes ++ [⟨path, text, none⟩] })
  | some errno => (-(errno : Int), { w with writes := w.writes ++ [⟨path, text, some errno⟩] })

def writeInt (path : Node) (value : Int) : LightsM Int := writeNode path (.int value)

def writeOnOff (path : Node) (on off : Int) : LightsM Int := writeNode path (.onOff on off)

/-! ## Backlight and buttons -/

/-- Byte `n` of a colour word, as the `(colour >> 8 n) & 0xff` of the source. -/
def colorByte (color : BitVec 32) (n : Nat) : Int := ((color >>> (8 * n)) &&& 0xff#32).toNat

def rgbToBrightness (state : LightState) : Int :=
  let color := state.color &&& 0x00ffffff#32
  (77 * colorByte color 2 + 150 * colorByte color 1 + 29 * colorByte color 0) >>> (8 : Nat)

def setLightBacklight (state : LightState) : LightsM Int := do
  let brightness := rgbToBrightness state
  writeInt .lcd brightness

def setLightButtons (state : LightState) : LightsM Int := do
  let brightness := rgbToBrightness state
  writeInt .ledEnable brightness

/-! ## The notification LED -/

/-- `led == NULL` stands for the LED switched off. The results of the eight
    writes are dropped. -/
def writeLedsLocked (led : Option LedConfig) : LightsM Int := do
  let led := led.getD ledOff
  let red := colorByte led.colorRGB 2
  let green := colorByte led.colorRGB 1
  let blue := colorByte led.colorRGB 0
  let _ ← writeInt .rgbLocked 0
  let _ ← writeInt .redLed red
  let _ ← writeInt .greenLed green
  let _ ← writeInt .blueLed blue
  let _ ← writeOnOff .redTimeout led.onMS led.offMS
  let _ ← writeOnOff .greenTimeout led.onMS led.offMS
  let _ ← writeOnOff .blueTimeout led.onMS led.offMS
  let _ ← writeInt .rgbLocked 1
  return 0

/-- The search `for (i = type-1; i >= 0; i--)` for a lit LED below index `n`;
    `none` when the loop runs off the end with `i == -1`. -/
def lowerLit (leds : Fin 3 → LedConfig) : (n : Nat) → n ≤ 3 → Option (Fin 3)
  | 0, _ => none
  | i + 1, h =>
      if (leds ⟨i, h⟩).colorRGB > 0 then some ⟨i, h⟩ else lowerLit leds i (Nat.le_of_succ_le h)

/-- The configuration a request asks for: `led->onMS`, `led->offMS` from the
    switch on `flashMode`, and the masked colour. -/
def ledConfigOf (state : LightState) : LedConfig :=
  match state.flashMode with
  | .timed | .hardware => ⟨state.color &&& 0x00ffffff#32, state.flashOnMS, state.flashOffMS⟩
  | .none | .other _ => ⟨state.color &&& 0x00ffffff#32, 0, 0⟩

def setLightLocked (state : LightState) (type : Int) : LightsM Int := do
  if h : type < 0 ∨ 3 ≤ type then
    return -(EINVAL : Int)
  else
    let led : Fin 3 := ⟨type.toNat, by omega⟩
    modify fun w => w.setLed led (ledConfigOf state)
    let gLeds := (← get).gLeds
    let gCurLed := (← get).gCurLed
    if (gLeds led).colorRGB > 0 then
      -- This LED is lit.
      if type ≥ gCurLed then
        let err ← writeLedsLocked (some (gLeds led))
        modify fun w => w.setCursor type
        return err
      else
        return 0
    else
      -- This LED is not (any longer) lit.
      if type = gCurLed then
        match lowerLit gLeds type.toNat (by omega) with
        | some i =>
            let err ← writeLedsLocked (some (gLeds i))
            modify fun w => w.setCursor (i : Nat)
            return err
        | none =>
            let err ← writeLedsLocked none
            modify fun w => w.setCursor (-1)
            return err
      else
        return 0

def setLightBattery (state : LightState) : LightsM Int := do
  let _ ← setLightLocked state 0
  return 0

def setLightNotifications (state : LightState) : LightsM Int := do
  let _ ← setLightLocked state 1
  return 0

/-- The fix-ups `set_light_attention` makes on its copy of the request. -/
def fixAttention (state : LightState) : LightState :=
  match state.flashMode with
  | .none => { state with color := 0 }
  | .hardware =>
      if state.flashOnMS > 0 ∧ state.flashOffMS = 0 then { state with flashMode := .none }
      else state
  | .timed | .other _ => state

def setLightAttention (state : LightState) : LightsM Int := do
  let fixed := fixAttention state
  let _ ← setLightLocked fixed 2
  return 0

/-! ## Calls and runs -/

/-- The sources multiplexed onto the LED. -/
inductive Source where
  | battery
  | notifications
  | attention
  deriving DecidableEq

/-- The `type` a source passes to `set_light_locked`. -/
def Source.type : Source → Fin 3
  | .battery => 0
  | .notifications => 1
  | .attention => 2

/-- A call of one of the `set_light` functions `open_lights` hands out. -/
inductive Call where
  | led (source : Source) (state : LightState)
  | backlight (state : LightState)
  | buttons (state : LightState)
  deriving DecidableEq

def setLight : Call → LightsM Int
  | .led .battery state => setLightBattery state
  | .led .notifications state => setLightNotifications state
  | .led .attention state => setLightAttention state
  | .backlight state => setLightBacklight state
  | .buttons state => setLightButtons state

/-- A call together with the fate of the sysfs writes it performs. -/
structure Event where
  call : Call
  outcome : Nat → Option Errno

/-- What a call returns, the writes it attempted, and the device it leaves. -/
structure Result where
  ret : Int
  writes : List Write
  device : Device

def perform (d : Device) (e : Event) : Result :=
  let (ret, w) := setLight e.call { d with outcome := e.outcome, writes := [] }
  ⟨ret, w.writes, w.toDevice⟩

def step (d : Device) (e : Event) : Device := (perform d e).device

/-- The device after the module is loaded, with the LED dark. -/
def dark : Device where
  gLeds := fun _ => ledOff
  gCurLed := -1
  content := fun
    | .redTimeout | .greenTimeout | .blueTimeout => .onOff 0 0
    | _ => .int 0

/-- A call all of whose sysfs writes succeed. -/
def Event.ok (call : Call) : Event := ⟨call, fun _ => none⟩

end Lights
