-- SUMMARY: The brightness of the backlight and of the buttons: a weighted mean of the channels of the colour, computed without overflow.
import GioneeP4.Lib.CInt
import GioneeP4.Lib.WeightedMean
import GioneeP4.Lights.Calls

/-!
# Brightness

`rgb_to_brightness` weighs the three channels of a colour. The weights add up to
the divisor, 256, so the result is their mean; the backlight and the button light
write it to their nodes.
-/

namespace Lights

open WeightedMean CInt

variable {state : LightState}

/-! ## Channels -/

inductive Channel where
  | red
  | green
  | blue
  deriving DecidableEq

instance : Fintype Channel where
  elems := {.red, .green, .blue}
  complete c := by cases c <;> decide

/-- The number of a channel's byte in a colour. -/
def Channel.index : Channel → Nat
  | .red => 2
  | .green => 1
  | .blue => 0

def channel (color : BitVec 32) (c : Channel) : BitVec 8 := color.extractLsb' (8 * c.index) 8

theorem sum_channels {f : Channel → ℕ} : ∑ c, f c = f .red + f .green + f .blue := by
  rw [Nat.add_assoc]
  rfl

/-- What is read of a masked colour is the channel's byte. -/
theorem colorByte_masked {color : BitVec 32} {c : Channel} :
    colorByte (color &&& 0x00ffffff#32) c.index = ((channel color c).toNat : Int) := by
  have hmask : (color &&& 0x00ffffff#32).toNat = color.toNat % 2 ^ 24 :=
    Nat.and_two_pow_sub_one_eq_mod _ 24
  have hbyte : ∀ k, k &&& 255 = k % 2 ^ 8 := fun k => Nat.and_two_pow_sub_one_eq_mod k 8
  have hshift : color.toNat % 2 ^ 24 / 2 ^ (8 * c.index) % 2 ^ 8 =
      color.toNat / 2 ^ (8 * c.index) % 2 ^ 8 := by
    cases c <;> simp only [Channel.index] <;> omega
  simp only [colorByte, channel, BitVec.toNat_and, BitVec.toNat_ushiftRight, hmask,
    BitVec.extractLsb'_toNat, Nat.shiftRight_eq_div_pow]
  rw [← hshift]
  exact congrArg Nat.cast (hbyte _)

/-! ## The mean -/

/-- The weights of `rgb_to_brightness`. -/
def weight : Channel → ℕ
  | .red => 77
  | .green => 150
  | .blue => 29

theorem sum_weight : ∑ c, weight c = 256 := by rw [sum_channels]; rfl

/-- The source computes with the bytes of the channels. -/
theorem rgbToBrightness_eq :
    rgbToBrightness state =
      (77 * ((channel state.color .red).toNat : Int) + 150 * (channel state.color .green).toNat +
        29 * (channel state.color .blue).toNat) >>> (8 : Nat) := by
  simp only [rgbToBrightness, ← colorByte_masked, Channel.index]

theorem rgbToBrightness_eq_mean :
    rgbToBrightness state = (mean weight fun c => (channel state.color c).toNat : ℕ) := by
  rw [rgbToBrightness_eq, mean, sum_weight, sum_channels]
  simp only [weight, Int.shiftRight_eq_div_pow]
  push_cast
  rfl

/-! ## In 32 bits -/

/-- `rgb_to_brightness` in 32-bit `int`s, whose shifts carry the sign. -/
def rgbToBrightnessInt (state : LightState) : Option (BitVec 32) := do
  let color := state.color &&& 0x00ffffff#32
  let red ← mul 77#32 (color.sshiftRight 16 &&& 0xff#32)
  let green ← mul 150#32 (color.sshiftRight 8 &&& 0xff#32)
  let sum ← add red green
  let blue ← mul 29#32 (color &&& 0xff#32)
  let sum ← add sum blue
  return sum.sshiftRight 8

/-- A byte of a masked colour, as an `int`. -/
theorem toInt_byte {color : BitVec 32} {c : Channel} :
    ((color &&& 0x00ffffff#32).sshiftRight (8 * c.index) &&& 0xff#32).toInt =
      ((channel color c).toNat : Int) := by
  have hmsb : (color &&& 0x00ffffff#32).msb = false := by
    rw [BitVec.msb_and]
    exact Bool.and_false _
  have hmsb' : ((color &&& 0x00ffffff#32) >>> (8 * c.index) &&& 0xff#32).msb = false := by
    rw [BitVec.msb_and]
    exact Bool.and_false _
  rw [BitVec.sshiftRight_eq_of_msb_false hmsb, BitVec.toInt_eq_toNat_of_msb hmsb',
    ← colorByte_masked]
  rfl

/-- No step of the computation overflows. -/
theorem gives_rgbToBrightness : Gives (rgbToBrightnessInt state) (rgbToBrightness state) := by
  have hred := (channel state.color .red).isLt
  have hgreen := (channel state.color .green).isLt
  have hblue := (channel state.color .blue).isLt
  have hredByte := @toInt_byte state.color .red
  have hgreenByte := @toInt_byte state.color .green
  have hblueByte : ((state.color &&& 0x00ffffff#32) &&& 0xff#32).toInt =
      ((channel state.color .blue).toNat : Int) := by
    rw [← toInt_byte, Channel.index, Nat.mul_zero, BitVec.sshiftRight_zero]
  have h77 : (77#32).toInt = 77 := rfl
  have h150 : (150#32).toInt = 150 := rfl
  have h29 : (29#32).toInt = 29 := rfl
  rw [rgbToBrightness_eq]
  apply (gives_mul h77 hredByte ⟨by omega, by omega⟩).bind
  intro red hredValue
  apply (gives_mul h150 hgreenByte ⟨by omega, by omega⟩).bind
  intro green hgreenValue
  apply (gives_add hredValue hgreenValue ⟨by omega, by omega⟩).bind
  intro sum hsumValue
  apply (gives_mul h29 hblueByte ⟨by omega, by omega⟩).bind
  intro blue hblueValue
  apply (gives_add hsumValue hblueValue ⟨by omega, by omega⟩).bind
  intro total htotalValue
  exact gives_pure (by rw [BitVec.toInt_sshiftRight, htotalValue])

/-! ## A proper mean -/

def darkest (color : BitVec 32) : ℕ :=
  min (channel color .red).toNat (min (channel color .green).toNat (channel color .blue).toNat)

def brightest (color : BitVec 32) : ℕ :=
  max (channel color .red).toNat (max (channel color .green).toNat (channel color .blue).toNat)

/-- A brightness that is a proper mean of the channels of the colour. -/
structure ProperMean (brightness : LightState → Int) : Prop where
  atLeast : ∀ state, (darkest state.color : Int) ≤ brightness state
  atMost : ∀ state, brightness state ≤ brightest state.color
  isByte : ∀ state, 0 ≤ brightness state ∧ brightness state ≤ 255
  ignoresTop : ∀ state state', state.color.extractLsb' 0 24 = state'.color.extractLsb' 0 24 →
    brightness state = brightness state'
  monotone : ∀ c state state', (∀ d ≠ c, channel state.color d = channel state'.color d) →
    channel state.color c ≤ channel state'.color c → brightness state ≤ brightness state'
  grey : ∀ v state, (∀ c, channel state.color c = v) → brightness state = v.toNat

theorem darkest_le {color : BitVec 32} {c : Channel} : darkest color ≤ (channel color c).toNat := by
  cases c <;> simp [darkest]

theorem le_brightest {color : BitVec 32} {c : Channel} :
    (channel color c).toNat ≤ brightest color := by
  cases c <;> simp [brightest]

/-- The channels lie in the lower 24 bits. -/
theorem channel_congr {color color' : BitVec 32} {c : Channel}
    (h : color.extractLsb' 0 24 = color'.extractLsb' 0 24) : channel color c = channel color' c := by
  have hlow : ∀ x : BitVec 32, channel x c = (x.extractLsb' 0 24).extractLsb' (8 * c.index) 8 := by
    intro x
    ext i hi
    have hbelow : 8 * c.index + i < 24 := by
      cases c <;> simp only [Channel.index] <;> omega
    simp [channel, hbelow]
  rw [hlow, hlow, h]

theorem properMean_rgbToBrightness : ProperMean rgbToBrightness := by
  have hpos : 0 < ∑ c, weight c := by
    rw [sum_weight]
    decide
  have hbyte : ∀ (state : LightState) (c : Channel), (channel state.color c).toNat ≤ 255 :=
    fun state c => Nat.le_of_lt_succ (channel state.color c).isLt
  constructor
  case atLeast =>
    intro state
    rw [rgbToBrightness_eq_mean]
    exact Int.ofNat_le.mpr (le_mean hpos fun _ => darkest_le)
  case atMost =>
    intro state
    rw [rgbToBrightness_eq_mean]
    exact Int.ofNat_le.mpr (mean_le fun _ => le_brightest)
  case isByte =>
    intro state
    rw [rgbToBrightness_eq_mean]
    exact ⟨Int.natCast_nonneg _, Int.ofNat_le.mpr (mean_le (hbyte state))⟩
  case ignoresTop =>
    intro state state' h
    simp only [rgbToBrightness_eq_mean, channel_congr h]
  case monotone =>
    intro c state state' hother hle
    rw [rgbToBrightness_eq_mean, rgbToBrightness_eq_mean]
    refine Int.ofNat_le.mpr (mean_mono fun d => ?_)
    by_cases hd : d = c
    · rw [hd]
      exact hle
    · rw [hother d hd]
  case grey =>
    intro v state h
    rw [rgbToBrightness_eq_mean]
    exact congrArg Nat.cast (mean_const hpos fun c => congrArg BitVec.toNat (h c))

/-! ## What is written -/

/-- The node a light writes its brightness to. -/
structure WritesBrightness (d : Device) (outcome : Nat → Option Errno) (state : LightState) :
    Prop where
  backlight : (perform d ⟨.backlight state, outcome⟩).writes =
    [⟨.lcd, .int (rgbToBrightness state), outcome 0⟩]
  buttons : (perform d ⟨.buttons state, outcome⟩).writes =
    [⟨.ledEnable, .int (rgbToBrightness state), outcome 0⟩]

theorem writesBrightness {d : Device} {outcome : Nat → Option Errno} :
    WritesBrightness d outcome state := by
  have hwrite : ∀ path value, (writeInt path value (d.enter outcome)).2.writes =
      [⟨path, .int value, outcome 0⟩] := by
    intro path value
    rw [writeInt_enter]
    exact World.attempt_writes
  exact ⟨hwrite .lcd _, hwrite .ledEnable _⟩

/-- The brightness is a proper mean of the channels, computed without overflow, and what both
    lights write. -/
theorem brightness_proper_mean :
    ProperMean rgbToBrightness ∧
      (∀ state, Gives (rgbToBrightnessInt state) (rgbToBrightness state)) ∧
        ∀ d outcome state, WritesBrightness d outcome state :=
  ⟨properMean_rgbToBrightness, fun _ => gives_rgbToBrightness, fun _ _ _ => writesBrightness⟩

end Lights
