-- SUMMARY: Failed sysfs writes: what the status codes of the lights module say about them, and when repeating a call repairs the LED.
import GioneeP4.Lights.Arbitration

/-!
# Failed writes of the lights module

`write_leds_locked` drops the results of its writes and the notification calls
drop the result of `set_light_locked`, while the backlight and the button light
hand the result of their one write on. The bookkeeping of the notification LED
advances whether or not the hardware took the update, so a retry repairs a
failed call only when it takes a branch that writes again.
-/

namespace Lights

open Arbiter

/-! ## Status codes -/

/-- The status code tells the fate of the writes: 0 only when every attempted write
    succeeded, negative when one failed. -/
def Truthful (r : Result) : Prop :=
  (r.ret = 0 → ∀ w ∈ r.writes, w.error = none) ∧ ((∃ w ∈ r.writes, w.error ≠ none) → r.ret < 0)

instance {r : Result} : Decidable (Truthful r) :=
  inferInstanceAs (Decidable
    ((r.ret = 0 → ∀ w ∈ r.writes, w.error = none) ∧ ((∃ w ∈ r.writes, w.error ≠ none) → r.ret < 0)))

/-- No write of the call fails: it writes nothing, or its first eight writes succeed. -/
def Unharmed (d : Device) (e : Event) : Prop :=
  match e.call with
  | .led source state =>
      touches d.gCurLed source.type (effectiveRequest source state) → ∀ n < 8, e.outcome n = none
  | .backlight _ | .buttons _ => True

/-- A call whose status is always 0 is truthful exactly when none of its writes failed. -/
theorem truthful_iff_of_ret_zero {r : Result} (h : r.ret = 0) :
    Truthful r ↔ ∀ w ∈ r.writes, w.error = none := by
  constructor
  · intro ht
    exact ht.1 h
  · intro hall
    refine ⟨fun _ => hall, ?_⟩
    rintro ⟨w, hw, hne⟩
    exact absurd (hall w hw) hne

/-- The writes of a notification call all succeed exactly when the call is unharmed. -/
theorem led_writes_succeed_iff {d : Device} {source : Source} {state : LightState}
    {outcome : Nat → Option Errno} (hcur : CursorOk d) :
    (∀ w ∈ (perform d ⟨.led source state, outcome⟩).writes, w.error = none) ↔
      Unharmed d ⟨.led source state, outcome⟩ := by
  rw [perform_led_writes hcur]
  simp only [Unharmed, config_eq_effectiveRequest]
  by_cases htouch : touches d.gCurLed source.type (effectiveRequest source state)
  · simp only [htouch, if_true, true_imp_iff]
    constructor
    · intro h n hn
      have hlen : n < (ledWrites (display (Function.update d.gLeds source.type
          (effectiveRequest source state)))).length := by simpa using hn
      exact h _ (List.mem_mapIdx.mpr ⟨n, hlen, rfl⟩)
    · intro h w hw
      obtain ⟨n, hn, rfl⟩ := List.mem_mapIdx.mp hw
      exact h n (by simpa using hn)
  · simp [htouch]

/-- The one write of the backlight or the button light decides the status. -/
theorem ownNode_truthful {d : Device} {path : Node} {value : Int} {outcome : Nat → Option Errno} :
    Truthful
      ⟨(writeInt path value (d.enter outcome)).1, (writeInt path value (d.enter outcome)).2.writes,
        (writeInt path value (d.enter outcome)).2.toDevice⟩ := by
  rw [writeInt_enter]
  simp only [Truthful, World.attempt_writes]
  cases h : outcome 0 with
  | none => simp [Device.enter, h]
  | some errno => simp [Device.enter, h]

/-- Status codes along a run: a call made in any reachable state is truthful exactly
    when it is unharmed, which the backlight and the button light always are. -/
theorem status_truthful_iff (events : List Event) (e : Event) :
    Truthful (perform (Machine.after step dark events) e) ↔
      Unharmed (Machine.after step dark events) e := by
  have hcur := (tracks_after events).cursor
  obtain ⟨call, outcome⟩ := e
  cases call with
  | led source state =>
    rw [truthful_iff_of_ret_zero (by rw [perform_led])]
    exact led_writes_succeed_iff hcur
  | backlight state => exact iff_of_true ownNode_truthful trivial
  | buttons state => exact iff_of_true ownNode_truthful trivial

/-- Showing red on the battery LED returns 0 although every write fails. -/
theorem status_lies :
    ¬ ∀ (events : List Event) (source : Source) (state : LightState) (outcome : Nat → Option Errno),
      Truthful (perform (Machine.after step dark events) ⟨.led source state, outcome⟩) := by
  intro h
  exact absurd (h [] .battery ⟨0x00ff0000, .none, 0, 0⟩ fun _ => some 5) (by decide)

/-! ## Recovery by retrying -/

/-- Repeating the failed call, with every write succeeding, shows the winner of the
    history that ends in the call. -/
def Recovers (calls : List Call) (d : Device) (e : Event) : Prop :=
  Shows (step (step d e) (.ok e.call)).content (display (latestRequest (calls ++ [e.call])))

instance {calls : List Call} {d : Device} {e : Event} : Decidable (Recovers calls d e) :=
  inferInstanceAs (Decidable (Shows _ _))

/-- The call is repaired by repeating it: its request is lit, or every node that missed
    its update already held the value of the configuration the LED falls back to. -/
def Repairable (d : Device) (source : Source) (state : LightState)
    (outcome : Nat → Option Errno) : Prop :=
  let request := effectiveRequest source state
  let fallback := display (Function.update d.gLeds source.type request)
  request.lit = true ∨ ∀ k (hk : k < ledNodes.length),
    outcome (k + 1) = none ∨ d.content ledNodes[k] = fallback.value ledNodes[k]

/-- Where the cursor stands after a call that reached the LED. -/
theorem touches_again_iff {d : Device} {source : Source} {state : LightState}
    {outcome : Nat → Option Errno} (hcur : CursorOk d)
    (h : touches d.gCurLed source.type (source.config state)) :
    touches (perform d ⟨.led source state, outcome⟩).device.gCurLed source.type
        (source.config state) ↔ (source.config state).lit = true := by
  have hcur' : CursorOk (perform d ⟨.led source state, outcome⟩).device := perform_led_cursorOk hcur
  rw [hcur', perform_led_gLeds hcur]
  unfold touches at h ⊢
  by_cases hlit : (source.config state).lit = true
  · rw [if_pos hlit] at h ⊢
    rw [winner_request hcur, if_pos hlit, if_pos h]
    simp [hlit]
  · -- the source gave up, so it is not the winner any more and a retry skips the LED
    rw [if_neg hlit]
    refine iff_of_false (fun heq => ?_) hlit
    have hasks := asks_of_winner (eq_cursorIndex_iff.mp heq)
    simp [asks, hlit] at hasks

/-- A failed notification call, made in any reachable state, is repaired by repeating it
    exactly when it is repairable. -/
theorem retry_recovers_iff (events : List Event) (source : Source) (state : LightState)
    (outcome : Nat → Option Errno)
    (hfail : ∃ w ∈ (perform (Machine.after step dark events) ⟨.led source state, outcome⟩).writes,
      w.error ≠ none) :
    Recovers (events.map Event.call) (Machine.after step dark events)
        ⟨.led source state, outcome⟩ ↔
      Repairable (Machine.after step dark events) source state outcome := by
  obtain ⟨htable, hcur⟩ := tracks_after events
  revert hfail htable hcur
  generalize Machine.after step dark events = d
  intro hfail htable hcur
  have htouch : touches d.gCurLed source.type (source.config state) := by
    by_contra hskip
    rw [perform_led_writes hcur, if_neg hskip] at hfail
    simp at hfail
  have hcur₁ : CursorOk (step d ⟨.led source state, outcome⟩) := perform_led_cursorOk hcur
  have hleds₁ : (step d ⟨.led source state, outcome⟩).gLeds =
      Function.update d.gLeds source.type (source.config state) := perform_led_gLeds hcur
  have hagain : touches (step d ⟨.led source state, outcome⟩).gCurLed source.type
      (source.config state) ↔ (source.config state).lit = true := touches_again_iff hcur htouch
  simp only [Recovers, Repairable, latestRequest_concat_led, ← htable,
    ← config_eq_effectiveRequest]
  by_cases hlit : (source.config state).lit = true
  · -- the retry writes the same request again
    refine iff_of_true ?_ (.inl hlit)
    rw [shows_iff]
    intro k hk
    rw [step, Event.ok, perform_led_content hcur₁ (hagain.mpr hlit) hk, hleds₁]
    simp
  · -- the retry skips the LED, which keeps what the failed call left
    rw [or_iff_right hlit, shows_iff, step, Event.ok,
      perform_led_content_of_not_touches hcur₁ (fun h => hlit (hagain.mp h))]
    refine forall_congr' fun k => forall_congr' fun hk => ?_
    rw [step, perform_led_content hcur htouch hk]
    by_cases hok : outcome (k + 1) = none
    · simp [hok]
    · simp [hok]

/-- The battery LED shown red and then switched off with every write failing: repeating
    the switch-off leaves the LED red. -/
theorem retry_does_not_recover :
    ¬ ∀ (events : List Event) (source : Source) (state : LightState) (outcome : Nat → Option Errno),
      (∃ w ∈ (perform (Machine.after step dark events) ⟨.led source state, outcome⟩).writes,
        w.error ≠ none) →
      Recovers (events.map Event.call) (Machine.after step dark events)
        ⟨.led source state, outcome⟩ := by
  intro h
  have hstuck := h [.ok (.led .battery ⟨0x00ff0000, .none, 0, 0⟩)] .battery ⟨0, .none, 0, 0⟩
    (fun _ => some 5) (by decide)
  exact absurd hstuck (by decide)

/-- A red battery light whose brightness write failed is repaired by repeating it. -/
theorem retry_recovers_red :
    (∃ w ∈ (perform dark ⟨.led .battery ⟨0x00ff0000, .none, 0, 0⟩,
        fun n => if n = 1 then some 5 else none⟩).writes, w.error ≠ none) ∧
      (Recovers [] dark ⟨.led .battery ⟨0x00ff0000, .none, 0, 0⟩,
          fun n => if n = 1 then some 5 else none⟩ ↔
        Repairable dark .battery ⟨0x00ff0000, .none, 0, 0⟩ fun n => if n = 1 then some 5 else none) :=
  ⟨by decide, retry_recovers_iff [] .battery ⟨0x00ff0000, .none, 0, 0⟩ _ (by decide)⟩

end Lights
