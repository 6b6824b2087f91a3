-- SUMMARY: LED arbitration over whole runs: the cursor and the LED follow the latest requests, whatever the interleaving of the sources.
import GioneeP4.Lights.Calls

/-!
# Arbitration of the notification LED

The abstract side knows only the history of calls. Each source has a latest
effective request, the winner is the highest source whose request is not black,
and the LED shows the winner's request. The device keeps a lazily updated table
and one cursor instead; `tracks_after` relates the two along every run,
failed writes included, and `led_arbitration` adds the LED itself when every
write succeeds.
-/

namespace Lights

open Arbiter

/-! ## Requests, from the history alone -/

/-- The 24-bit colour of a request. -/
def rgb (color : BitVec 32) : BitVec 32 := color &&& 0x00ffffff#32

/-- The effective request of a call. Only timed and hardware flashing keep their
    timings; attention takes `NONE` for black and a hardware flash without an off
    time for a steady light. -/
def effectiveRequest (source : Source) (state : LightState) : LedConfig :=
  match source, state.flashMode with
  | .attention, .none => ⟨0, 0, 0⟩
  | .attention, .hardware =>
      if state.flashOnMS > 0 ∧ state.flashOffMS = 0 then ⟨rgb state.color, 0, 0⟩
      else ⟨rgb state.color, state.flashOnMS, state.flashOffMS⟩
  | _, .timed | _, .hardware => ⟨rgb state.color, state.flashOnMS, state.flashOffMS⟩
  | _, .none | _, .other _ => ⟨rgb state.color, 0, 0⟩

/-- What the source stores is its effective request. -/
theorem config_eq_effectiveRequest {source : Source} {state : LightState} :
    source.config state = effectiveRequest source state := by
  obtain ⟨color, mode, onMS, offMS⟩ := state
  by_cases hsteady : onMS > 0 ∧ offMS = 0 <;> cases source <;> cases mode <;>
    simp [Source.config, ledConfigOf, fixAttention, effectiveRequest, rgb, hsteady]

/-- The effective requests among a history of calls. -/
def ledRequests (calls : List Call) : List (Fin 3 × LedConfig) :=
  calls.filterMap fun
    | .led source state => some (source.type, effectiveRequest source state)
    | .backlight _ | .buttons _ => none

/-- The most recent effective request of each source, black before its first. -/
def latestRequest (calls : List Call) (i : Fin 3) : LedConfig :=
  (latest (ledRequests calls) i).getD ledOff

theorem latestRequest_concat_led {calls : List Call} {source : Source} {state : LightState} :
    latestRequest (calls ++ [.led source state]) =
      Function.update (latestRequest calls) source.type (effectiveRequest source state) := by
  funext i
  rw [latestRequest, ledRequests, List.filterMap_append]
  simp only [List.filterMap_cons, List.filterMap_nil]
  rw [latest_concat]
  by_cases h : source.type = i
  · subst h; simp
  · rw [if_neg h, Function.update_of_ne (Ne.symm h)]
    rfl

theorem latestRequest_concat_other {calls : List Call} {call : Call}
    (h : ∀ source state, call ≠ .led source state) :
    latestRequest (calls ++ [call]) = latestRequest calls := by
  funext i
  cases call with
  | led source state => exact absurd rfl (h source state)
  | backlight state => simp [latestRequest, ledRequests]
  | buttons state => simp [latestRequest, ledRequests]

/-! ## The bookkeeping follows the history -/

/-- The table holds the latest requests and the cursor points at their winner. -/
structure Tracks (calls : List Call) (d : Device) : Prop where
  table : d.gLeds = latestRequest calls
  cursor : CursorOk d

theorem tracks_dark : Tracks [] dark where
  table := rfl
  cursor := by
    have hbot : winner (asks dark.gLeds) = ⊥ := winner_eq_bot_iff.mpr fun _ => rfl
    rw [CursorOk, hbot]
    rfl

/-- One call, with any pattern of write failures, keeps the bookkeeping in step. -/
theorem tracks_step {calls : List Call} {d : Device} {e : Event} (h : Tracks calls d) :
    Tracks (calls ++ [e.call]) (step d e) := by
  obtain ⟨call, outcome⟩ := e
  by_cases hled : ∃ source state, call = .led source state
  · obtain ⟨source, state, rfl⟩ := hled
    refine ⟨?_, perform_led_cursorOk h.cursor⟩
    rw [latestRequest_concat_led, step, perform_led_gLeds h.cursor, h.table,
      config_eq_effectiveRequest]
  · have hne : ∀ source state, call ≠ .led source state := by simpa using hled
    obtain ⟨hleds, hcur, _⟩ := perform_other (d := d) (e := ⟨call, outcome⟩) hne
    constructor
    · rw [latestRequest_concat_other hne, ← h.table]
      exact hleds
    · rw [CursorOk, step, hleds, hcur]
      exact h.cursor

/-- The bookkeeping follows the history of calls along every run. -/
theorem tracks_after (events : List Event) :
    Tracks (events.map Event.call) (Machine.after step dark events) := by
  refine Machine.after_history (R := fun es d => Tracks (es.map Event.call) d) tracks_dark ?_ events
  intro es d e h
  simpa using tracks_step h

/-! ## The LED follows the bookkeeping -/

/-- The LED shows what its table asks for. -/
def LedOk (d : Device) : Prop := Shows d.content (display d.gLeds)

theorem shows_iff {content : Node → Payload} {cfg : LedConfig} :
    Shows content cfg ↔ ∀ k (hk : k < ledNodes.length), content ledNodes[k] = cfg.value ledNodes[k] := by
  constructor
  · intro h k hk
    exact h _ (List.getElem_mem hk)
  · intro h n hn
    obtain ⟨k, hk, rfl⟩ := List.getElem_of_mem hn
    exact h k hk

/-- A request that does not reach the LED does not change what is to be shown. -/
theorem display_update_of_not_touches {d : Device} {i : Fin 3} {cfg : LedConfig}
    (hcur : CursorOk d) (h : ¬touches d.gCurLed i cfg) :
    display (Function.update d.gLeds i cfg) = display d.gLeds := by
  have hwin : winner (asks (Function.update d.gLeds i cfg)) = winner (asks d.gLeds) := by
    rw [winner_request hcur]
    unfold touches at h
    split at h
    · rename_i hlit
      rw [if_pos hlit, if_neg h]
    · rename_i hlit
      rw [if_neg hlit, if_neg h]
  rw [display, display, hwin]
  cases hw : winner (asks d.gLeds) with
  | bot => rfl
  | coe j =>
    -- the winner kept its place, so the request was not its own or it still asks as before
    have hne : j ≠ i := by
      rintro rfl
      have heq : d.gCurLed = ((j : Nat) : Int) := (hcur.trans (by rw [hw])).trans cursorIndex_coe
      unfold touches at h
      split at h <;> simp [heq] at h
    simp [Function.update_of_ne hne]

/-- A call whose writes all succeed leaves the LED showing what the table asks for. -/
theorem ledOk_step {d : Device} {call : Call} (hcur : CursorOk d) (h : LedOk d) :
    LedOk (step d (.ok call)) := by
  by_cases hled : ∃ source state, call = .led source state
  · obtain ⟨source, state, rfl⟩ := hled
    rw [LedOk, step, Event.ok, perform_led_gLeds hcur]
    by_cases htouch : touches d.gCurLed source.type (source.config state)
    · rw [shows_iff]
      intro k hk
      rw [perform_led_content hcur htouch hk, if_pos rfl]
    · rw [perform_led_content_of_not_touches hcur htouch,
        display_update_of_not_touches hcur htouch]
      exact h
  · obtain ⟨hleds, _, hcontent⟩ :=
      perform_other (d := d) (e := .ok call) (by simpa [Event.ok] using hled)
    intro n hn
    rw [step, hcontent n hn, hleds]
    exact h n hn

theorem ledOk_dark : LedOk dark := by
  have hbot : winner (asks dark.gLeds) = ⊥ := winner_eq_bot_iff.mpr fun _ => rfl
  rw [LedOk, display, hbot]
  decide

/-- With every sysfs write succeeding, the LED follows its table along every run. -/
theorem ledOk_after (calls : List Call) :
    LedOk (Machine.after step dark (calls.map Event.ok)) := by
  suffices h : ∀ es : List Event, (∀ e ∈ es, ∃ call, e = .ok call) →
      LedOk (Machine.after step dark es) by
    exact h _ (by simp)
  intro es
  induction es using List.reverseRecOn with
  | nil => exact fun _ => ledOk_dark
  | append_singleton es e ih =>
    intro hok
    obtain ⟨call, rfl⟩ := hok e (by simp)
    rw [Machine.after_append]
    exact ledOk_step (tracks_after es).cursor (ih fun e he => hok e (by simp [he]))

/-- LED arbitration. After every sequence of calls whose writes succeed, the cursor is
    the highest source whose latest effective request is lit, the LED shows that
    request or is dark, and a call ranked below the source showing writes nothing. -/
theorem led_arbitration (calls : List Call) :
    let d := Machine.after step dark (calls.map Event.ok)
    let requests := latestRequest calls
    d.gCurLed = cursorIndex (winner (asks requests)) ∧
      Shows d.content (display requests) ∧
      ∀ source state outcome, ((source.type : Nat) : Int) < d.gCurLed →
        (perform d ⟨.led source state, outcome⟩).writes = [] := by
  intro d requests
  have htracks : Tracks calls d := by
    simpa [Function.comp_def, Event.ok] using tracks_after (calls.map Event.ok)
  have hled : LedOk d := ledOk_after calls
  have htable : requests = d.gLeds := htracks.table.symm
  refine ⟨?_, ?_, ?_⟩
  · rw [htable]
    exact htracks.cursor
  · rw [htable]
    exact hled
  · intro source state outcome hbelow
    have hskip : ¬touches d.gCurLed source.type (source.config state) := by
      unfold touches
      split <;> omega
    rw [perform_led_writes htracks.cursor, if_neg hskip]

end Lights
