-- SUMMARY: What one call of the lights module does: the writes it attempts and the bookkeeping it leaves, as one equation per function.
import GioneeP4.Lib.Arbiter
import GioneeP4.Lights.Device

/-!
# Calls of the lights module

`setLightLocked_eq` says everything a notification call can do once the cursor
`g_cur_led` is the winner of the table `g_leds`: it stores the request, moves the
cursor to the new winner, and rewrites the LED or leaves it alone.
-/

namespace Lights

open Arbiter

/-! ## Sequences of writes -/

namespace World

/-- The world after one attempted write. -/
def attempt (w : World) (nv : Node × Payload) : World := (writeNode nv.1 nv.2 w).2

/-- The world after a sequence of attempted writes. -/
def attempts (w : World) (nvs : List (Node × Payload)) : World := nvs.foldl attempt w

@[simp] theorem attempts_nil {w : World} : w.attempts [] = w := rfl

@[simp] theorem attempts_cons {w : World} {nv : Node × Payload} {nvs : List (Node × Payload)} :
    w.attempts (nv :: nvs) = (w.attempt nv).attempts nvs := rfl

@[simp] theorem attempt_outcome {w : World} {nv : Node × Payload} :
    (w.attempt nv).outcome = w.outcome := by
  unfold attempt writeNode; split <;> rfl

@[simp] theorem attempt_gLeds {w : World} {nv : Node × Payload} :
    (w.attempt nv).gLeds = w.gLeds := by
  unfold attempt writeNode; split <;> rfl

theorem attempt_writes {w : World} {nv : Node × Payload} :
    (w.attempt nv).writes = w.writes ++ [⟨nv.1, nv.2, w.outcome w.writes.length⟩] := by
  unfold attempt writeNode; split <;> simp_all

theorem attempt_content {w : World} {nv : Node × Payload} :
    (w.attempt nv).content =
      if w.outcome w.writes.length = none then Function.update w.content nv.1 nv.2
      else w.content := by
  unfold attempt writeNode; split <;> simp_all

@[simp] theorem attempts_gLeds {w : World} {nvs : List (Node × Payload)} :
    (w.attempts nvs).gLeds = w.gLeds := by
  induction nvs generalizing w with
  | nil => rfl
  | cons nv nvs ih => rw [attempts_cons, ih, attempt_gLeds]

/-- Every write of the sequence is attempted, whatever became of the ones before. -/
theorem attempts_writes {w : World} {nvs : List (Node × Payload)} :
    (w.attempts nvs).writes = w.writes ++
      nvs.mapIdx fun n nv => ⟨nv.1, nv.2, w.outcome (w.writes.length + n)⟩ := by
  induction nvs generalizing w with
  | nil => simp
  | cons nv nvs ih =>
    rw [attempts_cons, ih, attempt_writes, List.mapIdx_cons]
    simp [attempt_outcome, Nat.add_assoc, Nat.add_comm 1]

/-- A node no write of the sequence names keeps its content. -/
theorem attempts_content_of_notMem {w : World} {nvs : List (Node × Payload)} {n : Node}
    (h : n ∉ nvs.map Prod.fst) : (w.attempts nvs).content n = w.content n := by
  induction nvs generalizing w with
  | nil => rfl
  | cons nv nvs ih =>
    simp only [List.map_cons, List.mem_cons, not_or] at h
    rw [attempts_cons, ih h.2, attempt_content]
    split
    · exact Function.update_of_ne h.1 _ _
    · rfl

/-- A node written once holds the written value exactly when that write succeeded. -/
theorem attempts_content_of_once {w : World} {pre post : List (Node × Payload)} {n : Node}
    {v : Payload} (hpre : n ∉ pre.map Prod.fst) (hpost : n ∉ post.map Prod.fst) :
    (w.attempts (pre ++ (n, v) :: post)).content n =
      if w.outcome (w.writes.length + pre.length) = none then v else w.content n := by
  induction pre generalizing w with
  | nil =>
    rw [List.nil_append, attempts_cons, attempts_content_of_notMem hpost, attempt_content]
    by_cases h : w.outcome w.writes.length = none <;> simp [h]
  | cons nv pre ih =>
    simp only [List.map_cons, List.mem_cons, not_or] at hpre
    have hkeep : (w.attempts [nv]).content n = w.content n :=
      attempts_content_of_notMem (by simpa using hpre.1)
    simp only [attempts_cons, attempts_nil] at hkeep
    rw [List.cons_append, attempts_cons, ih hpre.2, hkeep, attempt_writes, attempt_outcome]
    simp [Nat.add_assoc, Nat.add_comm 1]

end World

/-! ## Writing the LED -/

/-- The nodes that make up what the LED shows, in the order they are written. -/
def ledNodes : List Node :=
  [.redLed, .greenLed, .blueLed, .redTimeout, .greenTimeout, .blueTimeout]

/-- What each of the LED's nodes holds when the LED shows a configuration. -/
def LedConfig.value (cfg : LedConfig) : Node → Payload
  | .redLed => .int (colorByte cfg.colorRGB 2)
  | .greenLed => .int (colorByte cfg.colorRGB 1)
  | .blueLed => .int (colorByte cfg.colorRGB 0)
  | _ => .onOff cfg.onMS cfg.offMS

/-- The LED shows `cfg`: its brightness and timing nodes hold the values of `cfg`. -/
def Shows (content : Node → Payload) (cfg : LedConfig) : Prop :=
  ∀ n ∈ ledNodes, content n = cfg.value n

instance {content : Node → Payload} {cfg : LedConfig} : Decidable (Shows content cfg) :=
  inferInstanceAs (Decidable (∀ n ∈ ledNodes, content n = cfg.value n))

/-- The writes of `write_leds_locked`, in order. -/
def ledWrites (cfg : LedConfig) : List (Node × Payload) :=
  (.rgbLocked, .int 0) :: ledNodes.map (fun n => (n, cfg.value n)) ++ [(.rgbLocked, .int 1)]

@[simp] theorem ledWrites_length {cfg : LedConfig} : (ledWrites cfg).length = 8 := rfl

/-- No node is written twice, apart from the one that brackets the update. -/
private theorem ledNodes_distinct : ∀ k (hk : k < ledNodes.length),
    ledNodes[k] ∉ ledNodes.take k ∧ ledNodes[k] ∉ ledNodes.drop (k + 1) ∧
      ledNodes[k] ≠ .rgbLocked := by
  decide

/-- After `write_leds_locked`, an LED node holds the new value exactly when its own
    write succeeded. -/
theorem content_ledWrites {w : World} {cfg : LedConfig} (hstart : w.writes = []) {k : Nat}
    (hk : k < ledNodes.length) :
    (w.attempts (ledWrites cfg)).content ledNodes[k] =
      if w.outcome (k + 1) = none then cfg.value ledNodes[k] else w.content ledNodes[k] := by
  -- The eight writes, split at the one that names the node.
  have hsplit : ledNodes = ledNodes.take k ++ ledNodes[k] :: ledNodes.drop (k + 1) := by
    rw [List.getElem_cons_drop, List.take_append_drop]
  have hw : ledWrites cfg =
      ((.rgbLocked, .int 0) :: (ledNodes.take k).map (fun n => (n, cfg.value n))) ++
        (ledNodes[k], cfg.value ledNodes[k]) ::
          ((ledNodes.drop (k + 1)).map (fun n => (n, cfg.value n)) ++ [(.rgbLocked, .int 1)]) := by
    conv_lhs => rw [ledWrites, hsplit, List.map_append, List.map_cons]
    simp only [List.cons_append, List.append_assoc]
  obtain ⟨hpre, hpost, hrgb⟩ := ledNodes_distinct k hk
  rw [hw, World.attempts_content_of_once (by simp [hrgb, hpre, Function.comp_def])
    (by simp [hrgb, hpost, Function.comp_def])]
  simp [hstart, List.length_take, Nat.min_eq_left hk.le]

/-! ## The table and its cursor -/

/-- A configuration is lit when its colour is not black. -/
def LedConfig.lit (cfg : LedConfig) : Bool := cfg.colorRGB > 0

/-- The sources of a table that ask for the LED. -/
def asks (leds : Fin 3 → LedConfig) (i : Fin 3) : Bool := (leds i).lit

/-- The configuration a table puts on the LED. -/
def display (leds : Fin 3 → LedConfig) : LedConfig :=
  (winner (asks leds)).recBotCoe ledOff leds

/-- The value of `g_cur_led` for a winner: its index, or `-1`. -/
def cursorIndex : WithBot (Fin 3) → Int :=
  WithBot.recBotCoe (-1) (fun i => (i : Nat))

@[simp] theorem cursorIndex_bot : cursorIndex ⊥ = -1 := rfl

@[simp] theorem cursorIndex_coe {i : Fin 3} : cursorIndex i = (i : Nat) := rfl

theorem cursorIndex_le_iff {c : WithBot (Fin 3)} {i : Fin 3} :
    cursorIndex c ≤ (i : Nat) ↔ c ≤ i := by
  cases c with
  | bot => simp
  | coe j => simp [WithBot.coe_le_coe]

theorem eq_cursorIndex_iff {c : WithBot (Fin 3)} {i : Fin 3} :
    ((i : Nat) : Int) = cursorIndex c ↔ c = i := by
  cases c with
  | bot => simp
  | coe j => rw [cursorIndex_coe, WithBot.coe_inj, Fin.ext_iff, Int.natCast_inj, eq_comm]

theorem asks_update {leds : Fin 3 → LedConfig} {i : Fin 3} {cfg : LedConfig} :
    asks (Function.update leds i cfg) = Function.update (asks leds) i cfg.lit := by
  funext j
  by_cases h : j = i
  · subst h; simp [asks]
  · simp [asks, h]

/-- The search loop stops at the highest lit index below its start. -/
theorem lowerLit_eq_some_iff {leds : Fin 3 → LedConfig} {n : Nat} {h : n ≤ 3} {i : Fin 3} :
    lowerLit leds n h = some i ↔
      asks leds i = true ∧ i.val < n ∧ ∀ j : Fin 3, j.val < n → asks leds j = true → j ≤ i := by
  induction n with
  | zero => simp [lowerLit]
  | succ n ih =>
    rw [lowerLit]
    split
    · rename_i hlit
      simp only [Option.some.injEq]
      constructor
      · rintro rfl
        exact ⟨by simpa [asks, LedConfig.lit] using hlit, by simp,
          fun j hj _ => Fin.le_def.mpr (Nat.lt_succ_iff.mp hj)⟩
      · rintro ⟨_, hi, hmax⟩
        have hle : (⟨n, h⟩ : Fin 3) ≤ i :=
          hmax ⟨n, h⟩ (Nat.lt_succ_self n) (by simpa [asks, LedConfig.lit] using hlit)
        exact le_antisymm hle (Fin.le_def.mpr (Nat.lt_succ_iff.mp hi))
    · rename_i hdark
      have hne : ∀ j : Fin 3, asks leds j = true → j.val ≠ n := by
        rintro j hj rfl
        exact hdark (by simpa [asks, LedConfig.lit] using hj)
      rw [ih]
      constructor
      · rintro ⟨hi, hlt, hmax⟩
        refine ⟨hi, by omega, fun j hj hasks => hmax j ?_ hasks⟩
        have := hne j hasks
        omega
      · rintro ⟨hi, hlt, hmax⟩
        have := hne i hi
        exact ⟨hi, by omega, fun j hj => hmax j (by omega)⟩

/-- The search loop finds the winner among the sources below the one that gave up. -/
theorem winner_below_eq_lowerLit {leds : Fin 3 → LedConfig} {i : Fin 3} {h : i.val ≤ 3} :
    winner (fun j => asks leds j && decide (j < i)) =
      (lowerLit leds i.val h).elim ⊥ (fun j => (j : WithBot (Fin 3))) := by
  cases hl : lowerLit leds i.val h with
  | some j =>
    obtain ⟨hj, hlt, hmax⟩ := lowerLit_eq_some_iff.mp hl
    refine winner_eq_coe_iff.mpr ⟨by simpa [hj] using Fin.lt_def.mpr hlt, fun k hk => ?_⟩
    simp only [Bool.and_eq_true, decide_eq_true_eq] at hk
    exact hmax k (Fin.lt_def.mp hk.2) hk.1
  | none =>
    by_contra hne
    obtain ⟨k, hk⟩ := WithBot.ne_bot_iff_exists.mp hne
    obtain ⟨hasks, hmax⟩ := winner_eq_coe_iff.mp hk.symm
    simp only [Bool.and_eq_true, decide_eq_true_eq] at hasks hmax
    have hsome : lowerLit leds i.val h = some k :=
      lowerLit_eq_some_iff.mpr
        ⟨hasks.1, Fin.lt_def.mp hasks.2, fun j hj hjl => hmax j ⟨hjl, Fin.lt_def.mpr hj⟩⟩
    simp [hl] at hsome

/-! ## One notification call -/

/-- The request reaches the LED: a lit source at or above the one showing, or the
    one showing going dark. -/
def touches (gCurLed : Int) (i : Fin 3) (cfg : LedConfig) : Prop :=
  if cfg.lit then gCurLed ≤ (i : Nat) else ((i : Nat) : Int) = gCurLed

instance {gCurLed : Int} {i : Fin 3} {cfg : LedConfig} : Decidable (touches gCurLed i cfg) :=
  inferInstanceAs (Decidable (if cfg.lit then gCurLed ≤ (i : Nat) else ((i : Nat) : Int) = gCurLed))

/-- The cursor points at the winner of the table. -/
def CursorOk (d : Device) : Prop := d.gCurLed = cursorIndex (winner (asks d.gLeds))

@[simp] theorem World.setLed_gLeds {w : World} {i : Fin 3} {cfg : LedConfig} :
    (w.setLed i cfg).gLeds = Function.update w.gLeds i cfg := rfl

@[simp] theorem World.setLed_gCurLed {w : World} {i : Fin 3} {cfg : LedConfig} :
    (w.setLed i cfg).gCurLed = w.gCurLed := rfl

/-- The winner after a request, from the branch `set_light_locked` takes. -/
theorem winner_request {d : Device} {i : Fin 3} {cfg : LedConfig} (hcur : CursorOk d) :
    winner (asks (Function.update d.gLeds i cfg)) =
      if cfg.lit then (if d.gCurLed ≤ (i : Nat) then (i : WithBot (Fin 3)) else winner (asks d.gLeds))
      else if ((i : Nat) : Int) = d.gCurLed then
        (lowerLit (Function.update d.gLeds i cfg) i.val (by omega)).elim ⊥
          (fun j => (j : WithBot (Fin 3)))
      else winner (asks d.gLeds) := by
  rw [hcur, asks_update]
  cases hlit : cfg.lit with
  | true =>
    simp only [if_true]
    split
    · rename_i hle
      exact winner_update_of_le (cursorIndex_le_iff.mp hle)
    · rename_i hlt
      exact winner_update_of_lt (lt_of_not_ge fun hle => hlt (cursorIndex_le_iff.mpr hle))
  | false =>
    simp only [Bool.false_eq_true, if_false]
    split
    · rename_i heq
      have hwin : winner (asks d.gLeds) = i := eq_cursorIndex_iff.mp heq
      have hbelow : (fun j => asks (Function.update d.gLeds i cfg) j && decide (j < i)) =
          fun j => asks d.gLeds j && decide (j < i) := by
        funext j
        by_cases hji : j < i
        · rw [asks_update, Function.update_of_ne hji.ne]
        · simp [hji]
      rw [winner_update_false_self hwin, ← hbelow, winner_below_eq_lowerLit]
    · rename_i hne
      exact winner_update_false_of_ne fun heq => hne (eq_cursorIndex_iff.mpr heq)

/-- The world `set_light_locked` leaves, branch by branch. -/
def World.afterRequest (w : World) (i : Fin 3) (cfg : LedConfig) : World :=
  let stored := w.setLed i cfg
  if cfg.lit then
    if ((i : Nat) : Int) ≥ stored.gCurLed then
      (stored.attempts (ledWrites cfg)).setCursor (i : Nat)
    else stored
  else if ((i : Nat) : Int) = stored.gCurLed then
    match lowerLit stored.gLeds i.val (by omega) with
    | some j => (stored.attempts (ledWrites (stored.gLeds j))).setCursor (j : Nat)
    | none => (stored.attempts (ledWrites ledOff)).setCursor (-1)
  else stored

/-- `set_light_locked` returns 0 for each of the three sources. -/
theorem setLightLocked_run {state : LightState} {i : Fin 3} {w : World} :
    setLightLocked state ((i : Nat) : Int) w = (0, w.afterRequest i (ledConfigOf state)) := by
  have hi : ¬(((i : Nat) : Int) < 0 ∨ 3 ≤ ((i : Nat) : Int)) := by omega
  unfold setLightLocked World.afterRequest
  rw [dif_neg hi]
  simp only [bind, StateT.bind, modify, modifyGet, MonadStateOf.modifyGet, StateT.modifyGet, get,
    getThe, MonadStateOf.get, StateT.get, pure, Int.toNat_natCast, Fin.eta, World.setLed_gLeds,
    Function.update_self, LedConfig.lit, decide_eq_true_eq]
  by_cases hlit : (ledConfigOf state).colorRGB > 0
  · rw [if_pos hlit, if_pos hlit]
    by_cases hge : ((i : Nat) : Int) ≥ (w.setLed i (ledConfigOf state)).gCurLed
    · rw [if_pos hge, if_pos hge]
      rfl
    · rw [if_neg hge, if_neg hge]
      rfl
  · rw [if_neg hlit, if_neg hlit]
    by_cases heq : ((i : Nat) : Int) = (w.setLed i (ledConfigOf state)).gCurLed
    · rw [if_pos heq, if_pos heq]
      cases lowerLit (Function.update w.gLeds i (ledConfigOf state)) i.val (by omega) <;> rfl
    · rw [if_neg heq, if_neg heq]
      rfl

/-- What a request does: it is stored, the LED is rewritten if the request reaches it,
    and the cursor is left at the winner of the new table. -/
theorem afterRequest_eq {w : World} {i : Fin 3} {cfg : LedConfig} (hcur : CursorOk w.toDevice) :
    w.afterRequest i cfg =
      (if touches w.gCurLed i cfg then
          (w.setLed i cfg).attempts (ledWrites (display (w.setLed i cfg).gLeds))
        else w.setLed i cfg).setCursor (cursorIndex (winner (asks (w.setLed i cfg).gLeds))) := by
  have hkeep : (w.setLed i cfg).setCursor (cursorIndex (winner (asks w.gLeds))) = w.setLed i cfg := by
    rw [show cursorIndex (winner (asks w.gLeds)) = (w.setLed i cfg).gCurLed from hcur.symm]
    rfl
  simp only [World.afterRequest, touches, display, World.setLed_gLeds, winner_request hcur]
  by_cases hlit : cfg.lit = true
  · simp only [hlit, if_true]
    by_cases hge : w.gCurLed ≤ (i : Nat)
    · simp [hge]
    · simp [hge, hkeep]
  · simp only [hlit]
    by_cases heq : ((i : Nat) : Int) = w.gCurLed
    · simp only [heq, if_true]
      cases lowerLit (Function.update w.gLeds i cfg) i.val (by omega) <;> simp
    · simp [heq, hkeep]

/-! ## One call of the module -/

/-- The configuration a source stores for a request; attention fixes its copy up first. -/
def Source.config : Source → LightState → LedConfig
  | .battery, state | .notifications, state => ledConfigOf state
  | .attention, state => ledConfigOf (fixAttention state)

/-- The device at the start of a call. -/
def Device.enter (d : Device) (outcome : Nat → Option Errno) : World :=
  { d with outcome := outcome, writes := [] }

/-- A notification call returns 0 and does what its request does. -/
theorem perform_led {d : Device} {source : Source} {state : LightState}
    {outcome : Nat → Option Errno} :
    perform d ⟨.led source state, outcome⟩ =
      let w := (d.enter outcome).afterRequest source.type (source.config state)
      ⟨0, w.writes, w.toDevice⟩ := by
  cases source with
  | battery =>
    change (let r := setLightLocked state ((0 : Fin 3) : Nat) (d.enter outcome)
      (⟨0, r.2.writes, r.2.toDevice⟩ : Result)) = _
    rw [setLightLocked_run]
    rfl
  | notifications =>
    change (let r := setLightLocked state ((1 : Fin 3) : Nat) (d.enter outcome)
      (⟨0, r.2.writes, r.2.toDevice⟩ : Result)) = _
    rw [setLightLocked_run]
    rfl
  | attention =>
    change (let r := setLightLocked (fixAttention state) ((2 : Fin 3) : Nat) (d.enter outcome)
      (⟨0, r.2.writes, r.2.toDevice⟩ : Result)) = _
    rw [setLightLocked_run]
    rfl

section Led

variable {d : Device} {source : Source} {state : LightState} {outcome : Nat → Option Errno}

/-- The table a notification call leaves. -/
@[simp] theorem perform_led_gLeds (hcur : CursorOk d) :
    (perform d ⟨.led source state, outcome⟩).device.gLeds =
      Function.update d.gLeds source.type (source.config state) := by
  rw [perform_led, afterRequest_eq hcur]
  split
  · exact World.attempts_gLeds
  · rfl

/-- A notification call leaves the cursor at the winner of its table. -/
theorem perform_led_cursorOk (hcur : CursorOk d) :
    CursorOk (perform d ⟨.led source state, outcome⟩).device := by
  rw [CursorOk, perform_led_gLeds hcur, perform_led, afterRequest_eq hcur]
  rfl

/-- A notification call attempts the eight LED writes, or none. -/
theorem perform_led_writes (hcur : CursorOk d) :
    (perform d ⟨.led source state, outcome⟩).writes =
      if touches d.gCurLed source.type (source.config state) then
        (ledWrites (display (Function.update d.gLeds source.type (source.config state)))).mapIdx
          fun n nv => ⟨nv.1, nv.2, outcome n⟩
      else [] := by
  rw [perform_led, afterRequest_eq hcur]
  by_cases h : touches d.gCurLed source.type (source.config state)
  · simp only [Device.enter, h, if_true]
    change (World.attempts _ _).writes = _
    rw [World.attempts_writes]
    simp [World.setLed]
  · simp only [Device.enter, h, if_false]
    rfl

/-- A call that reaches the LED updates each of its nodes whose write succeeds. -/
theorem perform_led_content (hcur : CursorOk d)
    (h : touches d.gCurLed source.type (source.config state)) {k : Nat} (hk : k < ledNodes.length) :
    (perform d ⟨.led source state, outcome⟩).device.content ledNodes[k] =
      if outcome (k + 1) = none then
        (display (Function.update d.gLeds source.type (source.config state))).value ledNodes[k]
      else d.content ledNodes[k] := by
  rw [perform_led, afterRequest_eq hcur]
  simp only [Device.enter, h, if_true]
  change (World.attempts _ _).content _ = _
  rw [content_ledWrites rfl hk]
  rfl

/-- A call that does not reach the LED leaves every node alone. -/
theorem perform_led_content_of_not_touches (hcur : CursorOk d)
    (h : ¬touches d.gCurLed source.type (source.config state)) :
    (perform d ⟨.led source state, outcome⟩).device.content = d.content := by
  rw [perform_led, afterRequest_eq hcur]
  simp only [Device.enter, h, if_false]
  rfl

end Led

section OwnNode

variable {d : Device} {path : Node} {value : Int} {outcome : Nat → Option Errno}

/-- One write of a call, from its start. -/
theorem writeInt_enter :
    writeInt path value (d.enter outcome) =
      ((outcome 0).elim 0 (fun errno => -(errno : Int)),
        (d.enter outcome).attempt (path, .int value)) := by
  unfold World.attempt writeInt writeNode
  cases h : outcome 0 <;> simp [Device.enter, h]

/-- The backlight and the buttons leave the table, the cursor and the LED alone. -/
theorem perform_other {e : Event} (h : ∀ source state, e.call ≠ .led source state) :
    (perform d e).device.gLeds = d.gLeds ∧ (perform d e).device.gCurLed = d.gCurLed ∧
      ∀ n ∈ ledNodes, (perform d e).device.content n = d.content n := by
  obtain ⟨call, outcome⟩ := e
  have key : ∀ path ∉ ledNodes, ∀ value,
      ((writeInt path value (d.enter outcome)).2.gLeds = d.gLeds ∧
        (writeInt path value (d.enter outcome)).2.gCurLed = d.gCurLed ∧
        ∀ n ∈ ledNodes, (writeInt path value (d.enter outcome)).2.content n = d.content n) := by
    intro path hpath value
    rw [writeInt_enter]
    refine ⟨World.attempt_gLeds, ?_, fun n hn => ?_⟩
    · unfold World.attempt writeNode; split <;> rfl
    · have hne : n ∉ [((path, .int value) : Node × Payload)].map Prod.fst := by
        simp only [List.map_cons, List.map_nil, List.mem_singleton]
        rintro rfl
        exact hpath hn
      exact World.attempts_content_of_notMem (w := d.enter outcome) hne
  cases call with
  | led source state => exact absurd rfl (h source state)
  | backlight state => exact key .lcd (by decide) (rgbToBrightness state)
  | buttons state => exact key .ledEnable (by decide) (rgbToBrightness state)

end OwnNode

end Lights
