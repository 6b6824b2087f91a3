-- SUMMARY: The lifecycle of the vendor library: operations between a mtk_init that reports success and the next mtk_cleanup.
import GioneeP4.Bluetooth.Vendor

/-!
# Lifecycle

A host may call `mtk_op` once `mtk_init` returned 0 and until it calls
`mtk_cleanup`. That keeps the callbacks set; the library is loaded and its
functions are found only if the loader did not fail, which the result of
`mtk_init` does not tell.
-/

namespace Bluetooth

open Prog Resources

variable {hdr : Header} {s : Vendor} {handle : Handle}

/-! ## Hosts -/

/-- A call of the host. -/
inductive Call
  | init (pCb : Bool) (loading : Loading)
  | cleanup
  | op (op : Op)

/-- The library, and whether its host may call `mtk_op`. -/
structure Host where
  vendor : Vendor
  session : Bool

def Host.initial : Host := ⟨.initial, false⟩

def Host.step (hdr : Header) (host : Host) : Call → Host
  | .init pCb loading =>
      match exec (mtkInit hdr pCb loading) host.vendor with
      | (.ok ret, s) => ⟨s, if ret = 0 then true else host.session⟩
      | (.error _, s) => ⟨s, host.session⟩
  | .cleanup => ⟨(exec mtkCleanup host.vendor).2, false⟩
  | .op op => ⟨(exec (mtkOp hdr op) host.vendor).2, host.session⟩

/-- Every operation comes after a `mtk_init` that returned 0 and before the next `mtk_cleanup`. -/
def Disciplined (hdr : Header) (calls : List Call) : Prop :=
  ∀ p ∈ Machine.steps (Host.step hdr) .initial calls, ∀ op, p.2 = .op op → p.1.session = true

/-- No operation of the run goes wrong. -/
def OpsSafe (hdr : Header) (calls : List Call) : Prop :=
  ∀ p ∈ Machine.steps (Host.step hdr) .initial calls, ∀ op, p.2 = .op op →
    ∀ fault s, exec (mtkOp hdr op) p.1.vendor ≠ (.error fault, s)

/-- The loader opens the library, finds both functions and reports no error. -/
structure Loading.Good (loading : Loading) : Prop where
  opened : loading.dlopen ≠ none
  enable : loading.enable = true
  disable : loading.disable = true
  silent : loading.dlerror = false

/-- A call that does not run into a failing loader. -/
def Call.Loads : Call → Prop
  | .init pCb loading => pCb = true → loading.Good
  | _ => True

/-! ## Sessions -/

/-- A library ready for operations. -/
def Ready (s : Vendor) : Prop := (∃ handle, Resolved s handle) ∧ s.btVendorCbacks = true

theorem ready_of_good {loading : Loading} (h : loading.Good) :
    Ready (exec (mtkInit hdr true loading) s).2 := by
  obtain ⟨handle, hhandle⟩ := Option.ne_none_iff_exists'.mp h.opened
  rw [exec_mtkInit_opened hhandle, h.enable, h.disable, h.silent]
  exact ⟨⟨handle, rfl, by simp [holds], rfl, rfl⟩, rfl⟩

theorem callbacks_mtkOp {op : Op} :
    (exec (mtkOp hdr op) s).2.btVendorCbacks = s.btVendorCbacks :=
  congrArg (fun loaded => loaded.2.2.2.1) (@frames_mtkOp hdr op s)

theorem Ready.step {op : Op} (h : Ready s) : Ready (exec (mtkOp hdr op) s).2 := by
  obtain ⟨⟨handle, hresolved⟩, hcallbacks⟩ := h
  exact ⟨⟨handle, hresolved.of_loaded (frames_mtkOp s)⟩, callbacks_mtkOp.trans hcallbacks⟩

theorem exec_callBack (h : s.btVendorCbacks = true) {event : Event} :
    exec (callBack event) s = (.ok (), { s with events := s.events ++ [event] }) := by
  rw [callBack, exec_bind_of_ok exec_get, if_pos h, exec_modify]

/-- A ready library does not go wrong. -/
theorem Ready.safe {op : Op} (h : Ready s) : ∃ ret t, exec (mtkOp hdr op) s = (.ok ret, t) := by
  obtain ⟨⟨handle, hresolved⟩, hcallbacks⟩ := h
  obtain ⟨opcode, fd, result⟩ := op
  cases opcode with
  | powerCtrl | scoCfg | lpmSetMode | lpmWakeSetState | other | getLpmIdleTimeout =>
    exact ⟨_, _, rfl⟩
  | userialOpen =>
    rw [mtkOp, exec_mtkOpen_of_resolved hresolved]
    split <;> exact ⟨_, _, rfl⟩
  | userialClose =>
    rw [mtkOp, exec_mtkClose_of_resolved hresolved]
    split <;> exact ⟨_, _, rfl⟩
  | fwCfg | epilog =>
    rw [mtkOp, exec_bind_of_ok (exec_callBack hcallbacks), exec_pure]
    exact ⟨_, _, rfl⟩

theorem always_callThrough {function : Option Handle} :
    Always (callThrough function) (fun _ => True) fun fault => fault ≠ .nullCallbacks := by
  unfold callThrough
  cases function with
  | none => exact always_throw nofun
  | some handle =>
    exact always_bind always_get fun _ _ => always_ite (always_pure trivial) (always_throw nofun)

theorem always_mtkOpen {fd : BitVec 32} :
    Always (mtkOpen hdr fd) (fun _ => True) fun fault => fault ≠ .nullCallbacks := by
  apply always_bind always_get
  intro s _
  apply always_bind always_callThrough
  intro _ _
  apply always_ite (always_pure trivial)
  exact always_bind always_modify fun _ _ => always_pure trivial

theorem always_mtkClose {result : Int} :
    Always (mtkClose result) (fun _ => True) fun fault => fault ≠ .nullCallbacks := by
  apply always_bind always_get
  intro s _
  apply always_ite (always_pure trivial)
  apply always_bind always_get
  intro s _
  apply always_bind always_callThrough
  intro _ _
  exact always_bind always_modify fun _ _ => always_pure trivial

/-- With callbacks set, whatever goes wrong is not a null callback. -/
theorem callbacks_safe {op : Op} (h : s.btVendorCbacks = true) {t : Vendor} :
    exec (mtkOp hdr op) s ≠ (.error .nullCallbacks, t) := by
  obtain ⟨opcode, fd, result⟩ := op
  cases opcode with
  | powerCtrl | scoCfg | lpmSetMode | lpmWakeSetState | other | getLpmIdleTimeout =>
    intro hexec
    cases hexec
  | userialOpen => exact fun hexec => (always_mtkOpen s).of_error hexec rfl
  | userialClose => exact fun hexec => (always_mtkClose s).of_error hexec rfl
  | fwCfg | epilog =>
    rw [mtkOp, exec_bind_of_ok (exec_callBack h), exec_pure]
    intro hexec
    cases hexec

theorem vendor_step_init {host : Host} {pCb : Bool} {loading : Loading} :
    (host.step hdr (.init pCb loading)).vendor = (exec (mtkInit hdr pCb loading) host.vendor).2 := by
  simp only [Host.step]
  rcases exec (mtkInit hdr pCb loading) host.vendor with ⟨_ | ret, s⟩ <;> rfl

/-- A `mtk_init` without callbacks changes nothing, not even whether the host is in a session. -/
theorem step_init_null {host : Host} {loading : Loading} :
    host.step hdr (.init false loading) = host := by
  simp only [Host.step, exec_mtkInit_null, if_neg hdr.btHcStatusFail.property]

theorem callbacks_mtkInit {loading : Loading} :
    (exec (mtkInit hdr true loading) s).2.btVendorCbacks = true := by
  cases hhandle : loading.dlopen with
  | none => rw [exec_mtkInit_unopened hhandle]
  | some handle => rw [exec_mtkInit_opened hhandle]

/-- In a session the library is ready. -/
def SessionReady (host : Host) : Prop := host.session = true → Ready host.vendor

theorem SessionReady.step {host : Host} {call : Call} (h : SessionReady host)
    (hloads : call.Loads) : SessionReady (host.step hdr call) := by
  cases call with
  | init pCb loading =>
    cases pCb with
    | false =>
      rw [step_init_null]
      exact h
    | true =>
      intro _
      rw [vendor_step_init]
      exact ready_of_good (hloads rfl)
  | cleanup => nofun
  | op op => exact fun hsession => (h hsession).step

/-- In a session the callbacks are set. -/
def SessionCallbacks (host : Host) : Prop :=
  host.session = true → host.vendor.btVendorCbacks = true

theorem SessionCallbacks.step {host : Host} {call : Call} (h : SessionCallbacks host) :
    SessionCallbacks (host.step hdr call) := by
  cases call with
  | init pCb loading =>
    cases pCb with
    | false =>
      rw [step_init_null]
      exact h
    | true =>
      intro _
      rw [vendor_step_init]
      exact callbacks_mtkInit
  | cleanup => nofun
  | op op => exact fun hsession => callbacks_mtkOp.trans (h hsession)

/-! ## Runs -/

/-- `mtk_init` returns 0 only when the library is loaded and both functions are found. -/
def InitTruthful (hdr : Header) (s : Vendor) (pCb : Bool) (loading : Loading) : Prop :=
  ∀ t, exec (mtkInit hdr pCb loading) s = (.ok 0, t) → ∃ handle, Resolved t handle

theorem initTruthful_iff {pCb : Bool} {loading : Loading} :
    InitTruthful hdr s pCb loading ↔ (pCb = true → loading.Good) := by
  cases pCb with
  | false =>
    refine iff_of_true ?_ nofun
    intro t hexec
    rw [exec_mtkInit_null] at hexec
    exact absurd (Except.ok.inj (Prod.mk.inj hexec).1) hdr.btHcStatusFail.property
  | true =>
    constructor
    · intro htruthful _
      cases hhandle : loading.dlopen with
      | none =>
        obtain ⟨handle, hresolved⟩ := htruthful _ (exec_mtkInit_unopened hhandle)
        cases hresolved.loaded
      | some handle =>
        obtain ⟨handle', hresolved⟩ := htruthful _ (exec_mtkInit_opened hhandle)
        obtain rfl := Option.some.inj hresolved.loaded
        have hheld := hresolved.held
        refine ⟨by rw [hhandle]; nofun, (Option.ite_none_right_eq_some.mp hresolved.enable).1,
          (Option.ite_none_right_eq_some.mp hresolved.disable).1, ?_⟩
        cases hdlerror : loading.dlerror with
        | false => rfl
        | true =>
          simp only [hdlerror, if_true, held_concat, holds] at hheld
          simp at hheld
    · intro hgood t hexec
      have hready : Ready (exec (mtkInit hdr true loading) s).2 := ready_of_good (hgood rfl)
      rw [hexec] at hready
      exact hready.1

theorem session_initial : ¬Host.initial.session = true := Bool.false_ne_true

theorem steps_sessionReady {calls : List Call} {p : Host × Call}
    (hp : p ∈ Machine.steps (Host.step hdr) .initial calls) (hloads : ∀ call ∈ calls, call.Loads) :
    SessionReady p.1 :=
  Machine.steps_invariant (fun h => absurd h session_initial)
    (fun _ call hcall h => h.step (hloads call hcall)) hp

theorem steps_sessionCallbacks {calls : List Call} {p : Host × Call}
    (hp : p ∈ Machine.steps (Host.step hdr) .initial calls) : SessionCallbacks p.1 :=
  Machine.steps_invariant (fun h => absurd h session_initial) (fun _ _ _ h => h.step) hp

/-- Operations of a disciplined run go wrong only behind a failing loader, which `mtk_init`
    reports as success; its callbacks are never null. -/
theorem lifecycle_safe :
    (∀ calls, Disciplined hdr calls → (∀ call ∈ calls, call.Loads) → OpsSafe hdr calls) ∧
      (∀ s pCb loading, InitTruthful hdr s pCb loading ↔ (pCb = true → loading.Good)) ∧
        ∀ calls, Disciplined hdr calls →
          ∀ p ∈ Machine.steps (Host.step hdr) .initial calls, ∀ op, p.2 = .op op →
            ∀ s, exec (mtkOp hdr op) p.1.vendor ≠ (.error .nullCallbacks, s) := by
  refine ⟨?_, fun _ _ _ => initTruthful_iff, ?_⟩
  · intro calls hdisciplined hloads p hp op hop fault t hexec
    have hready := steps_sessionReady hp hloads (hdisciplined p hp op hop)
    obtain ⟨ret, u, hok⟩ : ∃ ret u, exec (mtkOp hdr op) p.1.vendor = (.ok ret, u) := hready.safe
    rw [hok] at hexec
    cases hexec
  · intro calls hdisciplined p hp op hop s
    exact callbacks_safe (steps_sessionCallbacks hp (hdisciplined p hp op hop))

/-- `dlopen` fails, `mtk_init` returns 0, and the first open calls a null pointer. -/
theorem open_after_failed_load :
    ¬∀ calls, Disciplined .bluedroid calls → OpsSafe .bluedroid calls := by
  intro hsafe
  have hdisciplined : Disciplined .bluedroid
      [.init true ⟨none, false, false, true⟩, .op ⟨.userialOpen, 5, 0⟩] := by
    intro p hp op hop
    rcases List.mem_pair.mp hp with rfl | rfl
    · cases hop
    · rfl
  exact hsafe _ hdisciplined _ (List.mem_cons_of_mem _ (List.mem_cons_self ..)) _ rfl
    .nullFunction _ rfl

end Bluetooth
