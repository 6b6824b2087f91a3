-- SUMMARY: What a host gets out of the vendor library over its whole life: an answer to each operation, and the transport of one slot.
import GioneeP4.Bluetooth.Lifecycle
import GioneeP4.Bluetooth.Pairing

/-!
# Answers

The stack waits for a callback after it asked for the firmware or for the end of its
setup. Across any number of sessions it gets one for each, in order; and the driver
sees a single slot, which `mtk_init` and `mtk_cleanup` do not touch.
-/

namespace Bluetooth

open Prog Resources

variable {hdr : Header} {s : Vendor} {handle : Handle} {host : Host} {call : Call}
variable {calls : List Call}

/-- What a host gets for an operation other than its return value. -/
def Op.answer (hdr : Header) (op : Op) : List Event :=
  match op.opcode with
  | .getLpmIdleTimeout => [.storedTimeout 200]
  | .userialOpen =>
      if op.enableResult.slt 0 then [] else [.storedFds (List.replicate hdr.chMax op.enableResult)]
  | .fwCfg => [.fwcfgCb]
  | .epilog => [.epilogCb]
  | .powerCtrl | .scoCfg | .lpmSetMode | .lpmWakeSetState | .userialClose | .other _ => []

def Call.answer (hdr : Header) : Call → List Event
  | .op o => o.answer hdr
  | .init _ _ | .cleanup => []

def Call.move : Call → Move (BitVec 32)
  | .op o => o.move
  | .init _ _ | .cleanup => .idle

theorem events_mtkOp (h : Ready s) {op : Op} :
    (exec (mtkOp hdr op) s).2.events = s.events ++ op.answer hdr := by
  obtain ⟨⟨handle, hresolved⟩, hcallbacks⟩ := h
  obtain ⟨opcode, fd, result⟩ := op
  cases opcode with
  | powerCtrl | scoCfg | lpmSetMode | lpmWakeSetState | other => exact (List.append_nil _).symm
  | getLpmIdleTimeout => rfl
  | userialOpen =>
    rw [mtkOp, exec_mtkOpen_of_resolved hresolved, Op.answer]
    simp only
    split
    · exact (List.append_nil _).symm
    · rfl
  | userialClose =>
    rw [mtkOp, exec_mtkClose_of_resolved hresolved]
    split <;> exact (List.append_nil _).symm
  | fwCfg | epilog => rw [mtkOp, exec_bind_of_ok (exec_callBack hcallbacks), exec_pure]; rfl

theorem mtkInit_keeps {loading : Loading} :
    (exec (mtkInit hdr true loading) s).2.events = s.events ∧
      (exec (mtkInit hdr true loading) s).2.transportSlot = s.transportSlot := by
  cases hhandle : loading.dlopen with
  | none =>
    rw [exec_mtkInit_unopened hhandle]
    exact ⟨rfl, rfl⟩
  | some handle =>
    rw [exec_mtkInit_opened hhandle]
    exact ⟨rfl, rfl⟩

/-- In a session an operation is answered, and all that is left outside of sessions is the
    loader. -/
theorem step_answers (hready : SessionReady host)
    (hsession : ∀ op, call = .op op → host.session = true) :
    (host.step hdr call).vendor.events = host.vendor.events ++ call.answer hdr ∧
      (host.step hdr call).vendor.transportSlot = host.vendor.transportSlot.step call.move := by
  cases call with
  | init pCb loading =>
    rw [Call.answer, List.append_nil]
    cases pCb with
    | false =>
      rw [step_init_null]
      exact ⟨rfl, rfl⟩
    | true =>
      rw [vendor_step_init]
      exact mtkInit_keeps
  | cleanup =>
    rw [Call.answer, List.append_nil, Host.step, exec_mtkCleanup]
    exact ⟨rfl, rfl⟩
  | op op =>
    have hop : Ready host.vendor := hready (hsession op rfl)
    obtain ⟨handle, hresolved⟩ := hop.1
    exact ⟨events_mtkOp hop, transportSlot_step hresolved⟩

theorem disciplined_concat :
    Disciplined hdr (calls ++ [call]) ↔ Disciplined hdr calls ∧
      ∀ op, call = .op op → (Machine.after (Host.step hdr) .initial calls).session = true := by
  simp only [Disciplined, Machine.steps_concat, List.forall_mem_append, List.forall_mem_singleton]

/-- Every operation of a disciplined host whose library loads is answered, once and in order, and
    the descriptors it opens and closes are those of one slot over all sessions. -/
theorem operations_answered (h : Disciplined hdr calls) (hloads : ∀ call ∈ calls, call.Loads) :
    (Machine.after (Host.step hdr) .initial calls).vendor.events =
        calls.flatMap (Call.answer hdr) ∧
      (Machine.after (Host.step hdr) .initial calls).vendor.transportSlot =
        Machine.after Slot.step ⟨none, []⟩ (calls.map Call.move) := by
  induction calls using List.reverseRecOn with
  | nil => exact ⟨rfl, rfl⟩
  | append_singleton calls call ih =>
    obtain ⟨hbefore, hsession⟩ := disciplined_concat.mp h
    have hloaded : ∀ call ∈ calls, call.Loads :=
      fun call hcall => hloads call (List.mem_append_left _ hcall)
    have hready : SessionReady (Machine.after (Host.step hdr) .initial calls) :=
      Machine.after_invariant (fun h => absurd h session_initial)
        fun _ call hcall h => h.step (hloaded call hcall)
    obtain ⟨hevents, hslot⟩ := ih hbefore hloaded
    obtain ⟨hanswer, hmove⟩ := step_answers hready hsession
    rw [Machine.after_append, Machine.after_cons, Machine.after_nil, hanswer, hevents, hmove, hslot]
    constructor
    · simp
    · simp

/-- Two sessions with a library that loads. -/
theorem operations_answered_twice :
    let calls : List Call :=
      [.init true ⟨some 1, true, true, false⟩, .op ⟨.fwCfg, 0, 0⟩, .op ⟨.userialOpen, 5, 0⟩,
        .cleanup, .init true ⟨some 2, true, true, false⟩, .op ⟨.userialClose, 0, 0⟩]
    (Machine.after (Host.step .bluedroid) .initial calls).vendor.events =
      [.fwcfgCb, .storedFds [5, 5, 5, 5]] := by
  intro calls
  have hdisciplined : Disciplined .bluedroid calls := by
    simp [calls, Disciplined, Machine.steps, Host.step, Host.initial, exec_mtkInit_opened]
  have hloads : ∀ call ∈ calls, call.Loads := by
    have hgood : ∀ handle, Loading.Good ⟨some handle, true, true, false⟩ :=
      fun handle => ⟨by simp, rfl, rfl, rfl⟩
    simp [calls, Call.Loads, hgood]
  exact (operations_answered hdisciplined hloads).1

end Bluetooth
