-- SUMMARY: What the vendor library opens and closes: the handle of the driver library, and the descriptor of the transport.
import GioneeP4.Bluetooth.Vendor

/-!
# Pairing of opens and closes

`mtklib_handle` and `hci_tty_fd` are slots that are filled on opening and never
emptied on closing. Each is paired exactly in the runs that never close twice what
was opened once.
-/

namespace Bluetooth

open Prog Resources

variable {hdr : Header} {s : Vendor} {handle : Handle}

/-! ## The handle of the library -/

/-- A call of `mtk_init` or `mtk_cleanup`. -/
inductive LoaderCall
  | init (pCb : Bool) (loading : Loading)
  | cleanup

def LoaderCall.step (hdr : Header) (s : Vendor) : LoaderCall → Vendor
  | .init pCb loading => (exec (mtkInit hdr pCb loading) s).2
  | .cleanup => (exec mtkCleanup s).2

/-- What a call does to `mtklib_handle`. -/
def LoaderCall.move : LoaderCall → Move Handle
  | .init false _ => .idle
  | .init true ⟨none, _, _, _⟩ => .forget
  | .init true ⟨some handle, _, _, true⟩ => .flash handle
  | .init true ⟨some handle, _, _, false⟩ => .acquire handle
  | .cleanup => .release

/-- `mtklib_handle` with the uses of the loader. -/
def Vendor.librarySlot (s : Vendor) : Slot Handle := ⟨s.mtklibHandle, s.library⟩

theorem librarySlot_step {call : LoaderCall} :
    (call.step hdr s).librarySlot = s.librarySlot.step call.move := by
  cases call with
  | init pCb loading =>
    cases pCb with
    | false => rfl
    | true =>
      obtain ⟨dlopen, enable, disable, dlerror⟩ := loading
      cases dlopen with
      | none =>
        rw [LoaderCall.step, exec_mtkInit_unopened rfl]
        rfl
      | some handle =>
        rw [LoaderCall.step, exec_mtkInit_opened rfl]
        cases dlerror <;> rfl
  | cleanup =>
    rw [LoaderCall.step, exec_mtkCleanup]
    simp only [Vendor.librarySlot, LoaderCall.move, Slot.step]
    cases s.mtklibHandle <;> rfl

/-- What the calls did with the loader, from the initial globals on. -/
def loaderTrace (hdr : Header) (calls : List LoaderCall) : List (Use Handle) :=
  (Machine.after (LoaderCall.step hdr) .initial calls).library

theorem loaderTrace_eq {calls : List LoaderCall} :
    loaderTrace hdr calls =
      (Machine.after Slot.step ⟨none, []⟩ (calls.map LoaderCall.move)).uses := by
  have hstep : ∀ s, ∀ call ∈ calls, True →
      (call.step hdr s).librarySlot = s.librarySlot.step call.move := fun _ _ _ _ =>
    librarySlot_step
  have hsim := Machine.after_simulates (s := .initial) trivial (fun _ _ _ _ => trivial) hstep
  exact congrArg Slot.uses hsim

/-- No closed handle is closed again, and no handle is closed more often than it was opened. -/
structure HandleBalanced (hdr : Header) (calls : List LoaderCall) : Prop where
  paired : Paired (loaderTrace hdr calls)
  count_le : ∀ handle, (loaderTrace hdr calls).count (.release handle) ≤
    (loaderTrace hdr calls).count (.acquire handle)

/-- The handle is balanced unless a `mtk_cleanup` runs behind one that closed it, or behind a
    `mtk_init` whose symbols failed. -/
theorem handle_balanced_iff {calls : List LoaderCall} :
    HandleBalanced hdr calls ↔ Tidy (calls.map LoaderCall.move) := by
  rw [← paired_iff_tidy, ← @loaderTrace_eq hdr]
  constructor
  · exact HandleBalanced.paired
  · intro hpaired
    refine ⟨hpaired, fun handle => ?_⟩
    have hcount := hpaired.count_le (r := handle)
    omega

/-- A symbol that is not found makes `mtk_init` close the handle, and `mtk_cleanup` closes it
    again. -/
theorem cleanup_closes_again :
    ¬HandleBalanced .bluedroid [.init true ⟨some 1, true, false, true⟩, .cleanup] := by
  intro hbalanced
  have hheld := hbalanced.paired [.acquire 1, .release 1] 1 [] rfl
  revert hheld
  decide

/-! ## The descriptor of the transport -/

/-- The library after a `mtk_init` that loaded it and found both functions. -/
def Vendor.started (handle : Handle) : Vendor :=
  ⟨some handle, -1, some handle, some handle, true, [.acquire handle], [], []⟩

theorem exec_mtkInit_started :
    exec (mtkInit hdr true ⟨some handle, true, true, false⟩) .initial =
      (.ok 0, .started handle) := rfl

theorem resolved_started : Resolved (.started handle) handle :=
  ⟨rfl, by simp [Vendor.started, held, holds], rfl, rfl⟩

def Op.step (hdr : Header) (s : Vendor) (op : Op) : Vendor := (exec (mtkOp hdr op) s).2

theorem Resolved.step {op : Op} (h : Resolved s handle) : Resolved (op.step hdr s) handle :=
  h.of_loaded (frames_mtkOp s)

/-- What an operation does to `hci_tty_fd`. -/
def Op.move (op : Op) : Move (BitVec 32) :=
  match op.opcode with
  | .userialOpen => if op.enableResult.slt 0 then .idle else .acquire op.enableResult
  | .userialClose => .release
  | _ => .idle

/-- `hci_tty_fd` with the uses of the driver; -1 stands for none. -/
def Vendor.transportSlot (s : Vendor) : Slot (BitVec 32) :=
  ⟨if s.hciTtyFd = -1 then none else some s.hciTtyFd, s.transport⟩

theorem frames_callBack_transport {event : Event} :
    Frames Vendor.transportSlot (callBack event) :=
  frames_bind frames_get fun _ => frames_ite (frames_modify fun _ => rfl) frames_throw

theorem transportSlot_step {op : Op} (h : Resolved s handle) :
    (op.step hdr s).transportSlot = s.transportSlot.step op.move := by
  obtain ⟨opcode, fd, result⟩ := op
  cases opcode with
  | powerCtrl | scoCfg | getLpmIdleTimeout | lpmSetMode | lpmWakeSetState | other => rfl
  | fwCfg | epilog =>
    exact frames_bind (frames_callBack_transport) (fun _ => frames_pure) s
  | userialOpen =>
    rw [Op.step, mtkOp, exec_mtkOpen_of_resolved h]
    simp only [Op.move]
    split
    · rfl
    · rename_i hnonneg
      have hfd : fd ≠ -1 := by
        rintro rfl
        exact hnonneg (by decide)
      simp only [Vendor.transportSlot, Slot.step, if_neg hfd]
  | userialClose =>
    rw [Op.step, mtkOp, exec_mtkClose_of_resolved h]
    simp only [Op.move, Vendor.transportSlot, Slot.step]
    by_cases hfd : s.hciTtyFd = -1
    · rw [if_pos hfd, if_pos hfd]
    · rw [if_neg hfd, if_neg hfd]

/-- What the operations did with the driver, from a started library on. -/
def transportTrace (hdr : Header) (handle : Handle) (ops : List Op) : List (Use (BitVec 32)) :=
  (Machine.after (Op.step hdr) (.started handle) ops).transport

theorem transportSlot_after {ops : List Op} :
    (Machine.after (Op.step hdr) (.started handle) ops).transportSlot =
      Machine.after Slot.step ⟨none, []⟩ (ops.map Op.move) := by
  have hstep : ∀ s, ∀ op ∈ ops, Resolved s handle → Resolved (op.step hdr s) handle :=
    fun _ _ _ h => h.step
  have hsim : ∀ s, ∀ op ∈ ops, Resolved s handle →
      (op.step hdr s).transportSlot = s.transportSlot.step op.move :=
    fun _ _ _ h => transportSlot_step h
  exact Machine.after_simulates (P := fun s => Resolved s handle) resolved_started hstep hsim

/-- The driver is closed with descriptors that are open, each at most as often as it was opened,
    and not at all when none is open. -/
structure TransportPaired (hdr : Header) (handle : Handle) (ops : List Op) : Prop where
  paired : Paired (transportTrace hdr handle ops)
  count_le : ∀ fd, (transportTrace hdr handle ops).count (.release fd) ≤
    (transportTrace hdr handle ops).count (.acquire fd)
  refused : ∀ p ∈ Machine.steps (Op.step hdr) (.started handle) ops,
    p.2.opcode = .userialClose → (∀ fd, held fd p.1.transport = false) →
      exec (mtkOp hdr p.2) p.1 = (.ok (-1), p.1)

theorem resolved_after {ops : List Op} :
    Resolved (Machine.after (Op.step hdr) (.started handle) ops) handle :=
  Machine.after_invariant (P := fun s => Resolved s handle) resolved_started
    fun _ _ _ h => h.step

/-- Where no descriptor is released twice, a close with none open does nothing. -/
theorem close_refused {ops : List Op} {p : Vendor × Op} (htidy : Tidy (ops.map Op.move))
    (hp : p ∈ Machine.steps (Op.step hdr) (.started handle) ops)
    (hclose : p.2.opcode = .userialClose) (hnone : ∀ fd, held fd p.1.transport = false) :
    exec (mtkOp hdr p.2) p.1 = (.ok (-1), p.1) := by
  obtain ⟨before, rest, rfl, hstate⟩ := Machine.mem_steps_iff.mp hp
  have hresolved : Resolved p.1 handle := hstate ▸ resolved_after
  have hmove : p.2.move = .release := by rw [Op.move, hclose]
  have hspent := htidy (Machine.after Load.step .empty (before.map Op.move), p.2.move)
    (Machine.mem_steps_iff.mpr ⟨before.map Op.move, rest.map Op.move, by simp, rfl⟩) hmove
  have hfits := @fits_after _ _ (before.map Op.move)
  rw [← @transportSlot_after hdr handle, ← hstate] at hfits
  cases hload : Machine.after Load.step .empty (before.map Op.move) with
  | spent => exact absurd hload hspent
  | armed =>
    rw [hload] at hfits
    obtain ⟨fd, -, hheld⟩ := hfits
    exact absurd hheld (by rw [Vendor.transportSlot, hnone fd]; exact Bool.false_ne_true)
  | empty =>
    rw [hload] at hfits
    have hfd : p.1.hciTtyFd = -1 := by
      by_contra hfd
      have hcontent : (if p.1.hciTtyFd = -1 then none else some p.1.hciTtyFd) = none := hfits
      rw [if_neg hfd] at hcontent
      cases hcontent
    rw [mtkOp, hclose]
    exact (exec_mtkClose_of_resolved hresolved).trans (if_pos hfd)

/-- Opens and closes are paired unless a close runs behind one that closed the last descriptor. -/
theorem transport_paired_iff {ops : List Op} :
    TransportPaired hdr handle ops ↔ Tidy (ops.map Op.move) := by
  have htrace : transportTrace hdr handle ops =
      (Machine.after Slot.step ⟨none, []⟩ (ops.map Op.move)).uses :=
    congrArg Slot.uses transportSlot_after
  constructor
  · intro hpaired
    rw [← paired_iff_tidy, ← htrace]
    exact hpaired.paired
  · intro htidy
    have hpaired : Paired (transportTrace hdr handle ops) := by
      rw [htrace]
      exact paired_iff_tidy.mpr htidy
    refine ⟨hpaired, fun fd => ?_, fun p hp => close_refused htidy hp⟩
    have hcount := hpaired.count_le (r := fd)
    omega

/-- A second close disables the descriptor that the first one disabled. -/
theorem second_close_disables_again :
    ¬TransportPaired .bluedroid 1
      [⟨.userialOpen, 5, 0⟩, ⟨.userialClose, 5, 0⟩, ⟨.userialClose, 5, 0⟩] := by
  intro hpaired
  have hheld := hpaired.paired [.acquire 5, .release 5] 5 [] rfl
  revert hheld
  decide

end Bluetooth
