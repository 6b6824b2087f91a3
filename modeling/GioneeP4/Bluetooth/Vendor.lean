-- SUMMARY: The Bluetooth vendor library: its globals, its three entry points, and what the dynamic loader and the driver do to it.
import GioneeP4.Lib.Prog
import GioneeP4.Lib.Resources

/-!
# The Bluetooth vendor library

Embeds `libbt-vendor-mtk.c`. The library loads `libbluetoothdrv.so` in `mtk_init`
and calls it through two function pointers. What `dlopen`, `dlsym`, `dlerror` and
the called functions return is part of an action; log output is left out.
-/

namespace Bluetooth

open Prog Resources

/-! ## Data -/

/-- The constants of the missing headers. -/
structure Header where
  /-- `BT_HC_STATUS_FAIL`; `BT_HC_STATUS_SUCCESS` is 0. -/
  btHcStatusFail : {status : Int // status ≠ 0}
  chMax : Nat

/-- The constants of the stock stack. -/
def Header.bluedroid : Header := ⟨⟨1, by decide⟩, 4⟩

/-- What `dlopen` returns when it does not return `NULL`. -/
abbrev Handle := Nat

/-- The outcomes of the loader during one `mtk_init`. -/
structure Loading where
  /-- What `dlopen` returns, `none` for `NULL`. -/
  dlopen : Option Handle
  /-- Whether `dlsym` finds `mtk_bt_enable`, and `mtk_bt_disable`. -/
  enable : Bool
  disable : Bool
  /-- Whether `dlerror` then reports an error. -/
  dlerror : Bool

/-- `bt_vendor_opcode_t`. -/
inductive Opcode
  | powerCtrl | scoCfg | getLpmIdleTimeout | lpmSetMode | lpmWakeSetState | userialOpen
  | userialClose | fwCfg | epilog
  | other (value : Int)
  deriving DecidableEq

/-- What the library hands to its caller other than by returning. -/
inductive Event
  /-- `*(uint32_t *) param`. -/
  | storedTimeout (value : BitVec 32)
  /-- The descriptors stored through `param`. -/
  | storedFds (fds : List (BitVec 32))
  | fwcfgCb
  | epilogCb
  deriving DecidableEq

/-- The undefined steps of an operation. -/
inductive Fault
  | nullFunction
  /-- A call into a library that is not loaded. -/
  | unloaded
  | nullCallbacks
  deriving DecidableEq

/-- The globals of the library, and what was done with the loader and the driver. -/
structure Vendor where
  mtklibHandle : Option Handle
  hciTtyFd : BitVec 32
  /-- The library a function pointer leads into, `none` for `NULL`. -/
  mtkBtEnable : Option Handle
  mtkBtDisable : Option Handle
  /-- Whether `bt_vendor_cbacks` is set. -/
  btVendorCbacks : Bool
  /-- `dlopen` and `dlclose`. -/
  library : List (Use Handle)
  /-- Successful calls of `mtk_bt_enable`, and calls of `mtk_bt_disable`. -/
  transport : List (Use (BitVec 32))
  events : List Event

abbrev VendorM := Prog Fault Vendor

/-- The globals as they are initialised. -/
def Vendor.initial : Vendor := ⟨none, -1, none, none, false, [], [], []⟩

/-! ## Entry points -/

variable (hdr : Header)

def dlclose (handle : Handle) : VendorM Unit :=
  modify fun s => { s with library := s.library ++ [.release handle] }

def mtkInit (pCb : Bool) (loading : Loading) : VendorM Int :=
  if !pCb then return hdr.btHcStatusFail
  else do
    modify fun s => { s with btVendorCbacks := true, mtklibHandle := loading.dlopen }
    match loading.dlopen with
    | none => return 0  -- the null handle as an int
    | some handle => do
        let resolve (found : Bool) : Option Handle := if found then some handle else none
        modify fun s => { s with
          library := s.library ++ [.acquire handle]
          mtkBtEnable := resolve loading.enable
          mtkBtDisable := resolve loading.disable }
        if loading.dlerror then dlclose handle
        return 0

def mtkCleanup : VendorM Unit := do
  modify fun s => { s with btVendorCbacks := false }
  match (← get).mtklibHandle with
  | some handle => dlclose handle
  | none => return ()

/-- A call through a function pointer. -/
def callThrough (function : Option Handle) : VendorM Unit := do
  match function with
  | none => throw .nullFunction
  | some handle => if held handle (← get).library then return () else throw .unloaded

/-- `fd` is what `mtk_bt_enable` returns. -/
def mtkOpen (fd : BitVec 32) : VendorM Int := do
  callThrough (← get).mtkBtEnable
  if fd.slt 0 then return -1
  else
    modify fun s => { s with
      transport := s.transport ++ [.acquire fd]
      events := s.events ++ [.storedFds (List.replicate hdr.chMax fd)]
      hciTtyFd := fd }
    return 1

/-- `result` is what `mtk_bt_disable` returns. -/
def mtkClose (result : Int) : VendorM Int := do
  if (← get).hciTtyFd = -1 then return -1
  else
    callThrough (← get).mtkBtDisable
    modify fun s => { s with transport := s.transport ++ [.release s.hciTtyFd] }
    return result

/-- A call through one of the callbacks. -/
def callBack (event : Event) : VendorM Unit := do
  if (← get).btVendorCbacks then modify fun s => { s with events := s.events ++ [event] }
  else throw .nullCallbacks

/-- One operation, with what the driver's functions return should it call them. -/
structure Op where
  opcode : Opcode
  enableResult : BitVec 32
  disableResult : Int

def mtkOp (op : Op) : VendorM Int :=
  match op.opcode with
  | .powerCtrl | .scoCfg | .lpmSetMode | .lpmWakeSetState | .other _ => return 0
  | .getLpmIdleTimeout => do
      modify fun s => { s with events := s.events ++ [.storedTimeout 200] }
      return 0
  | .userialOpen => mtkOpen hdr op.enableResult
  | .userialClose => mtkClose op.disableResult
  | .fwCfg => do
      callBack .fwcfgCb
      return 0
  | .epilog => do
      callBack .epilogCb
      return 0

/-! ## What each entry point does -/

variable {hdr} {s : Vendor} {loading : Loading} {handle : Handle}

/-- Without callbacks nothing happens. -/
theorem exec_mtkInit_null :
    exec (mtkInit hdr false loading) s = (.ok hdr.btHcStatusFail.val, s) := rfl

theorem exec_mtkInit_unopened (h : loading.dlopen = none) :
    exec (mtkInit hdr true loading) s =
      (.ok 0, { s with btVendorCbacks := true, mtklibHandle := none }) := by
  simp only [mtkInit, h]
  rfl

theorem exec_mtkInit_opened (h : loading.dlopen = some handle) :
    exec (mtkInit hdr true loading) s = (.ok 0, { s with
      btVendorCbacks := true
      mtklibHandle := some handle
      library :=
        if loading.dlerror then s.library ++ [.acquire handle] ++ [.release handle]
        else s.library ++ [.acquire handle]
      mtkBtEnable := if loading.enable then some handle else none
      mtkBtDisable := if loading.disable then some handle else none }) := by
  simp only [mtkInit, h]
  cases loading.dlerror <;> rfl

theorem exec_mtkCleanup :
    exec mtkCleanup s = (.ok (), { s with
      btVendorCbacks := false
      library := match s.mtklibHandle with
        | some handle => s.library ++ [.release handle]
        | none => s.library }) := by
  rw [mtkCleanup, exec_bind_of_ok exec_modify, exec_bind_of_ok exec_get]
  cases s.mtklibHandle <;> rfl

/-- The globals the loader fills in and the callbacks, with what became of the library. -/
def Vendor.loaded (s : Vendor) :
    Option Handle × Option Handle × Option Handle × Bool × List (Use Handle) :=
  (s.mtklibHandle, s.mtkBtEnable, s.mtkBtDisable, s.btVendorCbacks, s.library)

theorem frames_callThrough {γ : Type} {part : Vendor → γ} {function : Option Handle} :
    Frames part (callThrough function) := by
  unfold callThrough
  cases function with
  | none => exact frames_throw
  | some handle => exact frames_bind frames_get fun _ => frames_ite frames_pure frames_throw

theorem frames_callBack {event : Event} : Frames Vendor.loaded (callBack event) :=
  frames_bind frames_get fun _ => frames_ite (frames_modify fun _ => rfl) frames_throw

theorem frames_mtkOpen {fd : BitVec 32} : Frames Vendor.loaded (mtkOpen hdr fd) := by
  apply frames_bind frames_get
  intro s
  apply frames_bind frames_callThrough
  intro _
  apply frames_ite frames_pure
  exact frames_bind (frames_modify fun _ => rfl) fun _ => frames_pure

theorem frames_mtkClose {result : Int} : Frames Vendor.loaded (mtkClose result) := by
  apply frames_bind frames_get
  intro s
  apply frames_ite frames_pure
  apply frames_bind frames_get
  intro s
  apply frames_bind frames_callThrough
  intro _
  exact frames_bind (frames_modify fun _ => rfl) fun _ => frames_pure

/-- An operation leaves alone what the loader filled in. -/
theorem frames_mtkOp {op : Op} : Frames Vendor.loaded (mtkOp hdr op) := by
  obtain ⟨opcode, fd, result⟩ := op
  cases opcode with
  | powerCtrl | scoCfg | lpmSetMode | lpmWakeSetState | other => exact frames_pure
  | getLpmIdleTimeout => exact frames_bind (frames_modify fun _ => rfl) fun _ => frames_pure
  | userialOpen => exact frames_mtkOpen
  | userialClose => exact frames_mtkClose
  | fwCfg | epilog => exact frames_bind frames_callBack fun _ => frames_pure

/-! ## A usable library -/

/-- The library is loaded, and both functions were found in it. -/
structure Resolved (s : Vendor) (handle : Handle) : Prop where
  loaded : s.mtklibHandle = some handle
  held : held handle s.library = true
  enable : s.mtkBtEnable = some handle
  disable : s.mtkBtDisable = some handle

/-- What a resolved library is depends on what the loader filled in only. -/
theorem Resolved.of_loaded {t : Vendor} (h : Resolved s handle) (hloaded : t.loaded = s.loaded) :
    Resolved t handle := by
  obtain ⟨hhandle, hrest⟩ := Prod.mk.inj hloaded
  obtain ⟨henable, hrest⟩ := Prod.mk.inj hrest
  obtain ⟨hdisable, hrest⟩ := Prod.mk.inj hrest
  obtain ⟨-, hlibrary⟩ := Prod.mk.inj hrest
  exact ⟨hhandle.trans h.loaded, by rw [hlibrary, h.held], henable.trans h.enable,
    hdisable.trans h.disable⟩

theorem exec_callThrough_held {function : Option Handle} (hfunction : function = some handle)
    (hheld : held handle s.library = true) : exec (callThrough function) s = (.ok (), s) := by
  rw [hfunction, callThrough, exec_bind_of_ok exec_get, if_pos hheld, exec_pure]

theorem exec_mtkOpen_of_resolved (h : Resolved s handle) {fd : BitVec 32} :
    exec (mtkOpen hdr fd) s =
      if fd.slt 0 then (.ok (-1), s)
      else (.ok 1, { s with
        transport := s.transport ++ [.acquire fd]
        events := s.events ++ [.storedFds (List.replicate hdr.chMax fd)]
        hciTtyFd := fd }) := by
  rw [mtkOpen, exec_bind_of_ok exec_get,
    exec_bind_of_ok (exec_callThrough_held h.enable h.held)]
  split <;> rfl

theorem exec_mtkClose_of_resolved (h : Resolved s handle) {result : Int} :
    exec (mtkClose result) s =
      if s.hciTtyFd = -1 then (.ok (-1), s)
      else (.ok result, { s with transport := s.transport ++ [.release s.hciTtyFd] }) := by
  rw [mtkClose, exec_bind_of_ok exec_get]
  split
  · rfl
  · rw [exec_bind_of_ok exec_get, exec_bind_of_ok (exec_callThrough_held h.disable h.held)]
    rfl

end Bluetooth
