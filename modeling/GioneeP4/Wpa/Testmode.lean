-- SUMMARY: The driver commands' surroundings, and the testmode messages they exchange with the kernel.
import GioneeP4.Lib.Printing
import GioneeP4.Lib.Prog
import GioneeP4.Wpa.Netlink

/-!
# Testmode messages

A driver command runs in `DrvM`: its state is what it did so far, and it fails
where the code does something undefined. Most commands build one testmode
message, send it to the kernel and wait for the outcome, which is part of `Env`.
-/

namespace Wpa

open CText Printing

/-! ## Surroundings -/

/-- The arrays of fixed size that commands copy into. -/
inductive FixedArray
  | countryBuf | wapiKey | wapiTxSeq
  deriving DecidableEq

/-- The undefined steps a command may run into. -/
inductive Fault
  | nullPointer
  /-- `wpa_s` is used before it was set. -/
  | unsetStation
  /-- A read behind the NUL of the command string. -/
  | readPastNul
  /-- A write behind the end of a fixed-size array. -/
  | overflow (array : FixedArray)
  deriving DecidableEq

/-- The features of the build that add commands. -/
structure Features where
  poorLinkDetect : Bool
  hotspotMgr : Bool
  wapi : Bool
  p2pSigma : Bool
  deriving Inhabited

/-- The parts of `struct wpa_supplicant` that commands read. -/
structure Station where
  ownAddr : Addr
  /-- Whether `conf` is set. -/
  conf : Bool
  /-- Whether `drv_priv` is set. -/
  drvPriv : Bool

/-- The parts of an interface of the supplicant that `mcc` writes. -/
structure Iface where
  numMultichanConcurrent : Nat
  drvFlags : BitVec 32
  /-- `concurrent_operations` of the P2P configuration, if there is one. -/
  concurrentOperations : Option Int
  deriving DecidableEq

/-- `struct wpa_driver_nl80211_data`. The context is a station unless the interface is `ap0`. -/
structure Drv where
  ctx : Option Station
  associated : Bool

/-- The parameters a WAPI caller leaves in the buffer. -/
structure WapiKeyParam where
  addr : Option Addr
  keyIdx : Int
  setTx : Int
  seq : Option (List Byte)
  seqLen : Nat
  key : Option (List Byte)
  keyLen : Nat
  deriving Inhabited

/-- The constants and capacities of the WAPI key message, from its header. -/
structure WapiLayout where
  iwEncodeSeqMaxSize : Nat
  keyCapacity : Nat
  iwEncodeExtGroupKey : BitVec 32
  iwEncodeExtSetTxKey : BitVec 32
  iwEncodeAlgSms4 : Nat
  deriving Inhabited

structure WapiKeyMsg where
  keyIndex : Int
  keyLen : Nat
  extFlags : BitVec 32
  addr : Addr
  alg : Nat
  key : List Byte
  extKeyLen : Nat
  txSeq : List Byte

/-- The messages a command may send, by the struct that carries them. -/
inductive TestmodeParams
  | swCmd (set : Bool) (adr data : BitVec 32)
  | hotspot (blocked : BitVec 8) (bssid : Addr)
  | wapiKey (msg : WapiKeyMsg)
  | getStaStatistics (addr : Addr)
  | getStaLinkDetect
  | p2pSigma (idx value : BitVec 32)

/-- The fate of a testmode message. -/
inductive Exchange
  /-- `nlmsg_alloc` returned null. -/
  | allocFailed
  /-- An attribute did not fit in the message. -/
  | putFailed
  /-- What `send_and_recv_msgs` returned, and the replies it handed to the handler. -/
  | exchanged (ret : Int) (replies : List Reply)

/-- Everything a command meets outside its own code. -/
structure Env where
  features : Features
  ifname : Text
  drv : Option Drv
  exchange : TestmodeParams → Exchange
  /-- `linux_set_iface_flags` returns 0, or a negative error. -/
  linuxSetIfaceFlags : Bool → {ret : Int // ret ≤ 0}
  wpaDrvDeauthenticate : Int
  socket : Int
  ioctl : Text → Int
  /-- `hwaddr_aton`: the address a text starts with, `none` for a non-zero result. -/
  hwaddrAton : Text → Option Addr
  /-- Whether `MSG_DEBUG` texts are formatted. -/
  debug : Bool
  /-- What the stack holds where a struct or a word is not initialised. -/
  staStatistics : StaStatistics
  staLinkDetect : StaLinkDetect
  stackWord : BitVec 32
  /-- `%.1f` of a double given by its bits. -/
  formatDouble : BitVec 64 → Text
  wapiLayout : WapiLayout
  wapiKeyParam : WapiKeyParam
  /-- `msg_in_len` of the parameters a WAPI caller leaves in the buffer. -/
  wapiMsgInLen : Int
  wpaDriverFlagsP2pConcurrent : BitVec 32

/-- What a command did so far. -/
structure CmdState where
  buf : Buffer
  sent : List TestmodeParams
  /-- The interfaces of the supplicant. -/
  ifaces : List Iface

abbrev DrvM := Prog Fault CmdState

/-! ## Sending a message -/

/-- `hdr.index` of a message. -/
def TestmodeParams.hdrIndex (params : TestmodeParams) : BitVec 32 :=
  let index : BitVec 32 := match params with
    | .swCmd _ _ _ | .p2pSigma _ _ => 1
    | .wapiKey _ => 2
    | .hotspot _ _ => 3
    | .getStaStatistics _ => 0x10
    | .getStaLinkDetect => 0x20
  index ||| (0x01 <<< 24)

/-- The struct a message asks the kernel to fill in. -/
inductive TestmodeBuf
  | none
  | staStatistics (s : StaStatistics)
  | staLinkDetect (s : StaLinkDetect)

variable (env : Env)

/-- Hands the replies to the handler of the message's index. -/
def handleReplies (index : BitVec 32) (replies : List Reply) (buf : TestmodeBuf) : TestmodeBuf :=
  if index = 0x10 then
    match buf with
    | .staStatistics s => .staStatistics (replies.foldl testmodeStaStatisticsHandler s)
    | buf => buf
  else if index = 0x20 ∧ env.features.poorLinkDetect then
    match buf with
    | .staLinkDetect s => .staLinkDetect (replies.foldl testmodeStaLinkDetectHandler s)
    | buf => buf
  else buf

/-- `wpa_driver_nl80211_testmode`. `priv` says whether the driver handle is set. -/
def wpaDriverNl80211Testmode (priv : Bool) (params : TestmodeParams) (buf : TestmodeBuf) :
    DrvM (Int × TestmodeBuf) :=
  if !priv then throw .nullPointer
  else
    match env.exchange params with
    | .allocFailed => return (-1, buf)
    | .putFailed => return (-105, buf)  -- -ENOBUFS
    | .exchanged ret replies => do
        modify fun s => { s with sent := s.sent ++ [params] }
        -- mask version field
        return (ret, handleReplies env (params.hdrIndex &&& 0x00ffffff) replies buf)

def wpaDriverNl80211DriverSwCmd (set : Bool) (adr dat : BitVec 32) : DrvM Int := do
  let _ ← wpaDriverNl80211Testmode env true (.swCmd set adr dat) .none
  return 0

def wpaDriverHotspotBlockListUpdate (bssid : Addr) (blocked : BitVec 8) : DrvM Int := do
  let (ret, _) ← wpaDriverNl80211Testmode env true (.hotspot blocked bssid) .none
  return ret

def wpaDriverStaBlock (cmd : Text) : DrvM Int :=
  match env.hwaddrAton cmd with
  | none => return -1
  | some bssid => wpaDriverHotspotBlockListUpdate env bssid 1

def wpaDriverStaUnblock (cmd : Text) : DrvM Int :=
  match env.hwaddrAton cmd with
  | none => return -1
  | some bssid => wpaDriverHotspotBlockListUpdate env bssid 0

/-! ## WAPI -/

/-- Copies bytes to the start of a zeroed array. -/
def copyTo (array : FixedArray) (capacity : Nat) (bytes : List Byte) : DrvM (List Byte) :=
  if bytes.length ≤ capacity then return bytes ++ List.replicate (capacity - bytes.length) 0
  else throw (.overflow array)

def broadcast : Addr := Vector.replicate 6 0xff

def wpaDriverNl80211SetWapiKey (p : WapiKeyParam) : DrvM Int :=
  let layout := env.wapiLayout
  if p.seqLen > layout.iwEncodeSeqMaxSize * 2 then return -1
  else do
    let group := if p.addr = none ∨ p.addr = some broadcast then layout.iwEncodeExtGroupKey else 0
    let setTx := if p.setTx ≠ 0 then layout.iwEncodeExtSetTxKey else 0
    let key ← copyTo .wapiKey layout.keyCapacity ((p.key.getD []).take p.keyLen)
    let txSeq ←
      copyTo .wapiTxSeq (layout.iwEncodeSeqMaxSize * 2) ((p.seq.getD []).take p.seqLen)
    let msg : WapiKeyMsg :=
      { keyIndex := p.keyIdx + 1
        keyLen := p.keyLen
        extFlags := group ||| setTx
        addr := p.addr.getD broadcast
        alg := layout.iwEncodeAlgSms4
        key := key
        extKeyLen := if p.key.isSome then p.keyLen else 0
        txSeq := txSeq }
    let _ ← wpaDriverNl80211Testmode env true (.wapiKey msg) .none
    return 0

def wpaDriverNl80211SendMsg (msgInLen : Int) : Int :=
  if msgInLen > 1024 then -1 else 0

end Wpa
