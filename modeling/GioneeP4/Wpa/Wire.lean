-- SUMMARY: The structs of messages on the 32-bit target: the bytes the kernel is handed, and what is read back from them.
import GioneeP4.Lib.Structs
import GioneeP4.Wpa.Decoding
import GioneeP4.Wpa.Sessions

/-!
# Messages in memory

A message is a struct on the stack, and the kernel is handed its bytes. On the
target a `u32`, an `unsigned long` and a pointer have four bytes, the least
significant first. Three of the structs are declared beside the commands; those of
WAPI, of P2P sigma and of link detection are declared elsewhere.

The pointer to the struct that replies are stored in travels within the message,
and `wpa_driver_nl80211_testmode` reads it from there.
-/

namespace Wpa

open Prog CText Memory Words

/-! ## Structs -/

/-- `struct wpa_driver_test_mode_info`, which every message starts with. -/
inductive TestModeInfo
  | index | buflen
  deriving DecidableEq

namespace TestModeInfo

def size (_ : TestModeInfo) : Nat := 4

def declared : List TestModeInfo := [.index, .buflen]

def layout : Layout TestModeInfo size :=
  .aligned size size declared fun i => by cases i <;> decide

theorem within : layout.Within 8 := Layout.within_aligned

end TestModeInfo

/-- `struct wpa_driver_sw_cmd_params` -/
inductive SwCmdParams
  | hdrIndex | hdrBuflen | set | adr | data
  deriving DecidableEq

namespace SwCmdParams

def size : SwCmdParams → Nat
  | .set => 1
  | _ => 4

def declared : List SwCmdParams := [.hdrIndex, .hdrBuflen, .set, .adr, .data]

def layout : Layout SwCmdParams size :=
  .aligned size size declared fun i => by cases i <;> decide

def sizeof : Nat := alignedSize size size declared

example : layout.offset .adr = 12 ∧ sizeof = 20 := by decide

theorem within : layout.Within sizeof := Layout.within_aligned

end SwCmdParams

/-- `struct wpa_driver_hotspot_params` -/
inductive HotspotParams
  | hdrIndex | hdrBuflen | blocked | bssid
  deriving DecidableEq

namespace HotspotParams

def size : HotspotParams → Nat
  | .blocked => 1
  | .bssid => 6
  | _ => 4

def align : HotspotParams → Nat
  | .blocked | .bssid => 1
  | _ => 4

def declared : List HotspotParams := [.hdrIndex, .hdrBuflen, .blocked, .bssid]

def layout : Layout HotspotParams size :=
  .aligned size align declared fun i => by cases i <;> decide

def sizeof : Nat := alignedSize size align declared

example : layout.offset .bssid = 9 ∧ sizeof = 16 := by decide

theorem within : layout.Within sizeof := Layout.within_aligned

end HotspotParams

/-- `struct wpa_driver_get_sta_statistics_params` -/
inductive GetStaStatisticsParams
  | hdrIndex | hdrBuflen | version | flag | addr | buf
  deriving DecidableEq

namespace GetStaStatisticsParams

def size : GetStaStatisticsParams → Nat
  | .addr => 6
  | _ => 4

def align : GetStaStatisticsParams → Nat
  | .addr => 1
  | _ => 4

def declared : List GetStaStatisticsParams :=
  [.hdrIndex, .hdrBuflen, .version, .flag, .addr, .buf]

def layout : Layout GetStaStatisticsParams size :=
  .aligned size align declared fun i => by cases i <;> decide

def sizeof : Nat := alignedSize size align declared

example : layout.offset .buf = 24 ∧ sizeof = 28 := by decide

theorem within : layout.Within sizeof := Layout.within_aligned

end GetStaStatisticsParams

/-! ## Assignments -/

/-- The two assignments to `hdr.index`, and the one to `hdr.buflen`. -/
def assignHdr {ι : Type} (hdrIndex hdrBuflen : ι) (index : BitVec 32) (buflen : Nat) :
    List (ι × List Byte) :=
  [(hdrIndex, leBytes index),
    (hdrIndex, leBytes (index ||| (0x01 <<< 24))),
    (hdrBuflen, leBytes (BitVec.ofNat 32 buflen))]

/-- The assignments of `wpa_driver_nl80211_driver_sw_cmd`. -/
def SwCmdParams.assignments (set : Bool) (adr dat : BitVec 32) : List (SwCmdParams × List Byte) :=
  assignHdr .hdrIndex .hdrBuflen 1 sizeof ++
    [(.adr, leBytes adr), (.data, leBytes dat), (.set, [if set then 1 else 0])]

/-- The assignments of `wpa_driver_hotspot_block_list_update`. -/
def HotspotParams.assignments (bssid : Addr) (blocked : BitVec 8) :
    List (HotspotParams × List Byte) :=
  [(.bssid, bssid.toList), (.blocked, [blocked])] ++ assignHdr .hdrIndex .hdrBuflen 3 sizeof

/-- The assignments of `wpas_get_sta_statistics`. -/
def GetStaStatisticsParams.assignments (staAddr : Addr) (buf : BitVec 32) :
    List (GetStaStatisticsParams × List Byte) :=
  (.addr, staAddr.toList) :: assignHdr .hdrIndex .hdrBuflen 0x10 sizeof ++ [(.buf, leBytes buf)]

/-- The bytes the kernel is handed for a message whose struct is declared here; a request for
    statistics carries a pointer. -/
def TestmodeParams.bytes (buf : BitVec 32) : TestmodeParams → Option (List Byte)
  | .swCmd set adr dat =>
      some (SwCmdParams.layout.image 0 SwCmdParams.sizeof (SwCmdParams.assignments set adr dat))
  | .hotspot blocked bssid =>
      some (HotspotParams.layout.image 0 HotspotParams.sizeof
        (HotspotParams.assignments bssid blocked))
  | .getStaStatistics addr =>
      some (GetStaStatisticsParams.layout.image 0 GetStaStatisticsParams.sizeof
        (GetStaStatisticsParams.assignments addr buf))
  | .wapiKey _ | .getStaLinkDetect | .p2pSigma _ _ => none

section Assignments

variable {set : Bool} {adr dat : BitVec 32} {bssid staAddr : Addr} {blocked : BitVec 8}
variable {buf : BitVec 32}

theorem SwCmdParams.fills : Layout.Fills size (assignments set adr dat) := by
  simp [Layout.Fills, assignments, assignHdr, size]

theorem HotspotParams.fills : Layout.Fills size (assignments bssid blocked) := by
  simp [Layout.Fills, assignments, assignHdr, size]

theorem GetStaStatisticsParams.fills : Layout.Fills size (assignments staAddr buf) := by
  simp [Layout.Fills, assignments, assignHdr, size]

end Assignments

/-! ## What is read back -/

def addrOf (bytes : List Byte) : Addr := Vector.ofFn fun i => bytes[i.val]?.getD 0

/-- The message that bytes stand for, by the index in their header. -/
def TestmodeParams.ofBytes (bytes : List Byte) : Option TestmodeParams :=
  let index := ofLeBytes (TestModeInfo.layout.read bytes .index)
  if index = 0x01000001 then
    let field := SwCmdParams.layout.read bytes
    some (.swCmd (field .set ≠ [0]) (ofLeBytes (field .adr)) (ofLeBytes (field .data)))
  else if index = 0x01000003 then
    let field := HotspotParams.layout.read bytes
    some (.hotspot ((field .blocked).headD 0) (addrOf (field .bssid)))
  else if index = 0x01000010 then
    some (.getStaStatistics (addrOf (GetStaStatisticsParams.layout.read bytes .addr)))
  else none

/-- The header of the bytes says which message they are and how many, and nothing of the message
    is lost. -/
structure Readable (p : TestmodeParams) (bytes : List Byte) : Prop where
  index : ofLeBytes (TestModeInfo.layout.read bytes .index) = p.hdrIndex
  buflen : (ofLeBytes (TestModeInfo.layout.read bytes .buflen)).toNat = bytes.length
  recovered : TestmodeParams.ofBytes bytes = some p

section Readable

variable {p : TestmodeParams} {bytes : List Byte} {buf : BitVec 32}

theorem addrOf_toList {addr : Addr} : addrOf addr.toList = addr := by
  apply Vector.ext
  intro i hi
  simp [addrOf]

theorem SwCmdParams.read_image {set : Bool} {adr dat : BitVec 32} {i : SwCmdParams} :
    layout.read (layout.image 0 sizeof (assignments set adr dat)) i =
      match i with
      | .hdrIndex => leBytes 0x01000001
      | .hdrBuflen => leBytes 20
      | .set => [if set then 1 else 0]
      | .adr => leBytes adr
      | .data => leBytes dat := by
  rw [Layout.read_image within fills]
  cases i <;> rfl

theorem HotspotParams.read_image {bssid : Addr} {blocked : BitVec 8} {i : HotspotParams} :
    layout.read (layout.image 0 sizeof (assignments bssid blocked)) i =
      match i with
      | .hdrIndex => leBytes 0x01000003
      | .hdrBuflen => leBytes 16
      | .blocked => [blocked]
      | .bssid => bssid.toList := by
  rw [Layout.read_image within fills]
  cases i <;> rfl

theorem GetStaStatisticsParams.read_image {staAddr : Addr} {i : GetStaStatisticsParams} :
    layout.read (layout.image 0 sizeof (assignments staAddr buf)) i =
      match i with
      | .hdrIndex => leBytes 0x01000010
      | .hdrBuflen => leBytes 28
      | .version | .flag => leBytes 0
      | .addr => staAddr.toList
      | .buf => leBytes buf := by
  rw [Layout.read_image within fills]
  cases i <;> rfl

/-- A message whose header is its own is readable if its members are recovered. -/
theorem Readable.of_header {index buflen : BitVec 32}
    (hindex : TestModeInfo.layout.read bytes .index = leBytes index)
    (hbuflen : TestModeInfo.layout.read bytes .buflen = leBytes buflen)
    (hp : p.hdrIndex = index) (hlength : bytes.length = buflen.toNat)
    (hrecovered : TestmodeParams.ofBytes bytes = some p) : Readable p bytes := by
  constructor
  · rw [hindex, ofLeBytes_leBytes, hp]
  · rw [hbuflen, ofLeBytes_leBytes, hlength]
  · exact hrecovered

theorem readable_bytes (h : p.bytes buf = some bytes) : Readable p bytes := by
  cases p with
  | swCmd set adr dat =>
    obtain rfl := Option.some.inj h
    have hindex : TestModeInfo.layout.read _ .index = leBytes 0x01000001 :=
      @SwCmdParams.read_image set adr dat .hdrIndex
    apply Readable.of_header hindex (@SwCmdParams.read_image set adr dat .hdrBuflen)
    · rw [TestmodeParams.hdrIndex]
      decide
    · exact Layout.length_image
    · simp only [TestmodeParams.ofBytes, hindex, SwCmdParams.read_image, ofLeBytes_leBytes]
      cases set <;> simp
  | hotspot blocked bssid =>
    obtain rfl := Option.some.inj h
    have hindex : TestModeInfo.layout.read _ .index = leBytes 0x01000003 :=
      @HotspotParams.read_image bssid blocked .hdrIndex
    apply Readable.of_header hindex (@HotspotParams.read_image bssid blocked .hdrBuflen)
    · rw [TestmodeParams.hdrIndex]
      decide
    · exact Layout.length_image
    · simp only [TestmodeParams.ofBytes, hindex, HotspotParams.read_image, ofLeBytes_leBytes,
        addrOf_toList]
      rfl
  | getStaStatistics addr =>
    obtain rfl := Option.some.inj h
    have hindex : TestModeInfo.layout.read _ .index = leBytes 0x01000010 :=
      @GetStaStatisticsParams.read_image buf addr .hdrIndex
    apply Readable.of_header hindex (@GetStaStatisticsParams.read_image buf addr .hdrBuflen)
    · rw [TestmodeParams.hdrIndex]
      decide
    · exact Layout.length_image
    · simp only [TestmodeParams.ofBytes, hindex, GetStaStatisticsParams.read_image,
        ofLeBytes_leBytes, addrOf_toList]
      rfl
  | wapiKey msg | getStaLinkDetect | p2pSigma idx value => cases h

end Readable

/-! ## Sessions -/

/-- A build whose commands only send messages that are declared beside them. -/
def Features.Own (features : Features) : Prop :=
  features.poorLinkDetect = false ∧ features.wapi = false ∧ features.p2pSigma = false

/-- The branches of other builds. -/
def Branch.isForeign : Branch → Bool
  | .getStaLinkDetect | .setWapiKey | .wapiMsgSend | .mcc | .p2pSetOpps | .p2pSetPowerSave
  | .p2pSetSleep | .p2pSetSleepAll => true
  | _ => false

section Sessions

variable {features : Features} {env : Env} {cmd : Text} {wpaS : Option Station} {branch : Branch}
variable {p : TestmodeParams}

theorem isForeign_of_dispatch (hown : features.Own) (h : dispatch features cmd = some branch) :
    branch.isForeign = false := by
  obtain ⟨poorLinkDetect, hotspotMgr, wapi, p2pSigma⟩ := features
  obtain ⟨rfl, rfl, rfl⟩ := hown
  obtain ⟨c, hfind, rfl⟩ := Option.map_eq_some_iff.mp h
  have htest := List.find?_some hfind
  simp only [Bool.and_eq_true] at htest
  have hall : ∀ c ∈ cases, c.compiled ⟨false, hotspotMgr, false, false⟩ = true →
      c.branch.isForeign = false := by
    cases hotspotMgr <;> decide
  exact hall c (List.mem_of_find?_eq_some hfind) htest.1

theorem bytes_of_numbered {cp : Text} {swCmd base buf : BitVec 32}
    (h : numberedMessage cp swCmd base = some p) : ∃ bytes, p.bytes buf = some bytes := by
  obtain ⟨-, hsent⟩ := Option.ite_none_left_eq_some.mp h
  obtain rfl := Option.some.inj hsent
  exact ⟨_, rfl⟩

/-- The messages of the other branches are declared beside the commands. -/
theorem bytes_of_message {buf : BitVec 32} (hforeign : branch.isForeign = false)
    (h : branch.message env wpaS cmd = some p) : ∃ bytes, p.bytes buf = some bytes := by
  cases branch with
  | getStaStatistics =>
    obtain ⟨addr, -, hmessage⟩ := Option.bind_eq_some_iff.mp h
    obtain ⟨-, hsent⟩ := Option.ite_none_right_eq_some.mp hmessage
    obtain rfl := Option.some.inj hsent
    exact ⟨_, rfl⟩
  | rxfilterAdd | rxfilterRemove | smtRate => exact bytes_of_numbered h
  | rxfilterStop | rxfilterStart | smtTestOn | smtTestOff =>
    obtain rfl := Option.some.inj h
    exact ⟨_, rfl⟩
  | staBlock | staUnblock =>
    obtain ⟨bssid, -, rfl⟩ := Option.map_eq_some_iff.mp h
    exact ⟨_, rfl⟩
  | getStaLinkDetect | setWapiKey | wapiMsgSend | mcc | p2pSetOpps | p2pSetPowerSave | p2pSetSleep
  | p2pSetSleepAll => cases hforeign
  | powermode | macaddr | country | start | stop | getpower | getRtsThreshold | setRtsThreshold
  | btcoexscanStart | btcoexscanStop | btcoexmode => cases h

/-- All that a session tells the kernel can be read off the bytes: each message has a header with
    its index and length, and no other message has the same bytes, whatever pointers they carry. -/
theorem session_readable {requests : List Request} {ifaces : List Iface}
    (hown : ∀ request ∈ requests, request.env.features.Own) :
    ∀ p ∈ (Machine.after Session.step ⟨[], ifaces⟩ requests).sent, ∀ buf,
      ∃ bytes, p.bytes buf = some bytes ∧ Readable p bytes ∧
        ∀ q other, q.bytes other = some bytes → q = p := by
  intro p hp buf
  rw [sent_session, List.nil_append, List.mem_filterMap] at hp
  obtain ⟨request, hrequest, hreached⟩ := hp
  obtain ⟨⟨drv, wpaS, branch⟩, hselected, hfilter⟩ := Option.bind_eq_some_iff.mp hreached
  obtain ⟨hmessage, -⟩ := Option.filter_eq_some_iff.mp hfilter
  have hforeign := isForeign_of_dispatch (hown request hrequest) (dispatch_of_selected hselected)
  obtain ⟨bytes, hbytes⟩ :=
    @bytes_of_message request.env request.cmd wpaS branch p buf hforeign hmessage
  refine ⟨bytes, hbytes, readable_bytes hbytes, ?_⟩
  intro q other hq
  have hrecovered := (readable_bytes hq).recovered
  rw [(readable_bytes hbytes).recovered] at hrecovered
  exact (Option.some.inj hrecovered).symm

theorem session_readable_filters :
    let requests : List Request :=
      [ascii "rxfilter-start", ascii "smt-rate 7", ascii "MACADDR"].map fun cmd => ⟨.idle, cmd, 64⟩
    ∀ p ∈ (Machine.after Session.step ⟨[], []⟩ requests).sent,
      ∃ bytes, p.bytes 0 = some bytes ∧ Readable p bytes := by
  intro requests p hp
  have hown : ∀ request ∈ requests, request.env.features.Own := by
    simp only [requests, List.forall_mem_map]
    exact fun _ _ => ⟨rfl, rfl, rfl⟩
  obtain ⟨bytes, hbytes, hreadable, -⟩ := session_readable hown p hp 0
  exact ⟨bytes, hbytes, hreadable⟩

end Sessions

end Wpa
