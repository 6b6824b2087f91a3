-- SUMMARY: Replies of the kernel to testmode messages: nested attributes, and the two handlers that store them in a struct.
import GioneeP4.Lib.CText
import GioneeP4.Lib.Words

/-!
# Testmode replies

A reply carries nested attributes. A handler parses them against its policy and
stores those present in the caller's struct, one field for each attribute; the
struct keeps what it held elsewhere.
-/

namespace Wpa

open CText

/-- An array of bytes in a struct. -/
abbrev Bytes (n : Nat) := Vector Byte n

/-- A hardware address, `ETH_ALEN` bytes. -/
abbrev Addr := Bytes 6

/-! ## Attributes -/

structure Attr where
  type : Nat
  payload : List Byte

/-- The nested attributes of a reply, `none` when it has no `TESTDATA`. -/
abbrev Reply := Option (List Attr)

inductive NlaType
  | unspec | u8 | u16 | u32 | u64

/-- The least payload the policy of a type accepts. -/
def NlaType.minLen : NlaType → Nat
  | .unspec => 0
  | .u8 => 1
  | .u16 => 2
  | .u32 => 4
  | .u64 => 8

/-- `nla_parse_nested`: the last payload of each type, or failure against the policy. -/
def nlaParseNested (maxType : Nat) (policy : Nat → NlaType) (attrs : List Attr) :
    Option (Nat → Option (List Byte)) :=
  let known := attrs.filter fun a => 0 < a.type ∧ a.type ≤ maxType
  if known.all fun a => (policy a.type).minLen ≤ a.payload.length then
    some fun type => ((known.filter fun a => a.type = type).getLast?).map Attr.payload
  else none

/-- The number the first bytes of a payload spell, least significant first. -/
def leNat : List Byte → Nat
  | [] => 0
  | b :: bs => b.toNat + 256 * leNat bs

/-- `nla_get_u8`, `nla_get_u16`, `nla_get_u32` and `nla_get_u64`, by width in bytes. -/
def nlaGet (bytes : Nat) (payload : List Byte) : BitVec (8 * bytes) :=
  BitVec.ofNat _ (leNat (payload.take bytes))

/-- `nla_memcpy`: as much of the payload as fits, the rest of the field stays. -/
def nlaMemcpy {n : Nat} (field : Bytes n) (payload : List Byte) : Bytes n :=
  Vector.ofFn fun i => payload[i.val]?.getD field[i]

/-! ## Station statistics -/

/-- A `double`: half an integer, as the handler computes it, or what the memory held. -/
inductive Double
  | half (twice : BitVec 16)
  | raw (bits : BitVec 64)
  deriving Inhabited

structure StaStatistics where
  version : BitVec 8
  addr : Addr
  flag : BitVec 32
  linkScore : BitVec 8
  per : BitVec 8
  rssi : Int
  phyMode : BitVec 32
  txRate : Double
  txTotalCnt : BitVec 32
  txExcThresholdCnt : BitVec 32
  txAvgProcessTime : BitVec 32
  txFailCnt : BitVec 32
  txTimeoutCnt : BitVec 32
  txAvgAirTime : BitVec 32
  tcBufFullCnt : Bytes 16
  tcQueLen : Bytes 16
  tcAvgQueLen : Bytes 16
  tcCurQueLen : Bytes 16
  reserved : Bytes 32
  deriving Inhabited

/-- The attributes of station statistics, numbered from 1 in this order. -/
inductive StaStatisticsAttr
  | version | mac | linkScore | flag | per | rssi | phyMode | txRate | totalCnt | thresholdCnt
  | avgProcessTime | failCnt | timeoutCnt | avgAirTime | tcEmptyCntArray | tcQueLenArray
  | tcAvgQueLenArray | tcCurQueLenArray | reservedArray
  deriving DecidableEq

namespace StaStatisticsAttr

def all : List StaStatisticsAttr :=
  [.version, .mac, .linkScore, .flag, .per, .rssi, .phyMode, .txRate, .totalCnt, .thresholdCnt,
    .avgProcessTime, .failCnt, .timeoutCnt, .avgAirTime, .tcEmptyCntArray, .tcQueLenArray,
    .tcAvgQueLenArray, .tcCurQueLenArray, .reservedArray]

def number (a : StaStatisticsAttr) : Nat := a.ctorIdx + 1

def policy : StaStatisticsAttr → NlaType
  | .version | .linkScore | .per | .rssi => .u8
  | .flag | .phyMode | .totalCnt | .thresholdCnt | .avgProcessTime | .failCnt | .timeoutCnt
  | .avgAirTime => .u32
  | .txRate => .u16
  | .mac | .tcEmptyCntArray | .tcQueLenArray | .tcAvgQueLenArray | .tcCurQueLenArray
  | .reservedArray => .unspec

/-- One case of the handler's switch. -/
def store (payload : List Byte) (s : StaStatistics) : StaStatisticsAttr → StaStatistics
  | .version => { s with version := nlaGet 1 payload }
  | .mac => { s with addr := nlaMemcpy s.addr payload }
  | .linkScore => { s with linkScore := nlaGet 1 payload }
  | .flag => { s with flag := nlaGet 4 payload }
  | .per => { s with per := nlaGet 1 payload }
  | .rssi => { s with rssi := (((nlaGet 1 payload).toNat : Int) - 220).tdiv 2 }
  | .phyMode => { s with phyMode := nlaGet 4 payload }
  | .txRate => { s with txRate := .half (nlaGet 2 payload) }
  | .failCnt => { s with txFailCnt := nlaGet 4 payload }
  | .timeoutCnt => { s with txTimeoutCnt := nlaGet 4 payload }
  | .avgAirTime => { s with txAvgAirTime := nlaGet 4 payload }
  | .totalCnt => { s with txTotalCnt := nlaGet 4 payload }
  | .thresholdCnt => { s with txExcThresholdCnt := nlaGet 4 payload }
  | .avgProcessTime => { s with txAvgProcessTime := nlaGet 4 payload }
  | .tcEmptyCntArray => { s with tcBufFullCnt := nlaMemcpy s.tcBufFullCnt payload }
  | .tcQueLenArray => { s with tcQueLen := nlaMemcpy s.tcQueLen payload }
  | .tcAvgQueLenArray => { s with tcAvgQueLen := nlaMemcpy s.tcAvgQueLen payload }
  | .tcCurQueLenArray => { s with tcCurQueLen := nlaMemcpy s.tcCurQueLen payload }
  | .reservedArray => { s with reserved := nlaMemcpy s.reserved payload }

end StaStatisticsAttr

/-- The policy of the attribute with a number. -/
def statisticsPolicy (type : Nat) : NlaType :=
  match StaStatisticsAttr.all.find? fun a => a.number = type with
  | some a => a.policy
  | none => .unspec

def testmodeStaStatisticsHandler (s : StaStatistics) (reply : Reply) : StaStatistics :=
  match reply.bind (nlaParseNested StaStatisticsAttr.all.length statisticsPolicy) with
  | none => s
  | some sinfo =>
      StaStatisticsAttr.all.foldl (fun s a =>
        match sinfo a.number with
        | some payload => a.store payload s
        | none => s) s

/-! ## Link detection -/

structure StaLinkDetect where
  txFailCnt : BitVec 64
  txRetryCnt : BitVec 64
  txMultiRetryCnt : BitVec 64
  ackFailCnt : BitVec 64
  fcsErrCnt : BitVec 64
  txCnt : BitVec 64
  txOkCnt : BitVec 64
  txOsCnt : BitVec 64
  deriving Inhabited

/-- The attributes of link detection, numbered from 1 in this order. -/
inductive LinkDetectAttr
  | txFailCnt | txRetryCnt | txMultiRetryCnt | ackFailCnt | fcsErrCnt | txCnt | txOkCnt | txOsCnt
  deriving DecidableEq

namespace LinkDetectAttr

def all : List LinkDetectAttr :=
  [.txFailCnt, .txRetryCnt, .txMultiRetryCnt, .ackFailCnt, .fcsErrCnt, .txCnt, .txOkCnt, .txOsCnt]

def number (a : LinkDetectAttr) : Nat := a.ctorIdx + 1

/-- One case of the handler's switch. -/
def store (payload : List Byte) (s : StaLinkDetect) : LinkDetectAttr → StaLinkDetect
  | .txFailCnt => { s with txFailCnt := nlaGet 8 payload }
  | .txRetryCnt => { s with txRetryCnt := nlaGet 8 payload }
  | .txMultiRetryCnt => { s with txMultiRetryCnt := nlaGet 8 payload }
  | .ackFailCnt =>
      let ackCnt : BitVec 64 := nlaGet 8 payload
      if ackCnt.slt 0 then { s with ackFailCnt := -ackCnt } else { s with ackFailCnt := ackCnt }
  | .fcsErrCnt => { s with fcsErrCnt := nlaGet 8 payload }
  | .txCnt => { s with txCnt := nlaGet 8 payload }
  | .txOkCnt => { s with txOkCnt := nlaGet 8 payload }
  | .txOsCnt => { s with txOsCnt := nlaGet 8 payload }

end LinkDetectAttr

def testmodeStaLinkDetectHandler (s : StaLinkDetect) (reply : Reply) : StaLinkDetect :=
  match reply.bind (nlaParseNested LinkDetectAttr.all.length fun _ => .u64) with
  | none => s
  | some sinfo =>
      LinkDetectAttr.all.foldl (fun s a =>
        match sinfo a.number with
        | some payload => a.store payload s
        | none => s) s

end Wpa
