-- SUMMARY: Replies decoded into structs in memory: each attribute that is present changes its own field, and nothing else is written.
import GioneeP4.Lib.Layout
import GioneeP4.Wpa.Fields

/-!
# Decoding in memory

The handlers write through a pointer to a struct. Where its fields lie is up to the
compiler, as are the bytes of a double; an integer is stored with its least
significant byte first. In memory a reply does what it does to the record.
-/

namespace Wpa

open CText Fill Memory

/-- The bytes of a number, least significant first. -/
def leBytesOf : Nat → Nat → List Byte
  | 0, _ => []
  | k + 1, n => BitVec.ofNat 8 n :: leBytesOf k (n / 256)

@[simp] theorem length_leBytesOf {k n : Nat} : (leBytesOf k n).length = k := by
  induction k generalizing n with
  | zero => rfl
  | succ k ih => rw [leBytesOf, List.length_cons, ih]

/-! ## Station statistics -/

namespace StaStatisticsAttr

/-- The bytes of the field an attribute is stored in. -/
def size : StaStatisticsAttr → Nat
  | .version | .linkScore | .per => 1
  | .mac => 6
  | .flag | .rssi | .phyMode | .totalCnt | .thresholdCnt | .avgProcessTime | .failCnt | .timeoutCnt
  | .avgAirTime => 4
  | .txRate => 8
  | .tcEmptyCntArray | .tcQueLenArray | .tcAvgQueLenArray | .tcCurQueLenArray => 16
  | .reservedArray => 32

/-- The alignment of the field. -/
def align : StaStatisticsAttr → Nat
  | .version | .linkScore | .per | .mac | .reservedArray => 1
  | .txRate => 8
  | _ => 4

/-- The fields in the order `struct wpa_driver_sta_statistics_s` declares them. -/
def declared : List StaStatisticsAttr :=
  [.version, .mac, .flag, .linkScore, .per, .rssi, .phyMode, .txRate, .totalCnt, .thresholdCnt,
    .avgProcessTime, .failCnt, .timeoutCnt, .avgAirTime, .tcEmptyCntArray, .tcQueLenArray,
    .tcAvgQueLenArray, .tcCurQueLenArray, .reservedArray]

/-- The struct as the natural alignments lay it out. -/
def layout : Layout StaStatisticsAttr size :=
  .aligned size align declared fun a => by cases a <;> decide

example : layout.offset .txRate = 24 := by decide

/-- What one case of the handler's switch writes to its field. -/
def written (doubleBytes : Double → Bytes 8) (a : StaStatisticsAttr) (payload : List Byte) :
    List Byte :=
  match a with
  | .version | .linkScore | .per => leBytesOf 1 (nlaGet 1 payload).toNat
  | .flag | .phyMode | .totalCnt | .thresholdCnt | .avgProcessTime | .failCnt | .timeoutCnt
  | .avgAirTime => leBytesOf 4 (nlaGet 4 payload).toNat
  | .rssi =>
      leBytesOf 4 (BitVec.ofInt 32 ((((nlaGet 1 payload).toNat : Int) - 220).tdiv 2)).toNat
  | .txRate => (doubleBytes (.half (nlaGet 2 payload))).toList
  | .mac => payload.take 6
  | .tcEmptyCntArray | .tcQueLenArray | .tcAvgQueLenArray | .tcCurQueLenArray => payload.take 16
  | .reservedArray => payload.take 32

/-- What a payload decodes to in its field. -/
def decoding (a : StaStatisticsAttr) (payload : List Byte) (old : FieldValue) : FieldValue :=
  match a, old with
  | .version, _ | .linkScore, _ | .per, _ => .unsigned (nlaGet 1 payload).toNat
  | .flag, _ | .phyMode, _ => .unsigned (nlaGet 4 payload).toNat
  | .rssi, _ => .signed ((((nlaGet 1 payload).toNat : Int) - 220).tdiv 2)
  | .txRate, _ => .rate (.half (nlaGet 2 payload))
  | .totalCnt, _ | .thresholdCnt, _ | .avgProcessTime, _ | .failCnt, _ | .timeoutCnt, _
  | .avgAirTime, _ => .signed (nlaGet 4 payload).toInt
  | _, .bytes array => .bytes (payload.take array.length ++ array.drop payload.length)
  | _, old => old

/-- The bytes of a field that holds a value. -/
def encode (doubleBytes : Double → Bytes 8) (a : StaStatisticsAttr) : FieldValue → List Byte
  | .unsigned n => leBytesOf a.size n
  | .signed z => leBytesOf a.size (BitVec.ofInt (8 * a.size) z).toNat
  | .rate d => (doubleBytes d).toList
  | .bytes array => array

/-- The payloads a parsed reply carries, by attribute. -/
def parsed (reply : Reply) : Option (StaStatisticsAttr → Option (List Byte)) :=
  (reply.bind (nlaParseNested all.length statisticsPolicy)).map fun sinfo a => sinfo a.number

variable {doubleBytes : Double → Bytes 8} {payload : List Byte} {a : StaStatisticsAttr}

theorem mem_all : a ∈ all := by
  cases a <;> decide

theorem length_written : (written doubleBytes a payload).length ≤ a.size := by
  cases a <;> simp [written, size]

theorem put_eq_decoding {old : FieldValue} : a.put payload old = a.decoding payload old := by
  cases a <;> cases old <;> simp only [put, decoding, overlay_eq]

/-- What a case writes, and the rest of its field, is the decoding. -/
theorem encode_decoding {s : StaStatistics} :
    encode doubleBytes a (a.decoding payload (a.field s)) =
      written doubleBytes a payload ++
        (encode doubleBytes a (a.field s)).drop (written doubleBytes a payload).length := by
  have hrest : ∀ {n : Nat} (array : Bytes n), array.toList.drop (payload.take n).length =
      array.toList.drop payload.length := by
    intro n array
    rw [List.length_take]
    rcases Nat.le_total payload.length n with hle | hge
    · rw [Nat.min_eq_right hle]
    · rw [Nat.min_eq_left hge, List.drop_eq_nil_of_le (by rw [Vector.length_toList]),
        List.drop_eq_nil_of_le (by rwa [Vector.length_toList])]
  have hwhole : ∀ {old new : List Byte}, old.length = new.length → new = new ++ old.drop new.length :=
    fun h => by rw [List.drop_eq_nil_of_le h.le, List.append_nil]
  cases a with
  | mac | tcEmptyCntArray | tcQueLenArray | tcAvgQueLenArray | tcCurQueLenArray
  | reservedArray =>
    simp only [field, decoding, encode, written, Vector.length_toList, hrest]
  | totalCnt | thresholdCnt | avgProcessTime | failCnt | timeoutCnt | avgAirTime =>
    simp only [field, decoding, encode, written, size, BitVec.ofInt_toInt]
    exact hwhole (by rw [length_leBytesOf, length_leBytesOf])
  | txRate => exact hwhole (by simp [field, decoding, encode])
  | _ => exact hwhole (by simp [field, decoding, encode, size])

end StaStatisticsAttr

/-- `testmode_sta_statistics_handler`, for a struct at an address. -/
def testmodeStaStatisticsHandlerTo (L : Layout StaStatisticsAttr StaStatisticsAttr.size)
    (doubleBytes : Double → Bytes 8) (reply : Reply) (m : Mem Byte) (arg : Nat) : Mem Byte :=
  L.putParsed (StaStatisticsAttr.written doubleBytes) (StaStatisticsAttr.parsed reply) m arg
    StaStatisticsAttr.all

theorem testmodeStaStatisticsHandler_pointwise
    {L : Layout StaStatisticsAttr StaStatisticsAttr.size} {doubleBytes : Double → Bytes 8}
    {reply : Reply} :
    Layout.PointwiseUpdate L (fun s a => StaStatisticsAttr.field s a)
      (StaStatisticsAttr.encode doubleBytes) StaStatisticsAttr.decoding
      (StaStatisticsAttr.parsed reply) (fun s => testmodeStaStatisticsHandler s reply)
      (testmodeStaStatisticsHandlerTo L doubleBytes reply) := by
  apply Layout.pointwiseUpdate_putAll
  · intro hrejected s
    simp only [testmodeStaStatisticsHandler, Option.map_eq_none_iff.mp hrejected]
  · intro info hparsed s a
    obtain ⟨sinfo, hsinfo, rfl⟩ := Option.map_eq_some_iff.mp hparsed
    have hpayload : StaStatisticsAttr.payload reply a = sinfo a.number := by
      rw [StaStatisticsAttr.payload, hsinfo]
      rfl
    simp only
    rw [StaStatisticsAttr.field_handler, hpayload]
    cases sinfo a.number with
    | none => rfl
    | some p => exact StaStatisticsAttr.put_eq_decoding
  · exact fun _ _ => StaStatisticsAttr.length_written
  · exact fun _ _ _ => StaStatisticsAttr.encode_decoding
  · decide
  · exact fun _ => StaStatisticsAttr.mem_all

/-! ## Link detection -/

namespace LinkDetectAttr

/-- The struct of link detection, eight `u64` one behind the other. -/
def layout : Layout LinkDetectAttr fun _ => 8 :=
  .aligned (fun _ => 8) (fun _ => 8) all fun a => by cases a <;> decide

example : layout.offset .txOsCnt = 56 := by decide

/-- What a payload decodes to, whatever the field held. -/
def decoding (a : LinkDetectAttr) (payload : List Byte) (_ : BitVec 64) : BitVec 64 :=
  let value : BitVec 64 := nlaGet 8 payload
  match a with
  | .ackFailCnt => BitVec.ofNat 64 value.toInt.natAbs
  | _ => value

/-- What one case of the handler's switch writes to its field. -/
def written (a : LinkDetectAttr) (payload : List Byte) : List Byte :=
  let value : BitVec 64 := nlaGet 8 payload
  match a with
  | .ackFailCnt => if value.slt 0 then leBytesOf 8 (-value).toNat else leBytesOf 8 value.toNat
  | _ => leBytesOf 8 value.toNat

/-- The bytes of a field that holds a number. -/
def encode (_ : LinkDetectAttr) (value : BitVec 64) : List Byte := leBytesOf 8 value.toNat

/-- The payloads a parsed reply carries, by attribute. -/
def parsed (reply : Reply) : Option (LinkDetectAttr → Option (List Byte)) :=
  (reply.bind (nlaParseNested all.length fun _ => .u64)).map fun sinfo a => sinfo a.number

variable {payload : List Byte} {a : LinkDetectAttr}

theorem mem_all : a ∈ all := by
  cases a <;> decide

theorem length_written : (written a payload).length = 8 := by
  cases a with
  | ackFailCnt =>
    simp only [written]
    split <;> exact length_leBytesOf
  | _ => exact length_leBytesOf

/-- Negating a negative number gives its absolute value, the least one being its own. -/
theorem put_eq_decoding (old : BitVec 64) : a.put payload old = a.decoding payload old := by
  cases a with
  | ackFailCnt =>
    simp only [put, decoding]
    generalize (nlaGet 8 payload : BitVec 64) = value
    have hlt := value.isLt
    have hint := BitVec.toInt_eq_toNat_cond value
    apply BitVec.eq_of_toNat_eq
    rw [BitVec.toNat_ofNat]
    by_cases hneg : value.toInt < 0
    · rw [if_pos (BitVec.slt_iff_toInt_lt.mpr hneg), BitVec.toNat_neg]
      split at hint
      · omega
      · congr 1
        omega
    · rw [if_neg (mt BitVec.slt_iff_toInt_lt.mp hneg)]
      split at hint
      · omega
      · omega
  | _ => rfl

theorem encode_put {old : BitVec 64} : encode a (a.put payload old) = written a payload := by
  cases a with
  | ackFailCnt => exact apply_ite (fun value : BitVec 64 => leBytesOf 8 value.toNat) ..
  | _ => rfl

end LinkDetectAttr

/-- `testmode_sta_link_detect_handler`, for a struct at an address. -/
def testmodeStaLinkDetectHandlerTo (L : Layout LinkDetectAttr fun _ => 8) (reply : Reply)
    (m : Mem Byte) (arg : Nat) : Mem Byte :=
  L.putParsed LinkDetectAttr.written (LinkDetectAttr.parsed reply) m arg LinkDetectAttr.all

theorem testmodeStaLinkDetectHandler_pointwise {L : Layout LinkDetectAttr fun _ => 8}
    {reply : Reply} :
    Layout.PointwiseUpdate L (fun s a => LinkDetectAttr.field s a) LinkDetectAttr.encode
      LinkDetectAttr.decoding (LinkDetectAttr.parsed reply)
      (fun s => testmodeStaLinkDetectHandler s reply) (testmodeStaLinkDetectHandlerTo L reply) := by
  apply Layout.pointwiseUpdate_putAll
  · intro hrejected s
    simp only [testmodeStaLinkDetectHandler, Option.map_eq_none_iff.mp hrejected]
  · intro info hparsed s a
    obtain ⟨sinfo, hsinfo, rfl⟩ := Option.map_eq_some_iff.mp hparsed
    have hpayload : LinkDetectAttr.payload reply a = sinfo a.number := by
      rw [LinkDetectAttr.payload, hsinfo]
      rfl
    simp only
    rw [LinkDetectAttr.field_handler, hpayload]
    cases sinfo a.number with
    | none => rfl
    | some p => exact LinkDetectAttr.put_eq_decoding (a.field s)
  · exact fun _ _ => LinkDetectAttr.length_written.le
  · intro a p s
    rw [← LinkDetectAttr.put_eq_decoding, LinkDetectAttr.encode_put, LinkDetectAttr.length_written,
      List.drop_eq_nil_of_le (by rw [LinkDetectAttr.encode, length_leBytesOf]), List.append_nil]
  · decide
  · exact fun _ => LinkDetectAttr.mem_all

/-! ## Both handlers -/

/-- A reply is rejected, or decodes attribute by attribute into the fields, for both handlers. -/
theorem replies_update_pointwise {L : Layout StaStatisticsAttr StaStatisticsAttr.size}
    {K : Layout LinkDetectAttr fun _ => 8} {doubleBytes : Double → Bytes 8} {reply : Reply} :
    Layout.PointwiseUpdate L (fun s a => StaStatisticsAttr.field s a)
        (StaStatisticsAttr.encode doubleBytes) StaStatisticsAttr.decoding
        (StaStatisticsAttr.parsed reply) (fun s => testmodeStaStatisticsHandler s reply)
        (testmodeStaStatisticsHandlerTo L doubleBytes reply) ∧
      Layout.PointwiseUpdate K (fun s a => LinkDetectAttr.field s a) LinkDetectAttr.encode
        LinkDetectAttr.decoding (LinkDetectAttr.parsed reply)
        (fun s => testmodeStaLinkDetectHandler s reply) (testmodeStaLinkDetectHandlerTo K reply) :=
  ⟨testmodeStaStatisticsHandler_pointwise, testmodeStaLinkDetectHandler_pointwise⟩

end Wpa
