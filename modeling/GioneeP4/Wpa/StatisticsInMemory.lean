-- SUMMARY: The statistics command end to end in memory: its message, its uninitialised struct and its text, against the command with records.
import GioneeP4.Wpa.InMemory
import GioneeP4.Wpa.Output

/-!
# The statistics command in memory

The struct that `wpa_driver_get_sta_statistics` has filled in starts as whatever the
stack holds, and each call of `snprintf` reads it when its turn comes. As long as
the objects of the command lie apart, it is the command with records, started with
the record that the bytes of the stack spell.
-/

namespace Wpa

open Prog CText Printing Memory

/-! ## Numbers in memory -/

section Numbers

variable {k : Nat} {l : List Byte}

theorem leNat_lt : leNat l < 2 ^ (8 * l.length) := by
  induction l with
  | nil => exact Nat.one_pos
  | cons b l ih =>
    have hb : b.toNat < 256 := b.isLt
    rw [List.length_cons, Nat.mul_add, Nat.pow_add, leNat]
    omega

theorem leNat_leBytesOf {n : Nat} : leNat (leBytesOf k n) = n % 2 ^ (8 * k) := by
  induction k generalizing n with
  | zero => exact (Nat.mod_one n).symm
  | succ k ih =>
    have hbyte : (BitVec.ofNat 8 n).toNat = n % 256 := BitVec.toNat_ofNat ..
    rw [leBytesOf, leNat, ih, hbyte, Nat.mul_add, Nat.pow_add, Nat.mul_comm (2 ^ (8 * k))]
    exact (Nat.mod_mul ..).symm

theorem leBytesOf_leNat (h : l.length = k) : leBytesOf k (leNat l) = l := by
  induction l generalizing k with
  | nil =>
    subst h
    rfl
  | cons b l ih =>
    subst h
    have hlow : BitVec.ofNat 8 (b.toNat + 256 * leNat l) = b := by
      apply BitVec.eq_of_toNat_eq
      rw [BitVec.toNat_ofNat]
      have hb := b.isLt
      omega
    have hhigh : (b.toNat + 256 * leNat l) / 256 = leNat l := by
      have hb : b.toNat < 256 := b.isLt
      omega
    rw [List.length_cons, leBytesOf, leNat, hlow, hhigh, ih rfl]

/-- A number that is stored and read back. -/
theorem nlaGet_leBytesOf {x : BitVec (8 * k)} : nlaGet k (leBytesOf k x.toNat) = x := by
  apply BitVec.eq_of_toNat_eq
  rw [nlaGet, List.take_of_length_le length_leBytesOf.le, leNat_leBytesOf, BitVec.toNat_ofNat,
    Nat.mod_mod, Nat.mod_eq_of_lt x.isLt]

/-- A number that is read and stored again. -/
theorem leBytesOf_nlaGet (h : l.length = k) : leBytesOf k (nlaGet k l).toNat = l := by
  rw [nlaGet, List.take_of_length_le h.le, BitVec.toNat_ofNat, Nat.mod_eq_of_lt (h ▸ leNat_lt),
    leBytesOf_leNat h]

end Numbers

/-! ## Reading the struct -/

def bytesOf (n : Nat) (l : List Byte) : Bytes n := Vector.ofFn fun i => l[i.val]?.getD 0

theorem toList_bytesOf {n : Nat} {l : List Byte} (h : l.length = n) : (bytesOf n l).toList = l := by
  apply List.ext_getElem
  · rw [Vector.length_toList, h]
  · intro i hi hl
    simp [bytesOf, hl]

theorem bytesOf_toList {n : Nat} {bytes : Bytes n} : bytesOf n bytes.toList = bytes := by
  apply Vector.ext
  intro i hi
  simp [bytesOf]

/-- The statistics that the struct at an address holds. -/
def StaStatistics.ofMem (m : Mem Byte) (staStatistics : Nat) : StaStatistics :=
  let field := StaStatisticsAttr.layout.get m staStatistics
  { version := nlaGet 1 (field .version)
    addr := bytesOf 6 (field .mac)
    flag := nlaGet 4 (field .flag)
    linkScore := nlaGet 1 (field .linkScore)
    per := nlaGet 1 (field .per)
    rssi := (nlaGet 4 (field .rssi)).toInt
    phyMode := nlaGet 4 (field .phyMode)
    txRate := .raw (nlaGet 8 (field .txRate))
    txTotalCnt := nlaGet 4 (field .totalCnt)
    txExcThresholdCnt := nlaGet 4 (field .thresholdCnt)
    txAvgProcessTime := nlaGet 4 (field .avgProcessTime)
    txFailCnt := nlaGet 4 (field .failCnt)
    txTimeoutCnt := nlaGet 4 (field .timeoutCnt)
    txAvgAirTime := nlaGet 4 (field .avgAirTime)
    tcBufFullCnt := bytesOf 16 (field .tcEmptyCntArray)
    tcQueLen := bytesOf 16 (field .tcQueLenArray)
    tcAvgQueLen := bytesOf 16 (field .tcAvgQueLenArray)
    tcCurQueLen := bytesOf 16 (field .tcCurQueLenArray)
    reserved := bytesOf 32 (field .reservedArray) }

/-- How a double is stored, and that what is stored prints as the double does. -/
structure DoublesStored (env : Env) (target : Target) : Prop where
  raw : ∀ bits : BitVec 64, (target.doubleBytes (.raw bits)).toList = leBytesOf 8 bits.toNat
  printed : ∀ d, env.formatDouble (nlaGet 8 (target.doubleBytes d).toList) = oneDecimal env d

section Reading

variable {env : Env} {target : Target} {m m' : Mem Byte} {base : Nat} {s : StaStatistics}

/-- The bytes of a struct, whatever they are, are those of the record they spell. -/
theorem holds_ofMem (hdoubles : DoublesStored env target) :
    HoldsStatistics target m base (.ofMem m base) := by
  have hlength : ∀ a, (StaStatisticsAttr.layout.get m base a).length = a.size :=
    fun a => length_load
  intro a
  cases a with
  | txRate =>
    refine Eq.trans ?_ (hdoubles.raw _).symm
    exact (leBytesOf_nlaGet (hlength .txRate)).symm
  | mac | tcEmptyCntArray | tcQueLenArray | tcAvgQueLenArray | tcCurQueLenArray
  | reservedArray => exact (toList_bytesOf (hlength _)).symm
  | version | linkScore | per | flag | phyMode => exact (leBytesOf_nlaGet (hlength _)).symm
  | rssi | totalCnt | thresholdCnt | avgProcessTime | failCnt | timeoutCnt | avgAirTime =>
    simp only [StaStatisticsAttr.encode, StaStatisticsAttr.field, StaStatistics.ofMem,
      StaStatisticsAttr.size, BitVec.ofInt_toInt]
    exact (leBytesOf_nlaGet (hlength _)).symm

/-- What is read from a struct that holds a record, with the double as it is stored. -/
theorem ofMem_of_holds (hs : HoldsStatistics target m base s)
    (hrssi : (BitVec.ofInt 32 s.rssi).toInt = s.rssi) :
    StaStatistics.ofMem m base =
      { s with txRate := .raw (nlaGet 8 (target.doubleBytes s.txRate).toList) } := by
  have hget : ∀ a, StaStatisticsAttr.layout.get m base a =
      StaStatisticsAttr.encode target.doubleBytes a (StaStatisticsAttr.field s a) := hs
  have hbyte : ∀ x : BitVec 8, nlaGet 1 (leBytesOf 1 x.toNat) = x := fun _ => nlaGet_leBytesOf
  have hcount : ∀ x : BitVec 32, nlaGet 4 (leBytesOf 4 x.toNat) = x := fun _ => nlaGet_leBytesOf
  unfold StaStatistics.ofMem
  simp only [hget, StaStatisticsAttr.encode, StaStatisticsAttr.field, StaStatisticsAttr.size,
    bytesOf_toList, hbyte, hcount, Nat.reduceMul, BitVec.ofInt_toInt, hrssi]

theorem ofMem_congr (hm : ∀ i < StaStatisticsAttr.sizeof, m (base + i) = m' (base + i)) :
    StaStatistics.ofMem m base = StaStatistics.ofMem m' base := by
  have hget : ∀ a, StaStatisticsAttr.layout.get m base a = StaStatisticsAttr.layout.get m' base a :=
    fun a => StaStatisticsAttr.within.get_congr hm
  simp only [StaStatistics.ofMem, hget]

theorem rssi_ofMem :
    (BitVec.ofInt 32 (StaStatistics.ofMem m base).rssi).toInt = (StaStatistics.ofMem m base).rssi := by
  rw [StaStatistics.ofMem, BitVec.ofInt_toInt]

/-- The signal strength of a reply fits in 32 bits. -/
theorem rssi_of_byte (b : BitVec 8) :
    (BitVec.ofInt 32 (((b.toNat : Int) - 220).tdiv 2)).toInt = ((b.toNat : Int) - 220).tdiv 2 := by
  have hb := b.isLt
  generalize b.toNat = n at hb
  rcases Nat.le_total n 220 with hle | hge
  · have hneg : ((n : Int) - 220).tdiv 2 = -(((220 - n) / 2 : Nat) : Int) := by
      rw [show (n : Int) - 220 = -((220 - n : Nat) : Int) by omega, Int.neg_tdiv]
      rfl
    rw [hneg, BitVec.toInt_ofInt]
    apply Int.bmod_eq_of_le <;> omega
  · have hpos : ((n : Int) - 220).tdiv 2 = (((n - 220) / 2 : Nat) : Int) := by
      rw [show (n : Int) - 220 = ((n - 220 : Nat) : Int) by omega]
      rfl
    rw [hpos, BitVec.toInt_ofInt]
    apply Int.bmod_eq_of_le <;> omega

/-- The signal strength is a 32-bit number, as it was or as a reply has it. -/
theorem rssi_replies {replies : List Reply} (hrssi : (BitVec.ofInt 32 s.rssi).toInt = s.rssi) :
    (BitVec.ofInt 32 (replies.foldl testmodeStaStatisticsHandler s).rssi).toInt =
      (replies.foldl testmodeStaStatisticsHandler s).rssi := by
  have hstored : ∀ payloads : List (List Byte), ∀ v : FieldValue,
      (∀ z, v = .signed z → (BitVec.ofInt 32 z).toInt = z) →
      ∀ z, payloads.foldl (fun v p => StaStatisticsAttr.rssi.put p v) v = .signed z →
        (BitVec.ofInt 32 z).toInt = z := by
    intro payloads
    induction payloads with
    | nil => exact fun v hv => hv
    | cons p payloads ih =>
      intro v _
      apply ih
      intro z hz
      obtain rfl := FieldValue.signed.inj hz
      exact rssi_of_byte _
  apply hstored (StaStatisticsAttr.payloads replies .rssi) (.signed s.rssi)
  · intro z hz
    rw [← FieldValue.signed.inj hz]
    exact hrssi
  · exact StaStatisticsAttr.field_replies.symm

end Reading

/-! ## Printing the struct -/

variable (env : Env) (target : Target)

/-- The text of the `i`-th call of `snprintf`, from the memory as it is then. -/
def statisticsTextAt (staStats i : Nat) (m : Mem Byte) : Text :=
  (((statisticsCalls env (.ofMem m staStats)).map PrintCall.text)[i]?).getD []

/-- The number of calls of `snprintf`. -/
def statisticsCallCount : Nat := (statisticsCalls env default).length

/-- `print_sta_statistics` of the struct at an address. -/
def printStaStatisticsAt (m : Mem Byte) (staStats buf bufLen : Nat) : Int × Mem Byte :=
  let printed := printTexts m buf (buf + bufLen)
    ((List.range (statisticsCallCount env)).map (statisticsTextAt env staStats))
  (if printed.complete then (printed.pos : Int) - buf else 0, printed.mem)

section Printing

variable {env : Env} {target : Target} {m : Mem Byte} {staStats buf bufLen : Nat}
variable {s : StaStatistics}

theorem length_reservedCalls {first last : Nat} :
    (reservedCalls s first last).length = (reservedCalls default first last).length := by
  simp only [reservedCalls, List.length_append, List.length_flatMap, List.length_cons,
    apply_ite List.length]

/-- How often `snprintf` is called does not depend on the statistics. -/
theorem length_statisticsCalls : (statisticsCalls env s).length = statisticsCallCount env := by
  simp only [statisticsCallCount, statisticsCalls, List.length_append, List.length_cons,
    @length_reservedCalls s]

theorem statisticsCalls_congr {rate : Double} (h : oneDecimal env rate = oneDecimal env s.txRate) :
    statisticsCalls env { s with txRate := rate } = statisticsCalls env s := by
  simp only [statisticsCalls, h]
  rfl

/-- Beside the buffer the struct may be read at once. -/
theorem printStaStatisticsAt_eq
    (hapart : staStats + StaStatisticsAttr.sizeof ≤ buf ∨ buf + bufLen ≤ staStats) :
    printStaStatisticsAt env m staStats buf bufLen =
      printStaStatisticsTo env (.ofMem m staStats) m buf bufLen := by
  have hreads : ∀ t ∈ (List.range (statisticsCallCount env)).map (statisticsTextAt env staStats),
      ReadsFrom staStats StaStatisticsAttr.sizeof t := by
    intro t ht
    obtain ⟨i, -, rfl⟩ := List.mem_map.mp ht
    intro m m' hm
    rw [statisticsTextAt, statisticsTextAt, ofMem_congr hm]
  have htexts : ((List.range (statisticsCallCount env)).map (statisticsTextAt env staStats)).map
      (· m) = (statisticsCalls env (.ofMem m staStats)).map PrintCall.text := by
    apply List.ext_getElem
    · rw [List.length_map, List.length_map, List.length_range, List.length_map,
        length_statisticsCalls]
    · intro i hi hcalls
      simp only [List.getElem_map, List.getElem_range, statisticsTextAt]
      rw [List.getElem?_eq_getElem hcalls, List.getElem_map]
      rfl
  rw [printStaStatisticsAt, printTexts_eq hreads hapart le_rfl (Nat.le_add_right ..), htexts]
  rfl

/-- Printing a struct is printing the record it holds. -/
theorem printStaStatisticsAt_of_holds (hdoubles : DoublesStored env target)
    (hs : HoldsStatistics target m staStats s)
    (hrssi : (BitVec.ofInt 32 s.rssi).toInt = s.rssi)
    (hapart : staStats + StaStatisticsAttr.sizeof ≤ buf ∨ buf + bufLen ≤ staStats) :
    printStaStatisticsAt env m staStats buf bufLen = printStaStatisticsTo env s m buf bufLen := by
  have hrate : oneDecimal env (.raw (nlaGet 8 (target.doubleBytes s.txRate).toList)) =
      oneDecimal env s.txRate := hdoubles.printed s.txRate
  rw [printStaStatisticsAt_eq hapart, ofMem_of_holds hs hrssi, printStaStatisticsTo,
    printStaStatisticsTo, statisticsCalls_congr hrate]

end Printing

/-! ## The command -/

/-- Two objects share no byte. -/
def Apart (a n b k : Nat) : Prop := a + n ≤ b ∨ b + k ≤ a

/-- The objects of the command: the message, the struct to fill in, and the caller's buffer. -/
structure Objects where
  params : Nat
  staStatistics : BitVec 32
  buf : Nat
  bufLen : Nat
  params_staStatistics : Apart staStatistics.toNat StaStatisticsAttr.sizeof params
    GetStaStatisticsParams.sizeof
  params_buf : Apart params GetStaStatisticsParams.sizeof buf bufLen
  staStatistics_buf : Apart staStatistics.toNat StaStatisticsAttr.sizeof buf bufLen

/-- `wpa_driver_get_sta_statistics` with its objects in memory. -/
def wpaDriverGetStaStatisticsAt (m : Mem Byte) (o : Objects) (addr : Text) : Int × Mem Byte :=
  match env.hwaddrAton addr with
  | none => (-1, m)
  | some staAddr =>
      let (ret, m) :=
        wpasGetStaStatisticsAt env.features target m o.params staAddr o.staStatistics
      if ret < 0 then (-1, m)
      else printStaStatisticsAt env m o.staStatistics.toNat o.buf o.bufLen

section Command

variable {env : Env} {target : Target} {m : Mem Byte} {o : Objects} {addr : Text}
variable {station : Station} {ifaces : List Iface}

theorem getStaStatisticsAt_of_addr {staAddr : Addr} (haddr : env.hwaddrAton addr = some staAddr) :
    wpaDriverGetStaStatisticsAt env target m o addr =
      let exchanged :=
        wpasGetStaStatisticsAt env.features target m o.params staAddr o.staStatistics
      if exchanged.1 < 0 then (-1, exchanged.2)
      else printStaStatisticsAt env exchanged.2 o.staStatistics.toNat o.buf o.bufLen := by
  simp only [wpaDriverGetStaStatisticsAt, haddr]

theorem runStaStatistics_of_exec {staAddr : Addr} {wpaS : Option Station} {bufLen : Nat}
    {stack s : StaStatistics} {ret : Int} {t : CmdState}
    (haddr : env.hwaddrAton addr = some staAddr)
    (hexec : exec (wpasGetStaStatistics { env with staStatistics := stack } wpaS staAddr stack)
      (.start bufLen ifaces) = (.ok (ret, .staStatistics s), t)) :
    runStaStatistics env wpaS addr bufLen ifaces stack =
      if ret < 0 then (.ok (-1), t) else exec (printStaStatistics env s) t := by
  simp only [runStaStatistics, wpaDriverGetStaStatistics, haddr]
  refine (exec_bind_of_ok hexec).trans ?_
  simp only
  split <;> rfl

/-- The statistics command through memory. Started on the record that the stack spells, the command
    with records returns the same and leaves the same in the buffer, and no other byte is written
    but those of the two structs. -/
theorem statistics_command_in_memory (hpriv : station.drvPriv = true)
    (hdoubles : DoublesStored env target)
    (hkernel : ∀ staAddr, env.exchange (.getStaStatistics staAddr) =
      target.kernel (statisticsRequest staAddr o.staStatistics)) :
    let out := wpaDriverGetStaStatisticsAt env target m o addr
    let stack := StaStatistics.ofMem m o.staStatistics.toNat
    ∃ t, runStaStatistics env (some station) addr o.bufLen ifaces stack = (.ok out.1, t) ∧
      ∀ a, Beside o.params GetStaStatisticsParams.sizeof a →
        Beside o.staStatistics.toNat StaStatisticsAttr.sizeof a →
        out.2 a = commit m o.buf t.buf a := by
  intro out stack
  cases haddr : env.hwaddrAton addr with
  | none =>
    refine ⟨.start o.bufLen ifaces, ?_, ?_⟩
    · simp only [runStaStatistics, wpaDriverGetStaStatistics, out, wpaDriverGetStaStatisticsAt, haddr]
      rfl
    · intro a _ _
      simp only [out, wpaDriverGetStaStatisticsAt, haddr]
      exact (congrFun commit_fresh a).symm
  | some staAddr =>
    obtain ⟨hret, hholds, hframe⟩ := @getStaStatisticsAt_stores env.features target m
      o.staStatistics o.params staAddr stack o.params_staStatistics (holds_ofMem hdoubles)
    obtain ⟨t, hexec, hbuf⟩ := @exec_getStaStatistics { env with staStatistics := stack }
      (.start o.bufLen ifaces) station hpriv staAddr stack
    rw [hkernel, ← hret] at hexec
    have hout : out = _ := getStaStatisticsAt_of_addr haddr
    have hrun := runStaStatistics_of_exec haddr hexec
    have hprintAt := @printStaStatisticsAt_of_holds env target _ o.staStatistics.toNat o.buf
      o.bufLen _ hdoubles hholds (rssi_replies rssi_ofMem) o.staStatistics_buf
    simp only [hprintAt] at hout
    rw [hrun, hout]
    split
    · refine ⟨t, rfl, ?_⟩
      intro a hparams hstatistics
      rw [hbuf]
      exact (hframe a hparams hstatistics).trans (congrFun commit_fresh a).symm
    · obtain ⟨t', hprint, hmem⟩ := @printStaStatisticsTo_eq env
        (wpasGetStaStatisticsAt env.features target m o.params staAddr o.staStatistics).2 o.buf
        o.bufLen _ t hbuf
      refine ⟨t', hprint, ?_⟩
      intro a hparams hstatistics
      rw [hmem]
      simp only [commit, hframe a hparams hstatistics]

/-- Doubles stored as a number of halves: 0 is stored and printed as a C compiler does it. -/
def Target.halves : Target where
  kernel := Target.scoring.kernel
  doubleBytes
    | .half twice => bytesOf 8 (leBytesOf 8 twice.toNat)
    | .raw bits => bytesOf 8 (leBytesOf 8 bits.toNat)
  linkDetectBuf := 0

def Env.halves : Env :=
  { Env.idle with
    hwaddrAton := fun _ => some broadcast
    exchange := fun _ => Target.scoring.kernel []
    formatDouble := fun bits => oneDecimal .idle (.half (bits.truncate 16)) }

theorem doublesStored_halves : DoublesStored .halves .halves := by
  constructor
  · exact fun bits => toList_bytesOf length_leBytesOf
  · rintro (twice | bits)
    · have hbits : (nlaGet 8 (leBytesOf 8 twice.toNat) : BitVec 64) = twice.setWidth 64 := by
        have hwide : twice.toNat = (twice.setWidth 64).toNat := by
          rw [BitVec.toNat_setWidth, Nat.mod_eq_of_lt (by have := twice.isLt; omega)]
        rw [hwide]
        exact nlaGet_leBytesOf
      simp only [Target.halves, toList_bytesOf length_leBytesOf, hbits, Env.halves]
      simp [oneDecimal]
    · simp only [Target.halves, toList_bytesOf length_leBytesOf]
      exact congrArg Env.halves.formatDouble nlaGet_leBytesOf

/-- The objects of the command on some stack. -/
def Objects.sample : Objects :=
  ⟨0x1000, 0x2000, 0x3000, 512, .inr (by decide), .inl (by decide), .inl (by decide)⟩

theorem statistics_command_in_memory_halves :
    let out := wpaDriverGetStaStatisticsAt .halves .halves (fun _ => 0) .sample (ascii "any")
    ∃ t, runStaStatistics .halves (some ⟨broadcast, true, true⟩) (ascii "any") 512 []
        (.ofMem (fun _ => 0) 0x2000) = (.ok out.1, t) ∧
      ∀ a, Beside 0x1000 GetStaStatisticsParams.sizeof a →
        Beside 0x2000 StaStatisticsAttr.sizeof a →
        out.2 a = commit (fun _ => 0) 0x3000 t.buf a :=
  @statistics_command_in_memory .halves .halves (fun _ => 0) .sample (ascii "any")
    ⟨broadcast, true, true⟩ [] rfl doublesStored_halves fun _ => rfl

end Command

end Wpa
