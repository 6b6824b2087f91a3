-- SUMMARY: Messages exchanged through memory: the struct on the stack, the pointer read back from it, and the replies stored behind the pointer, as with records.
import GioneeP4.Wpa.StackLeak
import GioneeP4.Wpa.Wire

/-!
# Exchanges in memory

`wpa_driver_nl80211_testmode` is given the address of a message. It hands the bytes
to the kernel, and what it does with the replies depends on two words it reads back
from them: the index, and the pointer to the struct that the replies are stored in.
This is what the commands do with records, as long as the two structs lie apart.
-/

namespace Wpa

open Prog CText Memory Words

/-! ## Testmode messages at an address -/

/-- What a message meets outside the memory of the caller. -/
structure Target where
  /-- The fate of a message, given by its bytes. -/
  kernel : List Byte → Exchange
  doubleBytes : Double → Bytes 8
  /-- Where `buf` lies in the struct that asks for link detection, which is declared elsewhere. -/
  linkDetectBuf : Nat

variable (features : Features) (target : Target)

/-- `wpa_driver_nl80211_testmode` of the bytes at an address. -/
def wpaDriverNl80211TestmodeAt (m : Mem Byte) (data dataLen : Nat) : Int × Mem Byte :=
  match target.kernel (load m data dataLen) with
  | .allocFailed => (-1, m)
  | .putFailed => (-105, m)  -- -ENOBUFS
  | .exchanged ret replies =>
      -- mask version field
      let index := ofLeBytes (TestModeInfo.layout.get m data .index) &&& 0x00ffffff
      if index = 0x10 then
        let buf := ofLeBytes (GetStaStatisticsParams.layout.get m data .buf)
        (ret, replies.foldl (fun m reply =>
          testmodeStaStatisticsHandlerTo StaStatisticsAttr.layout target.doubleBytes reply m
            buf.toNat) m)
      else if index = 0x20 ∧ features.poorLinkDetect then
        let buf := ofLeBytes (load m (data + target.linkDetectBuf) 4)
        (ret, replies.foldl (fun m reply =>
          testmodeStaLinkDetectHandlerTo LinkDetectAttr.layout reply m buf.toNat) m)
      else (ret, m)

/-- `wpas_get_sta_statistics`, with its struct at `params`. -/
def wpasGetStaStatisticsAt (m : Mem Byte) (params : Nat) (staAddr : Addr) (buf : BitVec 32) :
    Int × Mem Byte :=
  let m := GetStaStatisticsParams.layout.build 0 GetStaStatisticsParams.sizeof m params
    (GetStaStatisticsParams.assignments staAddr buf)
  wpaDriverNl80211TestmodeAt features target m params GetStaStatisticsParams.sizeof

/-! ## Replies in memory -/

def Exchange.replies : Exchange → List Reply
  | .exchanged _ replies => replies
  | .allocFailed | .putFailed => []

/-- `sizeof(struct wpa_driver_sta_statistics_s)` -/
def StaStatisticsAttr.sizeof : Nat := alignedSize size align declared

theorem StaStatisticsAttr.within : layout.Within sizeof := Layout.within_aligned

/-- The struct at an address holds the statistics. -/
def HoldsStatistics (m : Mem Byte) (buf : Nat) (s : StaStatistics) : Prop :=
  ∀ a, StaStatisticsAttr.layout.get m buf a =
    StaStatisticsAttr.encode target.doubleBytes a (StaStatisticsAttr.field s a)

/-- An address is none of the `n` from another on. -/
def Beside (base n a : Nat) : Prop := a < base ∨ base + n ≤ a

section Replies

variable {features : Features} {target : Target} {m : Mem Byte} {buf : Nat} {s : StaStatistics}
variable {replies : List Reply}

theorem holds_replies (h : HoldsStatistics target m buf s) :
    HoldsStatistics target (replies.foldl (fun m reply =>
      testmodeStaStatisticsHandlerTo StaStatisticsAttr.layout target.doubleBytes reply m buf) m) buf
        (replies.foldl testmodeStaStatisticsHandler s) := by
  induction replies generalizing m s with
  | nil => exact h
  | cons reply replies ih =>
    apply ih
    exact testmodeStaStatisticsHandler_pointwise.holds m buf s h

theorem replies_outside {a : Nat} (ha : Beside buf StaStatisticsAttr.sizeof a) :
    replies.foldl (fun m reply =>
      testmodeStaStatisticsHandlerTo StaStatisticsAttr.layout target.doubleBytes reply m buf) m a =
        m a := by
  induction replies generalizing m with
  | nil => rfl
  | cons reply replies ih =>
    refine Eq.trans ih ?_
    have hpointwise := @testmodeStaStatisticsHandler_pointwise StaStatisticsAttr.layout
      target.doubleBytes reply
    cases hparsed : StaStatisticsAttr.parsed reply with
    | none => exact congrFun ((hpointwise.rejected hparsed).2 m buf) a
    | some info =>
      exact hpointwise.frame info hparsed m buf a fun i _ =>
        StaStatisticsAttr.within.outside ha i

end Replies

/-! ## The commands in memory -/

section Commands

variable {features : Features} {target : Target} {env : Env} {m : Mem Byte} {data n : Nat}
variable {p : TestmodeParams} {buf : BitVec 32}

/-- The index is read back from the first bytes of the message. -/
theorem index_at (hbytes : p.bytes buf = some (load m data n)) (hn : 8 ≤ n) :
    ofLeBytes (TestModeInfo.layout.get m data .index) = p.hdrIndex := by
  have hwithin : TestModeInfo.layout.Within n := fun i => le_trans (TestModeInfo.within i) hn
  rw [← Layout.read_load hwithin]
  exact (readable_bytes hbytes).index

/-- A message that asks for nothing leaves memory alone. -/
theorem testmodeAt_of_silent (hbytes : p.bytes buf = some (load m data n)) (hn : 8 ≤ n)
    (hstatistics : p.hdrIndex &&& 0x00ffffff ≠ 0x10) (hlink : p.hdrIndex &&& 0x00ffffff ≠ 0x20) :
    wpaDriverNl80211TestmodeAt features target m data n =
      ((target.kernel (load m data n)).ret, m) := by
  rw [wpaDriverNl80211TestmodeAt]
  cases target.kernel (load m data n) with
  | allocFailed | putFailed => rfl
  | exchanged ret replies =>
    simp only [index_at hbytes hn]
    rw [if_neg hstatistics, if_neg fun h => hlink h.1]
    rfl

/-- A request for statistics has the replies stored behind the pointer it carries. -/
theorem testmodeAt_getStaStatistics {staAddr : Addr}
    (hbytes : (TestmodeParams.getStaStatistics staAddr).bytes buf =
      some (load m data GetStaStatisticsParams.sizeof)) :
    wpaDriverNl80211TestmodeAt features target m data GetStaStatisticsParams.sizeof =
      let exchange := target.kernel (load m data GetStaStatisticsParams.sizeof)
      (exchange.ret, exchange.replies.foldl (fun m reply =>
        testmodeStaStatisticsHandlerTo StaStatisticsAttr.layout target.doubleBytes reply m
          buf.toNat) m) := by
  have hbuf : GetStaStatisticsParams.layout.get m data .buf = leBytes buf := by
    rw [← Layout.read_load GetStaStatisticsParams.within, ← Option.some.inj hbytes]
    exact GetStaStatisticsParams.read_image
  rw [wpaDriverNl80211TestmodeAt]
  cases target.kernel (load m data GetStaStatisticsParams.sizeof) with
  | allocFailed | putFailed => rfl
  | exchanged ret replies =>
    simp only [index_at hbytes (by decide), hbuf, ofLeBytes_leBytes]
    rw [TestmodeParams.hdrIndex, if_pos (by decide)]
    rfl

variable {params : Nat} {st : CmdState}

theorem exec_getStaStatistics {station : Station} (hpriv : station.drvPriv = true) {staAddr : Addr}
    {s : StaStatistics} :
    ∃ t, exec (wpasGetStaStatistics env (some station) staAddr s) st =
        (.ok ((env.exchange (.getStaStatistics staAddr)).ret,
          .staStatistics ((env.exchange (.getStaStatistics staAddr)).replies.foldl
            testmodeStaStatisticsHandler s)), t) ∧
      t.buf = st.buf := by
  rw [wpasGetStaStatistics, derefStation, exec_bind_of_ok exec_pure, hpriv]
  cases hexchange : env.exchange (.getStaStatistics staAddr) with
  | allocFailed | putFailed =>
    unfold wpaDriverNl80211Testmode
    rw [hexchange]
    exact ⟨_, rfl, rfl⟩
  | exchanged ret replies =>
    rw [exec_testmode_exchanged hexchange, handleReplies_staStatistics]
    exact ⟨_, rfl, rfl⟩

/-- The bytes that statistics are asked for with. -/
abbrev statisticsRequest (staAddr : Addr) (buf : BitVec 32) : List Byte :=
  GetStaStatisticsParams.layout.image 0 GetStaStatisticsParams.sizeof
    (GetStaStatisticsParams.assignments staAddr buf)

/-- The replies to a request for statistics are stored in the struct, and nothing else is written
    but the message. -/
theorem getStaStatisticsAt_stores {staAddr : Addr} {s : StaStatistics}
    (hapart : buf.toNat + StaStatisticsAttr.sizeof ≤ params ∨
      params + GetStaStatisticsParams.sizeof ≤ buf.toNat)
    (hs : HoldsStatistics target m buf.toNat s) :
    let exchange := target.kernel (statisticsRequest staAddr buf)
    let out := wpasGetStaStatisticsAt features target m params staAddr buf
    out.1 = exchange.ret ∧
      HoldsStatistics target out.2 buf.toNat
        (exchange.replies.foldl testmodeStaStatisticsHandler s) ∧
      ∀ a, Beside params GetStaStatisticsParams.sizeof a →
        Beside buf.toNat StaStatisticsAttr.sizeof a → out.2 a = m a := by
  intro exchange out
  have hout : out = _ := testmodeAt_getStaStatistics (congrArg some Layout.load_build.symm)
  rw [Layout.load_build] at hout
  have hbuilt : ∀ a, Beside params GetStaStatisticsParams.sizeof a →
      GetStaStatisticsParams.layout.build 0 GetStaStatisticsParams.sizeof m params
        (GetStaStatisticsParams.assignments staAddr buf) a = m a :=
    fun a => Layout.build_outside GetStaStatisticsParams.within GetStaStatisticsParams.fills
  have hheld : HoldsStatistics target (GetStaStatisticsParams.layout.build 0
      GetStaStatisticsParams.sizeof m params
        (GetStaStatisticsParams.assignments staAddr buf)) buf.toNat s := by
    intro a
    rw [← hs a]
    apply StaStatisticsAttr.within.get_congr
    intro k hk
    apply hbuilt
    rcases hapart with hbelow | habove
    · exact .inl (by omega)
    · exact .inr (by omega)
  rw [hout]
  exact ⟨rfl, holds_replies hheld, fun a hparams hbuf =>
    (replies_outside hbuf).trans (hbuilt a hparams)⟩

/-- Statistics through memory. The struct behind the pointer ends up with the statistics that the
    record does, the result is the same, and no byte of memory is written but those of the two
    structs. -/
theorem statistics_in_memory {station : Station} {staAddr : Addr} {s : StaStatistics}
    (hpriv : station.drvPriv = true)
    (hkernel : env.exchange (.getStaStatistics staAddr) =
      target.kernel (statisticsRequest staAddr buf))
    (hapart : buf.toNat + StaStatisticsAttr.sizeof ≤ params ∨
      params + GetStaStatisticsParams.sizeof ≤ buf.toNat)
    (hs : HoldsStatistics target m buf.toNat s) :
    let out := wpasGetStaStatisticsAt features target m params staAddr buf
    (∃ s' t, exec (wpasGetStaStatistics env (some station) staAddr s) st =
        (.ok (out.1, .staStatistics s'), t) ∧ HoldsStatistics target out.2 buf.toNat s') ∧
      ∀ a, Beside params GetStaStatisticsParams.sizeof a →
        Beside buf.toNat StaStatisticsAttr.sizeof a → out.2 a = m a := by
  intro out
  obtain ⟨hret, hholds, hframe⟩ :=
    @getStaStatisticsAt_stores features target m buf params staAddr s hapart hs
  obtain ⟨t, hexec, -⟩ := @exec_getStaStatistics env st station hpriv staAddr s
  rw [hkernel, ← hret] at hexec
  exact ⟨⟨_, t, hexec, hholds⟩, hframe⟩

/-- A kernel that answers every message with a link score. -/
def Target.scoring : Target :=
  ⟨fun _ => .exchanged 0 [some [⟨StaStatisticsAttr.linkScore.number, [42]⟩]],
    fun _ => Vector.replicate 8 0, 0⟩

theorem holds_zeros {target : Target} (h : target.doubleBytes default = Vector.replicate 8 0)
    {buf : Nat} : HoldsStatistics target (fun _ => 0) buf default := by
  intro a
  cases a with
  | txRate => exact (congrArg Vector.toList h).symm
  | _ => rfl

theorem statistics_in_memory_scoring :
    let out := wpasGetStaStatisticsAt default .scoring (fun _ => 0) 0x1000 broadcast 0x2000
    (∃ s', HoldsStatistics .scoring out.2 0x2000 s') ∧
      ∀ a, Beside 0x1000 GetStaStatisticsParams.sizeof a →
        Beside 0x2000 StaStatisticsAttr.sizeof a → out.2 a = 0 := by
  obtain ⟨⟨s', -, -, hs'⟩, hframe⟩ := @statistics_in_memory default .scoring
    { Env.idle with exchange := fun _ => Target.scoring.kernel [] } (fun _ => 0) 0x2000 0x1000
    (.start 0 []) ⟨broadcast, true, true⟩ broadcast default rfl rfl (.inr (by decide))
    (holds_zeros rfl)
  exact ⟨⟨s', hs'⟩, hframe⟩

end Commands

end Wpa
