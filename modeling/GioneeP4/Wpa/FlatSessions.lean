-- SUMMARY: Driver commands over one flat memory: every message a struct, every text behind a pointer, and whole sessions of commands against those with records.
import GioneeP4.Lib.Simulation
import GioneeP4.Wpa.StatisticsInMemory

/-!
# Sessions in memory

The commands of a build without WAPI, P2P sigma and link detection, over a memory
that lasts from one command to the next. A command builds its message in it, has
the replies stored in it and prints to it, and what is not initialised is what the
commands before have left. Each is simulated by the command with records, started
on what the memory spells.
-/

namespace Wpa

open Prog CText Printing Memory

/-! ## Commands over a memory -/

theorem isForeign_of_selected {env : Env} {cmd : Text} {drv : Drv} {wpaS : Option Station}
    {branch : Branch} (hown : env.features.Own) (h : selected env cmd = some (drv, wpaS, branch)) :
    branch.isForeign = false := isForeign_of_dispatch hown (dispatch_of_selected h)

namespace Flat

structure State where
  mem : Mem Byte
  /-- The bytes the kernel was handed, message by message. -/
  sent : List (List Byte)

abbrev FlatM := Prog Fault State

/-- A part of a command that neither prints nor sends. -/
def quiet {α : Type} (m : DrvM α) : FlatM α := outcomeFrom (.start 0 []) m

variable (env : Env) (target : Target) (o : Objects)

/-- `wpa_driver_nl80211_testmode` of the message of the command. -/
def wpaDriverNl80211Testmode (dataLen : Nat) : FlatM Int := do
  let s ← get
  let bytes := load s.mem o.params dataLen
  let out := wpaDriverNl80211TestmodeAt env.features target s.mem o.params dataLen
  modify fun s => ⟨out.2, s.sent ++ if (target.kernel bytes).reaches then [bytes] else []⟩
  return out.1

/-- The message of the command is cleared and assigned to. -/
def fill {ι : Type} {size : ι → Nat} (L : Layout ι size) (n : Nat)
    (assignments : List (ι × List Byte)) : FlatM Unit :=
  modify fun s => { s with mem := L.build 0 n s.mem o.params assignments }

def wpaDriverNl80211DriverSwCmd (set : Bool) (adr dat : BitVec 32) : FlatM Int := do
  fill o SwCmdParams.layout SwCmdParams.sizeof (SwCmdParams.assignments set adr dat)
  let _ ← wpaDriverNl80211Testmode env target o SwCmdParams.sizeof
  return 0

def wpaDriverHotspotBlockListUpdate (bssid : Addr) (blocked : BitVec 8) : FlatM Int := do
  fill o HotspotParams.layout HotspotParams.sizeof (HotspotParams.assignments bssid blocked)
  wpaDriverNl80211Testmode env target o HotspotParams.sizeof

def wpaDriverStaBlock (cmd : Text) : FlatM Int :=
  match env.hwaddrAton cmd with
  | none => return -1
  | some bssid => wpaDriverHotspotBlockListUpdate env target o bssid 1

def wpaDriverStaUnblock (cmd : Text) : FlatM Int :=
  match env.hwaddrAton cmd with
  | none => return -1
  | some bssid => wpaDriverHotspotBlockListUpdate env target o bssid 0

/-- `wpas_get_sta_statistics` into the struct of the command. -/
def wpasGetStaStatistics (wpaS : Option Station) (staAddr : Addr) : FlatM Int := do
  fill o GetStaStatisticsParams.layout GetStaStatisticsParams.sizeof
    (GetStaStatisticsParams.assignments staAddr o.staStatistics)
  let station ← quiet (derefStation wpaS)
  if !station.drvPriv then throw .nullPointer
  else wpaDriverNl80211Testmode env target o GetStaStatisticsParams.sizeof

def printStaStatistics : FlatM Int := do
  let s ← get
  let out := printStaStatisticsAt env s.mem o.staStatistics.toNat o.buf o.bufLen
  modify fun s => { s with mem := out.2 }
  return out.1

def wpaDriverGetStaStatistics (wpaS : Option Station) (addr : Text) : FlatM Int :=
  match env.hwaddrAton addr with
  | none => return -1
  | some staAddr => do
      let ret ← wpasGetStaStatistics env target o wpaS staAddr
      if ret < 0 then return -1 else printStaStatistics env o

/-- Prints a text to the start of the caller's buffer and returns what `snprintf` does. -/
def snprintfReply (text : Text) : FlatM Int := do
  modify fun s => { s with mem := snprintfTo s.mem o.buf o.bufLen text }
  return text.length

def macaddr (wpaS : Option Station) : FlatM Int := do
  let station ← quiet (derefStation wpaS)
  snprintfReply o (ascii "Macaddr = " ++ macstr station.ownAddr ++ ascii "\n")

def fixedSwCmd (swCmd idx : BitVec 32) : FlatM Int := do
  let _ ← wpaDriverNl80211DriverSwCmd env target o true swCmd idx
  return 0

def numberedSwCmd (cmd : Text) (k : Nat) (swCmd base : BitVec 32) : FlatM Int := do
  let cp ← quiet (cstringAt cmd k)
  if cp = [] then return -1
  else
    let parsed := strtol cp 0
    if parsed.endp = 0 then return -1
    else
      let _ ← wpaDriverNl80211DriverSwCmd env target o true swCmd
        (BitVec.ofInt 32 parsed.value + base)
      return 0

def zeroOrMinusOne (call : FlatM Int) : FlatM Int := do
  let ret ← call
  if ret ≠ 0 then return -1 else return 0

/-- The branches of the build. -/
def runBranch (drv : Drv) (wpaS : Option Station) (cmd : Text) :
    (branch : Branch) → branch.isForeign = false → FlatM Int
  | .getStaStatistics, _ => do
      wpaDriverGetStaStatistics env target o wpaS (← quiet (cstringAt cmd 19))
  | .macaddr, _ => macaddr o wpaS
  | .rxfilterAdd, _ => numberedSwCmd env target o cmd 12 0x9F000000 0x00900200
  | .rxfilterRemove, _ => numberedSwCmd env target o cmd 15 0x9F000000 0x00900300
  | .rxfilterStop, _ => fixedSwCmd env target o 0x9F000000 0x00900000
  | .rxfilterStart, _ => fixedSwCmd env target o 0x9F000000 0x00900100
  | .smtRate, _ => numberedSwCmd env target o cmd 8 0xFFFF0123 0
  | .smtTestOn, _ => fixedSwCmd env target o 0xFFFF1234 0
  | .smtTestOff, _ => fixedSwCmd env target o 0xFFFF1235 0
  | .staBlock, _ => do
      zeroOrMinusOne (wpaDriverStaBlock env target o (← quiet (cstringAt cmd 10)))
  | .staUnblock, _ => do
      zeroOrMinusOne (wpaDriverStaUnblock env target o (← quiet (cstringAt cmd 12)))
  -- the others neither print nor send
  | branch, _ => quiet (Wpa.runBranch env drv wpaS cmd branch)

/-- `wpa_driver_nl80211_driver_cmd` in a build of that kind. -/
def wpaDriverNl80211DriverCmd (hown : env.features.Own) (cmd : Text) : FlatM Int :=
  match h : selected env cmd with
  | none => return -1
  | some (drv, wpaS, branch) =>
      runBranch env target o drv wpaS cmd branch (isForeign_of_selected hown h)

end Flat

/-! ## Refinement -/

/-- The same surroundings, with a struct on the stack. -/
abbrev Env.onStack (env : Env) (stack : StaStatistics) : Env := { env with staStatistics := stack }

/-- The kernel of the records answers what that of the bytes does, and doubles are stored as they
    are printed. -/
structure Portrays (env : Env) (target : Target) (o : Objects) : Prop where
  kernel : ∀ p bytes, p.bytes o.staStatistics = some bytes →
    env.exchange p = target.kernel bytes
  doubles : DoublesStored env target

/-- What a command in memory left, from a start, is what the command with records left. -/
structure Refines (o : Objects) (t₀ : Flat.State) (s : CmdState) (t : Flat.State) : Prop where
  mem : ∀ a, Beside o.params GetStaStatisticsParams.sizeof a →
    Beside o.staStatistics.toNat StaStatisticsAttr.sizeof a →
    t.mem a = commit t₀.mem o.buf s.buf a
  sent : ∃ bs, t.sent = t₀.sent ++ bs ∧
    bs.map some = s.sent.map (TestmodeParams.bytes o.staStatistics)

section Refinement

variable {env : Env} {target : Target} {o : Objects} {t₀ t : Flat.State} {s : CmdState}
variable {stack : StaStatistics} {ifaces : List Iface} {wpaS : Option Station} {cmd : Text}
variable {p : TestmodeParams} {bytes : List Byte}

theorem refines_start : Refines o t₀ (.start o.bufLen ifaces) t₀ := by
  refine ⟨?_, [], (List.append_nil _).symm, rfl⟩
  intro a _ _
  exact (congrFun commit_fresh a).symm

theorem Beside.mono {base n n' a : Nat} (hn : n ≤ n') (h : Beside base n' a) : Beside base n a := by
  rcases h with hbefore | hbehind
  · exact .inl hbefore
  · exact .inr (by omega)

/-- A message that gets to the kernel gets there as its bytes. -/
theorem Refines.send (h : Refines o t₀ s t) (hbytes : p.bytes o.staStatistics = some bytes)
    (hsame : env.exchange p = target.kernel bytes) {m : Mem Byte}
    (hframe : ∀ a, Beside o.params GetStaStatisticsParams.sizeof a → m a = t.mem a) :
    Refines o t₀ { s with sent := s.sent ++ if (env.exchange p).reaches then [p] else [] }
      ⟨m, t.sent ++ if (target.kernel bytes).reaches then [bytes] else []⟩ := by
  obtain ⟨bs, hsent, hmap⟩ := h.sent
  constructor
  · exact fun a hparams hstatistics => (hframe a hparams).trans (h.mem a hparams hstatistics)
  · refine ⟨bs ++ if (target.kernel bytes).reaches then [bytes] else [], ?_, ?_⟩
    · rw [hsent, List.append_assoc]
    · rw [List.map_append, List.map_append, hmap, hsame]
      split <;> simp [hbytes]

/-- A message with its fate, and what it does to the state. -/
theorem exec_testmode_sends {buf : TestmodeBuf} :
    ∃ buf', exec (wpaDriverNl80211Testmode env true p buf) s =
      (.ok ((env.exchange p).ret, buf'),
        { s with sent := s.sent ++ if (env.exchange p).reaches then [p] else [] }) := by
  unfold wpaDriverNl80211Testmode
  rw [if_neg (by decide)]
  cases env.exchange p with
  | allocFailed | putFailed => exact ⟨buf, by simp [Exchange.reaches, Exchange.ret]⟩
  | exchanged ret replies => exact ⟨_, exec_bind_of_ok exec_modify⟩

section Structs

variable {ι : Type} {size : ι → Nat} {L : Layout ι size} {n : Nat}
variable {assignments : List (ι × List Byte)}

/-- A filled struct is handed to the kernel as its bytes. -/
theorem exec_flat_testmode {m : Mem Byte} (ht : t.mem = L.build 0 n m o.params assignments) :
    exec (Flat.wpaDriverNl80211Testmode env target o n) t =
      let out := wpaDriverNl80211TestmodeAt env.features target t.mem o.params n
      let bytes := L.image 0 n assignments
      (.ok out.1, ⟨out.2, t.sent ++ if (target.kernel bytes).reaches then [bytes] else []⟩) := by
  have hload : load t.mem o.params n = L.image 0 n assignments := by rw [ht, Layout.load_build]
  simp only [Flat.wpaDriverNl80211Testmode, exec_bind, exec_modify, exec_get, exec_pure, hload]

theorem fill_outside (hn : n ≤ GetStaStatisticsParams.sizeof) (hwithin : L.Within n)
    (hfills : Layout.Fills size assignments) {m : Mem Byte} :
    ∀ a, Beside o.params GetStaStatisticsParams.sizeof a →
      L.build 0 n m o.params assignments a = m a :=
  fun _ ha => Layout.build_outside hwithin hfills (Beside.mono hn ha)

/-- A message that asks for nothing, with records and in memory. -/
theorem exec_silent (hportrays : Portrays env target o) (h : Refines o t₀ s t) (hleast : 8 ≤ n)
    (hmost : n ≤ GetStaStatisticsParams.sizeof) (hwithin : L.Within n)
    (hfills : Layout.Fills size assignments)
    (hbytes : p.bytes o.staStatistics = some (L.image 0 n assignments))
    (hstatistics : p.hdrIndex &&& 0x00ffffff ≠ 0x10) (hlink : p.hdrIndex &&& 0x00ffffff ≠ 0x20) :
    ∃ buf' s' t₁ t',
      exec (wpaDriverNl80211Testmode (env.onStack stack) true p .none) s =
        (.ok ((env.exchange p).ret, buf'), s') ∧
      exec (Flat.fill o L n assignments) t = (.ok (), t₁) ∧
      exec (Flat.wpaDriverNl80211Testmode env target o n) t₁ = (.ok (env.exchange p).ret, t') ∧
      Refines o t₀ s' t' := by
  have hsame := hportrays.kernel p _ hbytes
  obtain ⟨buf', hsends⟩ := @exec_testmode_sends (env.onStack stack) s p .none
  refine ⟨buf', _, _, _, hsends, exec_modify, (exec_flat_testmode rfl).trans ?_,
    h.send hbytes hsame (fill_outside hmost hwithin hfills)⟩
  have hloaded : p.bytes o.staStatistics =
      some (load (L.build 0 n t.mem o.params assignments) o.params n) := by
    rw [Layout.load_build, hbytes]
  simp only [@testmodeAt_of_silent env.features target _ o.params n _ _ hloaded hleast hstatistics
    hlink, Layout.load_build, hsame]

end Structs

/-! ### Commands that send -/

variable {set : Bool} {adr dat swCmd idx base : BitVec 32} {bssid : Addr} {blocked : BitVec 8}
variable {k : Nat}

theorem simulates_swCmd (hportrays : Portrays env target o) :
    Simulates (Refines o t₀) (wpaDriverNl80211DriverSwCmd (env.onStack stack) set adr dat)
      (Flat.wpaDriverNl80211DriverSwCmd env target o set adr dat) := by
  apply simulates_of_exec
  intro s t h
  obtain ⟨buf', s', t₁, t', hsends, hfill, hflat, hrefines⟩ :=
    @exec_silent _ _ _ _ _ _ stack (.swCmd set adr dat) _ _ SwCmdParams.layout _ _ hportrays h
      (by decide) (by decide) SwCmdParams.within SwCmdParams.fills rfl
      (by rw [TestmodeParams.hdrIndex]; decide) (by rw [TestmodeParams.hdrIndex]; decide)
  exact ⟨_, s', t', exec_bind_of_ok hsends,
    (exec_bind_of_ok hfill).trans (exec_bind_of_ok hflat), hrefines⟩

theorem simulates_hotspot (hportrays : Portrays env target o) :
    Simulates (Refines o t₀) (wpaDriverHotspotBlockListUpdate (env.onStack stack) bssid blocked)
      (Flat.wpaDriverHotspotBlockListUpdate env target o bssid blocked) := by
  apply simulates_of_exec
  intro s t h
  obtain ⟨buf', s', t₁, t', hsends, hfill, hflat, hrefines⟩ :=
    @exec_silent _ _ _ _ _ _ stack (.hotspot blocked bssid) _ _ HotspotParams.layout _ _ hportrays h
      (by decide) (by decide) HotspotParams.within HotspotParams.fills rfl
      (by rw [TestmodeParams.hdrIndex]; decide) (by rw [TestmodeParams.hdrIndex]; decide)
  exact ⟨_, s', t', exec_bind_of_ok hsends, (exec_bind_of_ok hfill).trans hflat, hrefines⟩

theorem stateless_cstringAt {k : Nat} : Stateless (cstringAt cmd k) :=
  stateless_ite stateless_pure stateless_throw

theorem stateless_derefStation : Stateless (derefStation wpaS) := by
  cases wpaS with
  | none => exact stateless_throw
  | some station => exact stateless_pure

theorem simulates_fixedSwCmd (hportrays : Portrays env target o) :
    Simulates (Refines o t₀) (fixedSwCmd (env.onStack stack) swCmd idx)
      (Flat.fixedSwCmd env target o swCmd idx) :=
  simulates_bind (simulates_swCmd hportrays) fun _ => simulates_pure

theorem simulates_numberedSwCmd (hportrays : Portrays env target o) :
    Simulates (Refines o t₀) (numberedSwCmd (env.onStack stack) cmd k swCmd base)
      (Flat.numberedSwCmd env target o cmd k swCmd base) := by
  apply simulates_bind stateless_cstringAt.simulates
  intro cp
  apply simulates_ite simulates_pure
  apply simulates_ite simulates_pure
  exact simulates_bind (simulates_swCmd hportrays) fun _ => simulates_pure

theorem simulates_zeroOrMinusOne {call : DrvM Int} {call' : Flat.FlatM Int}
    (h : Simulates (Refines o t₀) call call') :
    Simulates (Refines o t₀) (zeroOrMinusOne call) (Flat.zeroOrMinusOne call') :=
  simulates_bind h fun _ => simulates_ite simulates_pure simulates_pure

theorem simulates_staBlock (hportrays : Portrays env target o) :
    Simulates (Refines o t₀) (wpaDriverStaBlock (env.onStack stack) cmd)
      (Flat.wpaDriverStaBlock env target o cmd) := by
  unfold wpaDriverStaBlock Flat.wpaDriverStaBlock
  cases env.hwaddrAton cmd with
  | none => exact simulates_pure
  | some bssid => exact simulates_hotspot hportrays

theorem simulates_staUnblock (hportrays : Portrays env target o) :
    Simulates (Refines o t₀) (wpaDriverStaUnblock (env.onStack stack) cmd)
      (Flat.wpaDriverStaUnblock env target o cmd) := by
  unfold wpaDriverStaUnblock Flat.wpaDriverStaUnblock
  cases env.hwaddrAton cmd with
  | none => exact simulates_pure
  | some bssid => exact simulates_hotspot hportrays

/-! ### Commands that print -/

/-- From its start the command with records has the outcome of that in memory, and refines it. -/
def Portrayed (o : Objects) (t₀ : Flat.State) (ifaces : List Iface) (m : DrvM Int)
    (m' : Flat.FlatM Int) : Prop :=
  let s := CmdState.start o.bufLen ifaces
  (exec m s).1 = (exec m' t₀).1 ∧ Refines o t₀ (exec m s).2 (exec m' t₀).2

theorem portrayed_of_simulates {m : DrvM Int} {m' : Flat.FlatM Int}
    (h : Simulates (Refines o t₀) m m') : Portrayed o t₀ ifaces m m' := h _ _ refines_start

theorem portrayed_of_exec {m : DrvM Int} {m' : Flat.FlatM Int} {r : Except Fault Int}
    (hm : exec m (.start o.bufLen ifaces) = (r, s)) (hm' : exec m' t₀ = (r, t))
    (h : Refines o t₀ s t) : Portrayed o t₀ ifaces m m' := by
  rw [Portrayed, hm, hm']
  exact ⟨rfl, h⟩

theorem portrayed_snprintfReply {text : Text} :
    Portrayed o t₀ ifaces (snprintfReply text) (Flat.snprintfReply o text) := by
  unfold Portrayed
  refine ⟨rfl, ?_, [], (List.append_nil _).symm, rfl⟩
  intro a _ _
  have hprinted := @snprintfTo_commit t₀.mem o.buf (fresh o.bufLen) 0 text (Nat.zero_le _)
  rw [commit_fresh, length_fresh, Nat.add_zero, Nat.cast_add, add_sub_cancel_left] at hprinted
  exact congrFun hprinted a

theorem portrayed_macaddr : Portrayed o t₀ ifaces (macaddr wpaS) (Flat.macaddr o wpaS) := by
  cases wpaS with
  | none => exact portrayed_of_exec rfl rfl refines_start
  | some station => exact portrayed_snprintfReply

theorem exec_wpasGetStaStatistics {station : Station} (hpriv : station.drvPriv = true)
    {staAddr : Addr} :
    exec (wpasGetStaStatistics env (some station) staAddr stack) s =
      exec (wpaDriverNl80211Testmode env true (.getStaStatistics staAddr) (.staStatistics stack))
        s := by
  rw [wpasGetStaStatistics, derefStation, exec_bind_of_ok exec_pure, hpriv]

theorem sent_getStaStatistics {station : Station} (hpriv : station.drvPriv = true) {addr : Text}
    {staAddr : Addr} (haddr : env.hwaddrAton addr = some staAddr) :
    (exec (wpaDriverGetStaStatistics env (some station) addr) s).2.sent =
      s.sent ++ if (env.exchange (.getStaStatistics staAddr)).reaches
        then [.getStaStatistics staAddr] else [] := by
  obtain ⟨buf', hsends⟩ :=
    @exec_testmode_sends env s (.getStaStatistics staAddr) (.staStatistics env.staStatistics)
  simp only [wpaDriverGetStaStatistics, haddr]
  rw [exec_bind_of_ok ((exec_wpasGetStaStatistics hpriv).trans hsends)]
  exact @frames_reply env .getStaStatistics _ _

theorem exec_flat_wpasGetStaStatistics {station : Station} (hpriv : station.drvPriv = true)
    {staAddr : Addr} :
    exec (Flat.wpasGetStaStatistics env target o (some station) staAddr) t =
      let out :=
        wpasGetStaStatisticsAt env.features target t.mem o.params staAddr o.staStatistics
      let bytes := statisticsRequest staAddr o.staStatistics
      (.ok out.1, ⟨out.2, t.sent ++ if (target.kernel bytes).reaches then [bytes] else []⟩) := by
  refine (exec_bind_of_ok exec_modify).trans ((exec_bind_of_ok rfl).trans ?_)
  rw [hpriv]
  exact exec_flat_testmode rfl

/-- The statistics command in memory, with what it returns and leaves there. -/
theorem exec_flat_getStaStatistics {station : Station} (hpriv : station.drvPriv = true)
    {addr : Text} {staAddr : Addr} (haddr : env.hwaddrAton addr = some staAddr) :
    exec (Flat.wpaDriverGetStaStatistics env target o (some station) addr) t =
      let out := wpaDriverGetStaStatisticsAt env target t.mem o addr
      let bytes := statisticsRequest staAddr o.staStatistics
      (.ok out.1, ⟨out.2, t.sent ++ if (target.kernel bytes).reaches then [bytes] else []⟩) := by
  simp only [Flat.wpaDriverGetStaStatistics, haddr, getStaStatisticsAt_of_addr haddr]
  rw [exec_bind_of_ok (exec_flat_wpasGetStaStatistics hpriv)]
  split <;> rfl

/-- The memory with a request for statistics in it. -/
def Flat.State.asking (t : Flat.State) (o : Objects) (staAddr : Addr) : Flat.State :=
  { t with
    mem := GetStaStatisticsParams.layout.build 0 GetStaStatisticsParams.sizeof t.mem o.params
      (GetStaStatisticsParams.assignments staAddr o.staStatistics) }

/-- A request that is filled in and not sent is not seen. -/
theorem Refines.asking (h : Refines o t₀ s t) {staAddr : Addr} :
    Refines o t₀ s (t.asking o staAddr) := by
  refine ⟨?_, h.sent⟩
  intro a hparams hstatistics
  exact (fill_outside le_rfl GetStaStatisticsParams.within GetStaStatisticsParams.fills a
    hparams).trans (h.mem a hparams hstatistics)

/-- Without a driver handle to send the request through, both fail alike. -/
theorem portrayed_of_fault {addr : Text} {staAddr : Addr} {fault : Fault}
    (haddr : env.hwaddrAton addr = some staAddr)
    (hrecord : ∀ stack s, exec (wpasGetStaStatistics (env.onStack stack) wpaS staAddr stack) s =
      (.error fault, s))
    (hflat : exec (Flat.wpasGetStaStatistics env target o wpaS staAddr) t₀ =
      (.error fault, t₀.asking o staAddr)) :
    Portrayed o t₀ ifaces (wpaDriverGetStaStatistics (env.onStack stack) wpaS addr)
      (Flat.wpaDriverGetStaStatistics env target o wpaS addr) := by
  simp only [wpaDriverGetStaStatistics, Flat.wpaDriverGetStaStatistics, haddr]
  exact portrayed_of_exec (exec_bind_of_error (hrecord _ _)) (exec_bind_of_error hflat)
    refines_start.asking

/-- The statistics command, on a stack that is what the memory spells. -/
theorem portrayed_getStaStatistics (hportrays : Portrays env target o) {addr : Text} :
    Portrayed o t₀ ifaces
      (wpaDriverGetStaStatistics (env.onStack (.ofMem t₀.mem o.staStatistics.toNat)) wpaS addr)
      (Flat.wpaDriverGetStaStatistics env target o wpaS addr) := by
  cases haddr : env.hwaddrAton addr with
  | none =>
    simp only [wpaDriverGetStaStatistics, Flat.wpaDriverGetStaStatistics, haddr]
    exact portrayed_of_simulates simulates_pure
  | some staAddr =>
    cases wpaS with
    | none => exact portrayed_of_fault haddr (fun _ _ => rfl) rfl
    | some station =>
      cases hpriv : station.drvPriv with
      | false =>
        apply portrayed_of_fault haddr
        · intro stack s
          rw [wpasGetStaStatistics, derefStation, exec_bind_of_ok exec_pure, hpriv]
          rfl
        · refine (exec_bind_of_ok exec_modify).trans ((exec_bind_of_ok rfl).trans ?_)
          rw [hpriv]
          rfl
      | true =>
        have hkernel : ∀ staAddr, env.exchange (.getStaStatistics staAddr) =
            target.kernel (statisticsRequest staAddr o.staStatistics) :=
          fun staAddr => hportrays.kernel _ _ rfl
        obtain ⟨s, hrecord, hmem⟩ := @statistics_command_in_memory env target t₀.mem o addr station
          ifaces hpriv hportrays.doubles hkernel
        have hsent : s.sent = _ := (congrArg (fun p => p.2.sent) hrecord).symm.trans
          (@sent_getStaStatistics (env.onStack (.ofMem t₀.mem o.staStatistics.toNat))
            (.start o.bufLen ifaces) station hpriv addr staAddr haddr)
        refine portrayed_of_exec hrecord (exec_flat_getStaStatistics hpriv haddr)
          ⟨hmem, _, rfl, ?_⟩
        rw [hsent, ← hkernel]
        cases (env.exchange (.getStaStatistics staAddr)).reaches <;> rfl

/-! ### All commands -/

variable {drv : Drv} {branch : Branch}

theorem portrayed_bind {α : Type} {m : DrvM α} {f : α → DrvM Int} {f' : α → Flat.FlatM Int}
    (hm : Stateless m) (hf : ∀ a, Portrayed o t₀ ifaces (f a) (f' a)) :
    Portrayed o t₀ ifaces (m >>= f) (Flat.quiet m >>= f') := by
  obtain ⟨r, hr⟩ := hm
  have hquiet : exec (Flat.quiet m) t₀ = (r, t₀) := by
    rw [Flat.quiet, outcomeFrom, exec_liftExcept, hr]
  cases r with
  | error fault =>
    exact portrayed_of_exec (exec_bind_of_error (hr _)) (exec_bind_of_error hquiet) refines_start
  | ok a =>
    have hrest := hf a
    rw [Portrayed, exec_bind_of_ok (hr _), exec_bind_of_ok hquiet]
    exact hrest

theorem stateless_country : Stateless (country env cmd) := by
  have hset : Stateless (wpaDriverMediatekSetCountry env cmd 8) := by
    apply stateless_ite stateless_pure
    apply stateless_bind stateless_cstringAt
    intro alpha2
    exact stateless_ite stateless_throw (stateless_ite stateless_pure stateless_pure)
  unfold country
  apply stateless_ite
  · exact stateless_bind stateless_cstringAt fun _ => hset
  · exact hset

theorem stateless_stop : Stateless (stop env drv wpaS) := by
  unfold stop
  exact stateless_ite (stateless_bind stateless_derefStation fun _ => stateless_pure) stateless_pure

theorem portrayed_quiet {m : DrvM Int} (h : Stateless m) :
    Portrayed o t₀ ifaces m (Flat.quiet m) := portrayed_of_simulates h.simulates

theorem portrayed_runBranch (hportrays : Portrays env target o)
    (hforeign : branch.isForeign = false) :
    Portrayed o t₀ ifaces
      (runBranch (env.onStack (.ofMem t₀.mem o.staStatistics.toNat)) drv wpaS cmd branch)
      (Flat.runBranch env target o drv wpaS cmd branch hforeign) := by
  cases branch with
  | getStaStatistics =>
    exact portrayed_bind stateless_cstringAt fun _ => portrayed_getStaStatistics hportrays
  | macaddr => exact portrayed_macaddr
  | rxfilterAdd | rxfilterRemove | smtRate =>
    exact portrayed_of_simulates (simulates_numberedSwCmd hportrays)
  | rxfilterStop | rxfilterStart | smtTestOn | smtTestOff =>
    exact portrayed_of_simulates (simulates_fixedSwCmd hportrays)
  | staBlock =>
    exact portrayed_bind stateless_cstringAt fun _ =>
      portrayed_of_simulates (simulates_zeroOrMinusOne (simulates_staBlock hportrays))
  | staUnblock =>
    exact portrayed_bind stateless_cstringAt fun _ =>
      portrayed_of_simulates (simulates_zeroOrMinusOne (simulates_staUnblock hportrays))
  | powermode | setRtsThreshold =>
    exact portrayed_quiet (stateless_bind stateless_cstringAt fun _ => stateless_pure)
  | country => exact portrayed_quiet stateless_country
  | stop => exact portrayed_quiet stateless_stop
  | start | getpower | getRtsThreshold | btcoexscanStart | btcoexscanStop | btcoexmode =>
    exact portrayed_quiet stateless_pure
  | getStaLinkDetect | setWapiKey | wapiMsgSend | mcc | p2pSetOpps | p2pSetPowerSave | p2pSetSleep
  | p2pSetSleepAll => cases hforeign

theorem flat_driverCmd_of_none {hown : env.features.Own} (h : selected env cmd = none) :
    Flat.wpaDriverNl80211DriverCmd env target o hown cmd = pure (-1) := by
  unfold Flat.wpaDriverNl80211DriverCmd
  split
  · rfl
  · rename_i hsome
    rw [h] at hsome
    cases hsome

theorem flat_driverCmd_of_some {hown : env.features.Own}
    (h : selected env cmd = some (drv, wpaS, branch)) :
    Flat.wpaDriverNl80211DriverCmd env target o hown cmd =
      Flat.runBranch env target o drv wpaS cmd branch (isForeign_of_selected hown h) := by
  unfold Flat.wpaDriverNl80211DriverCmd
  split
  · rename_i hnone
    rw [h] at hnone
    cases hnone
  · rename_i hsome
    cases h.symm.trans hsome
    rfl

theorem portrayed_driverCmd (hportrays : Portrays env target o) (hown : env.features.Own) :
    Portrayed o t₀ ifaces
      (wpaDriverNl80211DriverCmd (env.onStack (.ofMem t₀.mem o.staStatistics.toNat)) cmd)
      (Flat.wpaDriverNl80211DriverCmd env target o hown cmd) := by
  have hselected : selected (env.onStack (.ofMem t₀.mem o.staStatistics.toNat)) cmd =
      selected env cmd := rfl
  rw [driverCmd_eq, hselected]
  cases hsel : selected env cmd with
  | none =>
    rw [flat_driverCmd_of_none hsel]
    exact portrayed_of_simulates simulates_pure
  | some parts =>
    obtain ⟨drv, wpaS, branch⟩ := parts
    rw [flat_driverCmd_of_some hsel]
    exact portrayed_runBranch hportrays _

/-! ### Room -/

theorem length_printed {st : StaStatistics} :
    (exec (printStaStatistics env st) s).2.buf.length = s.buf.length := by
  rw [exec_printStaStatistics]
  exact length_printAll

/-- Commands write to their buffer, and it stays as long as it is. -/
theorem length_runBranch (hforeign : branch.isForeign = false) :
    Frames (fun s : CmdState => s.buf.length) (runBranch env drv wpaS cmd branch) := by
  have hcases : branch.prints = false ∨ branch = .macaddr ∨ branch = .getStaStatistics := by
    revert hforeign
    cases branch <;> decide
  rcases hcases with hprints | rfl | rfl
  · exact keeps_runBranch (fun _ _ => rfl) (fun h => by rw [hprints] at h; cases h) fun _ _ _ => rfl
  · apply frames_bind keeps_derefStation
    exact fun station => frames_bind (frames_modify fun _ => length_snprintf) fun _ => frames_pure
  · apply frames_bind keeps_cstringAt
    intro addr
    unfold wpaDriverGetStaStatistics
    cases env.hwaddrAton addr with
    | none => exact frames_pure
    | some staAddr =>
      apply frames_bind (frames_bind keeps_derefStation fun _ => keeps_testmode fun _ _ => rfl)
      rintro ⟨ret, buf⟩
      apply frames_ite frames_pure
      cases buf <;> exact fun _ => length_printed

theorem length_driverCmd (hown : env.features.Own) :
    (exec (wpaDriverNl80211DriverCmd env cmd) s).2.buf.length = s.buf.length := by
  rw [driverCmd_eq]
  cases hsel : selected env cmd with
  | none => rfl
  | some parts => exact length_runBranch (isForeign_of_selected hown hsel) s

end Refinement

/-! ## Sessions -/

/-- None of the objects of a command lies at the address. -/
structure Objects.Spare (o : Objects) (a : Nat) : Prop where
  params : Beside o.params GetStaStatisticsParams.sizeof a
  staStatistics : Beside o.staStatistics.toNat StaStatisticsAttr.sizeof a
  buf : Beside o.buf o.bufLen a

namespace Flat

/-- A command with what it meets and where its objects lie. -/
structure Request where
  env : Env
  target : Target
  objects : Objects
  cmd : Text
  own : env.features.Own
  portrays : Portrays env target objects

def Request.run (r : Request) : FlatM Int :=
  wpaDriverNl80211DriverCmd r.env r.target r.objects r.own r.cmd

/-- The command with records, on the stack that a memory spells. -/
def Request.withRecords (r : Request) (t : State) : Except Fault Int × CmdState :=
  exec (Wpa.wpaDriverNl80211DriverCmd
    (r.env.onStack (.ofMem t.mem r.objects.staStatistics.toNat)) r.cmd) (.start r.objects.bufLen [])

/-- The bytes of the message that the command comes down to. -/
def Request.message (r : Request) : Option (List Byte) :=
  (reached r.env r.cmd).bind fun params => params.bytes r.objects.staStatistics

/-- The memory after a command, whatever its outcome. -/
def step (t : State) (r : Request) : State := (exec r.run t).2

/-- A command in memory does what the command with records does: the outcome is the same, and the
    buffer holds what that leaves in a buffer of its own. -/
structure Faithful (t : State) (r : Request) : Prop where
  outcome : (exec r.run t).1 = (r.withRecords t).1
  mem : ∀ a, Beside r.objects.params GetStaStatisticsParams.sizeof a →
    Beside r.objects.staStatistics.toNat StaStatisticsAttr.sizeof a →
    (step t r).mem a = commit t.mem r.objects.buf (r.withRecords t).2.buf a

end Flat

section Sessions

variable {t : Flat.State} {r : Flat.Request} {requests : List Flat.Request}

theorem portrayed_run : Portrayed r.objects t []
    (wpaDriverNl80211DriverCmd
      (r.env.onStack (.ofMem t.mem r.objects.staStatistics.toNat)) r.cmd) r.run :=
  portrayed_driverCmd r.portrays r.own

theorem faithful : Flat.Faithful t r := by
  obtain ⟨houtcome, hrefines⟩ := @portrayed_run t r
  exact ⟨houtcome.symm, hrefines.mem⟩

theorem toList_bind_of_map {α β : Type} {x : Option α} {f : α → Option β} {bs : List β}
    (h : bs.map some = x.toList.map f) : bs = (x.bind f).toList := by
  cases x with
  | none => exact List.map_eq_nil_iff.mp h
  | some a =>
    cases bs with
    | nil => cases h
    | cons b bs =>
      obtain ⟨hb, hbs⟩ := List.cons.inj h
      obtain rfl := List.map_eq_nil_iff.mp hbs
      rw [Option.bind_some, ← hb]
      rfl

/-- The kernel is handed the bytes of what the command comes down to, which is not read off the
    memory. -/
theorem sent_flat_step : (Flat.step t r).sent = t.sent ++ r.message.toList := by
  obtain ⟨bs, hsent, hmap⟩ := (@portrayed_run t r).2.sent
  rw [sent_driverCmd] at hmap
  rw [Flat.step, hsent, Flat.Request.message, toList_bind_of_map hmap]
  rfl

theorem mem_flat_step {a : Nat} (ha : r.objects.Spare a) : (Flat.step t r).mem a = t.mem a := by
  rw [faithful.mem a ha.params ha.staStatistics]
  apply commit_outside
  have hlength : (r.withRecords t).2.buf.length = r.objects.bufLen := by
    refine Eq.trans ?_ length_fresh
    exact @length_driverCmd
      (r.env.onStack (.ofMem t.mem r.objects.staStatistics.toNat)) _ r.cmd r.own
  rw [hlength]
  exact ha.buf

/-- Sessions in memory. Each command does what the command with records does on the stack that
    the commands before have left; the kernel is handed the messages that the commands come down
    to, and nothing of what lay in memory; and only the objects of the commands are written. -/
theorem session_in_memory :
    (∀ p ∈ Machine.steps Flat.step t requests, Flat.Faithful p.1 p.2) ∧
      (Machine.after Flat.step t requests).sent =
        t.sent ++ requests.filterMap Flat.Request.message ∧
      ∀ a, (∀ r ∈ requests, r.objects.Spare a) →
        (Machine.after Flat.step t requests).mem a = t.mem a := by
  refine ⟨fun _ _ => faithful, ?_, ?_⟩
  · induction requests generalizing t with
    | nil => exact (List.append_nil _).symm
    | cons r requests ih =>
      rw [Machine.after_cons, ih, sent_flat_step, List.append_assoc]
      cases hmessage : r.message <;> simp [hmessage]
  · intro a hspare
    apply Machine.after_invariant (P := fun u : Flat.State => u.mem a = t.mem a) rfl
    exact fun u r hr hu => (mem_flat_step (hspare r hr)).trans hu

/-- A command of a station whose kernel answers with a link score. -/
def Flat.Request.sample (cmd : String) : Flat.Request where
  env := .halves
  target := .halves
  objects := .sample
  cmd := ascii cmd
  own := ⟨rfl, rfl, rfl⟩
  portrays := ⟨fun _ _ _ => rfl, doublesStored_halves⟩

theorem session_in_memory_sample :
    let requests : List Flat.Request :=
      [.sample "rxfilter-stop", .sample "MACADDR", .sample "GET_STA_STATISTICS any"]
    let t := Machine.after Flat.step ⟨fun _ => 0, []⟩ requests
    t.sent = [SwCmdParams.layout.image 0 SwCmdParams.sizeof
        (SwCmdParams.assignments true 0x9F000000 0x00900000), statisticsRequest broadcast 0x2000] ∧
      t.mem 0x8000 = 0 := by
  intro requests t
  obtain ⟨-, hsent, hspare⟩ := @session_in_memory ⟨fun _ => 0, []⟩ requests
  refine ⟨hsent.trans (by decide +kernel), hspare 0x8000 ?_⟩
  intro r hr
  have hobjects : r.objects = .sample := by
    simp only [requests, List.mem_cons, List.not_mem_nil, or_false] at hr
    rcases hr with rfl | rfl | rfl <;> rfl
  rw [hobjects]
  exact ⟨.inr (by decide), .inr (by decide), .inr (by decide)⟩

end Sessions

end Wpa
