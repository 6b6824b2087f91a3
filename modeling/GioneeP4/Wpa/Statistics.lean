-- SUMMARY: The two commands that print what the kernel reports about a station or a link.
import GioneeP4.Wpa.Testmode

/-!
# Statistics

Each command asks the kernel to fill in a struct and prints it to the caller's
buffer, one `snprintf` for each text. Station statistics are printed whole or not
at all; link detection stops at the first line that does not fit.
-/

namespace Wpa

open CText Printing

variable (env : Env)

/-! ## Station statistics -/

/-- Texts with colons between them. -/
def colons (ts : List Text) : Text := (ts.intersperse (ascii ":")).flatten

/-- `MACSTR` of an address. -/
def macstr (addr : Addr) : Text := colons (addr.toList.map fun b => hex false 2 b.toNat)

/-- `%.1f` -/
def oneDecimal : Double → Text
  | .half twice => decimal (twice.toNat / 2) ++ ascii "." ++ decimal (twice.toNat % 2 * 5)
  | .raw bits => env.formatDouble bits

/-- The arrays of the statistics, for the elements a call reads. -/
inductive StatisticsArray
  | tcBufFullCnt | tcQueLen | tcAvgQueLen | tcCurQueLen | reserved
  deriving DecidableEq

/-- One call of `snprintf`: its text, and the array elements its arguments read. -/
structure PrintCall where
  text : Text
  reads : List (StatisticsArray × Nat)

/-- A call that reads no array. -/
def plain (text : Text) : PrintCall := ⟨text, []⟩

/-- The `u32` at an index of an array given by its bytes. -/
def wordOf (bytes : Bytes 16) (i : Nat) : BitVec 32 := Words.wordAt bytes.toList (4 * i)

/-- The line of a counter for each traffic class. -/
def tcLine (name : String) (array : StatisticsArray) (words : Bytes 16) : PrintCall where
  text := ascii name ++
    colons ((List.range 4).map fun i => signedDecimal (wordOf words i).toInt) ++ ascii "\n"
  reads := (List.range 4).map fun i => (array, i)

/-- The calls that print the reserved bytes from `first` to `last`, and the newline. -/
def reservedCalls (s : StaStatistics) (first last : Nat) : List PrintCall :=
  let byte (i : Nat) : Byte := s.reserved[i]?.getD 0
  ((List.range' first (last - first)).flatMap fun i =>
    ⟨hex true 2 (byte i).toNat, [(.reserved, i)]⟩ ::
      if (i + 1) % 4 = 0 then [⟨ascii " ", [(.reserved, i)]⟩] else []) ++
    -- the format takes no argument, but one is passed and read
    [⟨ascii "\n", [(.reserved, last)]⟩]

/-- The calls of `print_sta_statistics`, in order. -/
def statisticsCalls (s : StaStatistics) : List PrintCall :=
  let line (name : String) (value : Text) : PrintCall := plain (ascii name ++ value ++ ascii "\n")
  let counter (name : String) (value : BitVec 32) : PrintCall :=
    line name (signedDecimal value.toInt)
  [line "sta_addr=" (macstr s.addr),
    line "link_score=" (decimal s.linkScore.toNat),
    line "per=" (decimal s.per.toNat),
    line "rssi=" (signedDecimal s.rssi),
    line "phy=0x" (hex true 8 s.phyMode.toNat),
    line "rate=" (oneDecimal env s.txRate),
    counter "total_cnt=" s.txTotalCnt,
    counter "threshold_cnt=" s.txExcThresholdCnt,
    counter "fail_cnt=" s.txFailCnt,
    counter "timeout_cnt=" s.txTimeoutCnt,
    counter "apt=" s.txAvgProcessTime,
    counter "aat=" s.txAvgAirTime,
    tcLine "TC_buf_full_cnt=" .tcBufFullCnt s.tcBufFullCnt,
    tcLine "TC_sta_que_len=" .tcQueLen s.tcQueLen,
    tcLine "TC_avg_que_len=" .tcAvgQueLen s.tcAvgQueLen,
    tcLine "TC_cur_que_len=" .tcCurQueLen s.tcCurQueLen,
    line "flag=0x" (hex true 8 s.flag.toNat),
    plain (ascii "reserved0=")] ++
  reservedCalls s 0 16 ++
  [plain (ascii "reserved1=")] ++
  reservedCalls s 16 32 ++
  [plain (ascii "====\n")]

def printStaStatistics (s : StaStatistics) : DrvM Int := do
  let printed := printAll (← get).buf 0 ((statisticsCalls env s).map PrintCall.text)
  modify fun st => { st with buf := printed.buf }
  if printed.complete then return printed.pos else return 0

/-- Reads through `wpa_s`. -/
def derefStation (wpaS : Option Station) : DrvM Station :=
  match wpaS with
  | none => throw .unsetStation
  | some station => return station

def wpasGetStaStatistics (wpaS : Option Station) (staAddr : Addr) (buf : StaStatistics) :
    DrvM (Int × TestmodeBuf) := do
  let station ← derefStation wpaS
  wpaDriverNl80211Testmode env station.drvPriv (.getStaStatistics staAddr) (.staStatistics buf)

def wpaDriverGetStaStatistics (wpaS : Option Station) (addr : Text) : DrvM Int :=
  match env.hwaddrAton addr with
  | none => return -1
  | some staAddr => do
      let (ret, buf) ← wpasGetStaStatistics env wpaS staAddr env.staStatistics
      if ret < 0 then return -1
      else
        match buf with
        | .staStatistics s => printStaStatistics env s
        | .none | .staLinkDetect _ => printStaStatistics env env.staStatistics

/-! ## Link detection -/

/-- The lines of link detection, in order. -/
def linkDetectLines (s : StaLinkDetect) : List Text :=
  let line (name : String) (value : BitVec 64) : Text := ascii name ++ decimal value.toNat ++ ascii "\n"
  [line "rFailedCount=" s.txFailCnt,
    line "rRetryCount=" s.txRetryCnt,
    line "rMultipleRetryCount=" s.txMultiRetryCnt,
    line "rACKFailureCount=" s.ackFailCnt,
    line "rFCSErrorCount=" s.fcsErrCnt,
    line "tx_total=" s.txCnt,
    line "tx_ok=" s.txOkCnt,
    line "tx_os=" s.txOsCnt]

def wpasGetStaLinkDetect (wpaS : Option Station) (buf : StaLinkDetect) :
    DrvM (Int × TestmodeBuf) := do
  let station ← derefStation wpaS
  wpaDriverNl80211Testmode env station.drvPriv .getStaLinkDetect (.staLinkDetect buf)

def printStaLinkDetect (s : StaLinkDetect) : DrvM Int := do
  let printed := printAll (← get).buf 0 (linkDetectLines s)
  modify fun st => { st with buf := printed.buf }
  return printed.pos

def wpaDriverGetStaLinkDetect (wpaS : Option Station) : DrvM Int := do
  let (ret, buf) ← wpasGetStaLinkDetect env wpaS env.staLinkDetect
  if ret < 0 then return -1
  else
    match buf with
    | .staLinkDetect s => printStaLinkDetect s
    | .none | .staStatistics _ => printStaLinkDetect env.staLinkDetect

end Wpa
