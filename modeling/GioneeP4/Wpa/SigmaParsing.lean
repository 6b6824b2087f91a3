-- SUMMARY: The arguments of the P2P test commands: which of them are parsed or refused, and which make the parser follow a space that is not there.
import GioneeP4.Wpa.Delivery

/-!
# Arguments of the P2P test commands

`p2p_set_opps` takes an integer, an address and an SSID with spaces between them,
`p2p_set_sleep` an address and an SSID. The parser cuts its string at a space
without looking whether there is one.
-/

namespace Wpa

open Prog CText

variable {env : Env} {drv : Drv} {station : Station} {rest field : Text}

/-! ## Shapes -/

/-- A decimal integer: digits behind an optional sign. -/
def IsInteger (field : Text) : Prop :=
  ∃ sign ds : Text, sign ∈ [[], [45], [43]] ∧ ds ≠ [] ∧ (∀ b ∈ ds, 48 ≤ b ∧ b ≤ 57) ∧
    field = sign ++ ds

def isHexDigit (b : Byte) : Bool := (digitOf b).any (· < 16)

/-- Six pairs of hexadecimal digits with colons between them start the text. -/
def startsWithMac (s : Text) : Bool :=
  17 ≤ s.length ∧
    ∀ i < 17, if i % 3 = 2 then s[i]?.getD 0 = 58 else isHexDigit (s[i]?.getD 0) = true

def IsMac (t : Text) : Prop := t.length = 17 ∧ startsWithMac t = true

/-- The arguments of `p2p_set_opps`. -/
def OppsShape (field rest : Text) : Prop :=
  IsInteger field ∧ ∃ mac ssid, IsMac mac ∧ rest = field ++ 32 :: (mac ++ 32 :: ssid)

/-- The arguments of `p2p_set_sleep`. -/
def SleepShape (rest : Text) : Prop := ∃ mac ssid, IsMac mac ∧ rest = mac ++ 32 :: ssid

/-- A configured station of a build with the P2P test commands. -/
structure SigmaStation (env : Env) (drv : Drv) (station : Station) : Prop where
  ready : Ready env drv (some station)
  compiled : env.features.p2pSigma = true

/-- `hwaddr_aton` reads an address where the text starts with one. -/
def ReadsMac (env : Env) : Prop := ∀ s, (env.hwaddrAton s).isSome = startsWithMac s

/-- `p2p_set_opps` with these arguments, where the kernel takes every message. -/
abbrev oppsCmd (env : Env) (rest : Text) : DrvM Int :=
  wpaDriverNl80211DriverCmd env.delivering (ascii "p2p_set_opps " ++ rest)

/-- `p2p_set_sleep` with these arguments, where the kernel takes every message. -/
abbrev sleepCmd (env : Env) (rest : Text) : DrvM Int :=
  wpaDriverNl80211DriverCmd env.delivering (ascii "p2p_set_sleep " ++ rest)

/-- Arguments of `p2p_set_opps` are in shape and sent, or refused. -/
def OppsParsed (env : Env) (rest : Text) : Prop :=
  (∃ field, OppsShape field rest ∧
      SendsOne (oppsCmd env rest) (.p2pSigma 107 (BitVec.ofInt 32 (atoi field)))) ∨
    Refuses (oppsCmd env rest)

/-- Arguments of `p2p_set_sleep` are in shape and sent, or refused. -/
def SleepParsed (env : Env) (rest : Text) : Prop :=
  (SleepShape rest ∧ SendsOne (sleepCmd env rest) (.p2pSigma 106 0)) ∨ Refuses (sleepCmd env rest)

/-! ## Fields -/

theorem startsWithMac_append {mac t : Text} (h : IsMac mac) : startsWithMac (mac ++ t) = true := by
  obtain ⟨hlen, hmac⟩ := h
  obtain ⟨-, hbytes⟩ := of_decide_eq_true hmac
  apply decide_eq_true
  refine ⟨by rw [List.length_append]; omega, fun i hi => ?_⟩
  rw [List.getElem?_append_left (by omega)]
  exact hbytes i hi

/-- An integer starts with no space and has none. -/
theorem IsInteger.no_space (h : IsInteger field) :
    (32 : Byte) ∉ field ∧ ∃ b t, field = b :: t ∧ isSpace b = false := by
  obtain ⟨sign, ds, hsign, hne, hds, rfl⟩ := h
  have hdigit : ∀ b : Byte, 48 ≤ b ∧ b ≤ 57 → b ≠ 32 ∧ isSpace b = false := by decide
  have hspace : (32 : Byte) ∉ ds := fun hmem => (hdigit 32 (hds 32 hmem)).1 rfl
  obtain ⟨b, t, rfl⟩ := List.exists_cons_of_ne_nil hne
  have hb := (hdigit b (hds b (List.mem_cons_self ..))).2
  simp only [List.mem_cons, List.not_mem_nil, or_false] at hsign
  rcases hsign with rfl | rfl | rfl
  · exact ⟨hspace, b, t, rfl, hb⟩
  · exact ⟨by simpa using hspace, 45, b :: t, rfl, by decide⟩
  · exact ⟨by simpa using hspace, 43, b :: t, rfl, by decide⟩

/-- There is a space behind an address that is followed by one. -/
theorem strchr_behind_mac {mac ssid : Text} : (strchr (mac ++ 32 :: ssid) 32).isSome = true :=
  Option.isSome_iff_ne_none.mpr fun hnone =>
    strchr_eq_none_iff.mp hnone (List.mem_append_right _ (List.mem_cons_self ..))

theorem dispatch_setOpps {features : Features} (h : features.p2pSigma = true) :
    dispatch features (ascii "p2p_set_opps " ++ rest) = some .p2pSetOpps := by
  obtain ⟨poorLinkDetect, hotspotMgr, wapi, p2pSigma⟩ := features
  cases h
  cases poorLinkDetect <;> cases hotspotMgr <;> cases wapi <;> rfl

theorem dispatch_setSleep {features : Features} (h : features.p2pSigma = true) :
    dispatch features (ascii "p2p_set_sleep " ++ rest) = some .p2pSetSleep := by
  obtain ⟨poorLinkDetect, hotspotMgr, wapi, p2pSigma⟩ := features
  cases h
  cases poorLinkDetect <;> cases hotspotMgr <;> cases wapi <;> rfl

/-- A message of the test mode is sent if the driver handle is set, and goes through a null pointer
    otherwise. -/
theorem exec_sigma {index value : Int} {s : CmdState} :
    exec (wpasP2pSigmaTestMode env.delivering (some station) index value >>= fun _ => pure (0 : Int))
        s =
      if station.drvPriv then
        (.ok 0, { s with
          sent := s.sent ++ [.p2pSigma (BitVec.ofInt 32 index) (BitVec.ofInt 32 value)] })
      else (.error .nullPointer, s) := by
  obtain ⟨ownAddr, conf, drvPriv⟩ := station
  cases drvPriv <;> rfl

theorem not_refuses_of_fault {m : DrvM Int} {fault : Fault}
    (h : ∀ s, exec m s = (.error fault, s)) : ¬Refuses m := by
  intro hrefuses
  obtain ⟨t, hfails, -⟩ := hrefuses (.start 0 [])
  rw [h] at hfails
  cases hfails

/-- A program that sends a message of the test mode, if it can, refuses nothing. -/
theorem not_refuses_of_sigma {m : DrvM Int} {index value : Int}
    (h : ∀ s, exec m s = exec (wpasP2pSigmaTestMode env.delivering (some station) index value >>=
      fun _ => pure (0 : Int)) s) : ¬Refuses m := by
  intro hrefuses
  obtain ⟨t, hfails, -⟩ := hrefuses (.start 0 [])
  rw [h, exec_sigma] at hfails
  split at hfails
  · cases hfails
  · cases hfails

theorem sendsOne_sigma_iff {m : DrvM Int} {index value : Int}
    (h : ∀ s, exec m s = exec (wpasP2pSigmaTestMode env.delivering (some station) index value >>=
      fun _ => pure (0 : Int)) s) :
    SendsOne m (.p2pSigma (BitVec.ofInt 32 index) (BitVec.ofInt 32 value)) ↔
      station.drvPriv = true := by
  simp only [SendsOne, h, exec_sigma]
  cases station.drvPriv with
  | false =>
    refine iff_of_false (fun hsends => ?_) Bool.noConfusion
    obtain ⟨t, hfails, -⟩ := hsends (.start 0 [])
    cases hfails
  | true => exact iff_of_true (fun s => ⟨_, rfl, rfl⟩) rfl

/-! ## `p2p_set_opps` -/

theorem exec_oppsCmd (hstation : SigmaStation env drv station) {s : CmdState} :
    exec (oppsCmd env rest) s = exec (p2pCtrlIfaceSetOpps env.delivering (some station) rest) s := by
  have hlow : 13 ≤ (ascii "p2p_set_opps " ++ rest).length := by
    rw [List.length_append]
    exact Nat.le_add_right ..
  rw [oppsCmd, driverCmd_of_dispatch (ready_delivering.mpr hstation.ready)
    (dispatch_setOpps hstation.compiled), runBranch, exec_bind_cstringAt hlow]
  rfl

/-- Arguments that pass the parser come to be sent. -/
theorem exec_oppsCmd_of_parses (hstation : SigmaStation env drv station)
    (h : setOppsParses env rest = true) (s : CmdState) :
    exec (oppsCmd env rest) s =
      exec (wpasP2pSigmaTestMode env.delivering (some station) 107 (atoi rest) >>=
        fun _ => pure (0 : Int)) s := by
  have hparses : setOppsParses env.delivering rest = true := h
  rw [exec_oppsCmd hstation, exec_setOpps hparses]

/-- Arguments are refused where the first space is followed by something else than an address. -/
theorem refuses_oppsCmd_iff (hstation : SigmaStation env drv station) (hmac : ReadsMac env) :
    Refuses (oppsCmd env rest) ↔
      ∃ field str, (32 : Byte) ∉ field ∧ rest = field ++ 32 :: str ∧ startsWithMac str = false := by
  cases hspace : strchr rest 32 with
  | none =>
    apply iff_of_false
    · apply not_refuses_of_fault
      intro s
      rw [exec_oppsCmd hstation, p2pCtrlIfaceSetOpps,
        exec_bind_of_error (exec_afterSpace_none hspace)]
    · rintro ⟨field, str, hfield, hrest, -⟩
      rw [strchr_eq_some_iff.mpr ⟨hfield, hrest⟩] at hspace
      cases hspace
  | some parts =>
    obtain ⟨field, str⟩ := parts
    have hcut := strchr_eq_some_iff.mp hspace
    have haton := hmac str
    cases hstarts : startsWithMac str with
    | false =>
      rw [hstarts, Option.isSome_eq_false_iff, Option.isNone_iff_eq_none] at haton
      refine iff_of_true (fun s => ⟨s, ?_, rfl⟩) ⟨field, str, hcut.1, hcut.2, hstarts⟩
      have haton' : env.delivering.hwaddrAton str = none := haton
      rw [exec_oppsCmd hstation, p2pCtrlIfaceSetOpps, exec_bind_of_ok (exec_afterSpace hspace)]
      simp only [haton', exec_pure]
    | true =>
      rw [hstarts] at haton
      apply iff_of_false
      · cases hssid : strchr str 32 with
        | none =>
          obtain ⟨addr, haddr⟩ := Option.isSome_iff_exists.mp haton
          have haddr' : env.delivering.hwaddrAton str = some addr := haddr
          apply not_refuses_of_fault
          intro s
          rw [exec_oppsCmd hstation, p2pCtrlIfaceSetOpps, exec_bind_of_ok (exec_afterSpace hspace)]
          simp only [haddr']
          rw [exec_bind_of_error (exec_afterSpace_none hssid)]
        | some ssid =>
          have hparses : setOppsParses env rest = true := by
            simp only [setOppsParses, hspace, haton, hssid, Option.isSome_some, Bool.and_self]
          exact not_refuses_of_sigma (exec_oppsCmd_of_parses hstation hparses)
      · rintro ⟨field', str', hfield, hrest, hno⟩
        rw [strchr_eq_some_iff.mpr ⟨hfield, hrest⟩] at hspace
        obtain ⟨rfl, rfl⟩ := Prod.mk.inj (Option.some.inj hspace)
        rw [hstarts] at hno
        cases hno

/-- Arguments in shape are sent with their integer if the driver handle is set. -/
theorem OppsShape.sendsOne_iff (hstation : SigmaStation env drv station) (hmac : ReadsMac env)
    (h : OppsShape field rest) :
    SendsOne (oppsCmd env rest) (.p2pSigma 107 (BitVec.ofInt 32 (atoi field))) ↔
      station.drvPriv = true := by
  obtain ⟨hinteger, mac, ssid, hmacText, rfl⟩ := h
  obtain ⟨hspace, b, t, rfl, hb⟩ := hinteger.no_space
  have hcut : strchr (b :: t ++ 32 :: (mac ++ 32 :: ssid)) 32 = some (b :: t, mac ++ 32 :: ssid) :=
    strchr_eq_some_iff.mpr ⟨hspace, rfl⟩
  have hparses : setOppsParses env (b :: t ++ 32 :: (mac ++ 32 :: ssid)) = true := by
    simp only [setOppsParses, hcut, hmac (mac ++ 32 :: ssid), startsWithMac_append hmacText,
      strchr_behind_mac, Bool.and_self]
  rw [← atoi_append hb]
  exact sendsOne_sigma_iff (exec_oppsCmd_of_parses hstation hparses)

/-! ## `p2p_set_sleep` -/

theorem exec_sleepCmd (hstation : SigmaStation env drv station) {s : CmdState} :
    exec (sleepCmd env rest) s =
      exec (p2pCtrlIfaceSetSleep env.delivering (some station) rest) s := by
  have hlow : 14 ≤ (ascii "p2p_set_sleep " ++ rest).length := by
    rw [List.length_append]
    exact Nat.le_add_right ..
  rw [sleepCmd, driverCmd_of_dispatch (ready_delivering.mpr hstation.ready)
    (dispatch_setSleep hstation.compiled), runBranch, exec_bind_cstringAt hlow]
  rfl

theorem exec_sleepCmd_of_parses (hstation : SigmaStation env drv station)
    (h : setSleepParses env rest = true) (s : CmdState) :
    exec (sleepCmd env rest) s =
      exec (wpasP2pSigmaTestMode env.delivering (some station) 106 0 >>= fun _ => pure (0 : Int))
        s := by
  have hparses : setSleepParses env.delivering rest = true := h
  rw [exec_sleepCmd hstation, exec_setSleep hparses]

/-- Arguments are refused that do not start with an address. -/
theorem refuses_sleepCmd_iff (hstation : SigmaStation env drv station) (hmac : ReadsMac env) :
    Refuses (sleepCmd env rest) ↔ startsWithMac rest = false := by
  have haton := hmac rest
  cases hstarts : startsWithMac rest with
  | false =>
    rw [hstarts, Option.isSome_eq_false_iff, Option.isNone_iff_eq_none] at haton
    refine iff_of_true (fun s => ⟨s, ?_, rfl⟩) rfl
    have haton' : env.delivering.hwaddrAton rest = none := haton
    rw [exec_sleepCmd hstation]
    simp only [p2pCtrlIfaceSetSleep, haton', exec_pure]
  | true =>
    rw [hstarts] at haton
    refine iff_of_false ?_ Bool.noConfusion
    cases hssid : strchr rest 32 with
    | none =>
      obtain ⟨addr, haddr⟩ := Option.isSome_iff_exists.mp haton
      have haddr' : env.delivering.hwaddrAton rest = some addr := haddr
      apply not_refuses_of_fault
      intro s
      rw [exec_sleepCmd hstation]
      simp only [p2pCtrlIfaceSetSleep, haddr']
      rw [exec_bind_of_error (exec_afterSpace_none hssid)]
    | some ssid =>
      have hparses : setSleepParses env rest = true := by
        simp only [setSleepParses, haton, hssid, Option.isSome_some, Bool.and_self]
      exact not_refuses_of_sigma (exec_sleepCmd_of_parses hstation hparses)

theorem SleepShape.sendsOne_iff (hstation : SigmaStation env drv station) (hmac : ReadsMac env)
    (h : SleepShape rest) :
    SendsOne (sleepCmd env rest) (.p2pSigma 106 0) ↔ station.drvPriv = true := by
  obtain ⟨mac, ssid, hmacText, rfl⟩ := h
  have hparses : setSleepParses env (mac ++ 32 :: ssid) = true := by
    simp only [setSleepParses, hmac (mac ++ 32 :: ssid), startsWithMac_append hmacText,
      strchr_behind_mac, Bool.and_self]
  exact sendsOne_sigma_iff (exec_sleepCmd_of_parses hstation hparses)

/-! ## Both commands -/

/-- Arguments are parsed or refused exactly where they are in shape and there is a driver handle,
    or where the address is missing although the space before it is not. -/
theorem sigma_arguments_parsed_iff (hstation : SigmaStation env drv station)
    (hmac : ReadsMac env) :
    (OppsParsed env rest ↔ (station.drvPriv = true ∧ ∃ field, OppsShape field rest) ∨
        ∃ field str, (32 : Byte) ∉ field ∧ rest = field ++ 32 :: str ∧ startsWithMac str = false) ∧
      (SleepParsed env rest ↔
        (station.drvPriv = true ∧ SleepShape rest) ∨ startsWithMac rest = false) := by
  constructor
  · rw [OppsParsed, refuses_oppsCmd_iff hstation hmac]
    refine or_congr_left ⟨?_, ?_⟩
    · rintro ⟨field, hshape, hsends⟩
      exact ⟨(hshape.sendsOne_iff hstation hmac).mp hsends, field, hshape⟩
    · rintro ⟨hpriv, field, hshape⟩
      exact ⟨field, hshape, (hshape.sendsOne_iff hstation hmac).mpr hpriv⟩
  · rw [SleepParsed, refuses_sleepCmd_iff hstation hmac]
    refine or_congr_left ⟨?_, ?_⟩
    · rintro ⟨hshape, hsends⟩
      exact ⟨(hshape.sendsOne_iff hstation hmac).mp hsends, hshape⟩
    · rintro ⟨hpriv, hshape⟩
      exact ⟨hshape, (hshape.sendsOne_iff hstation hmac).mpr hpriv⟩

/-- The address a text starts with, as `hwaddr_aton` reads it. -/
def readMac (s : Text) : Option Addr :=
  let digit (i : Nat) : Nat := (digitOf (s[i]?.getD 0)).getD 0
  if startsWithMac s then
    some (Vector.ofFn fun i => BitVec.ofNat 8 (16 * digit (3 * i) + digit (3 * i + 1)))
  else none

/-- An idle station that runs the P2P test commands. -/
def Env.sigma : Env :=
  { Env.idle with features := { (default : Features) with p2pSigma := true }, hwaddrAton := readMac }

/-- The station of `Env.idle`. -/
def idleStation : Station := ⟨Vector.replicate 6 0, true, true⟩

theorem sigmaStation_idle : SigmaStation .sigma ⟨some idleStation, false⟩ idleStation :=
  ⟨⟨rfl, ⟨_, rfl, (if_neg (by decide)).symm⟩, rfl⟩, rfl⟩

theorem readsMac_sigma : ReadsMac .sigma := by
  intro s
  simp only [Env.sigma, readMac]
  cases startsWithMac s <;> rfl

/-- Arguments in full shape are parsed by both commands. -/
theorem sigma_arguments_parsed_shaped :
    OppsParsed .sigma (ascii "10 02:0c:43:2a:00:ff net") ∧
      SleepParsed .sigma (ascii "02:0c:43:2a:00:ff net") := by
  have hmac : IsMac (ascii "02:0c:43:2a:00:ff") := ⟨rfl, by decide⟩
  have hinteger : IsInteger (ascii "10") :=
    ⟨[], ascii "10", List.mem_cons_self .., by decide, by decide, rfl⟩
  have hopps : OppsShape (ascii "10") (ascii "10 02:0c:43:2a:00:ff net") :=
    ⟨hinteger, _, ascii "net", hmac, by decide⟩
  have hsleep : SleepShape (ascii "02:0c:43:2a:00:ff net") := ⟨_, ascii "net", hmac, by decide⟩
  constructor
  · exact (sigma_arguments_parsed_iff sigmaStation_idle readsMac_sigma).1.mpr (.inl ⟨rfl, _, hopps⟩)
  · exact (sigma_arguments_parsed_iff sigmaStation_idle readsMac_sigma).2.mpr (.inl ⟨rfl, hsleep⟩)

/-- `p2p_set_opps 10` follows the space that is not there. -/
theorem opps_without_address : ¬OppsParsed .sigma (ascii "10") := by
  have hfault : exec (oppsCmd .sigma (ascii "10")) (.start 0 []) =
      (.error .nullPointer, .start 0 []) := rfl
  rintro (⟨field, ⟨-, mac, ssid, -, hrest⟩, -⟩ | hrefuses)
  · have hspace : (32 : Byte) ∈ ascii "10" := by
      rw [hrest]
      exact List.mem_append_right _ (List.mem_cons_self ..)
    exact absurd hspace (by decide)
  · obtain ⟨t, hfails, -⟩ := hrefuses (.start 0 [])
    rw [hfault] at hfails
    cases hfails

end Wpa
