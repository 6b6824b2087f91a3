-- SUMMARY: The request and unsolicited codes of the RIL class, and the decoders its two big switches give them.
import Mathlib.Data.List.Nodup
import Mathlib.Logic.Function.Basic
import GioneeP4.Ril.Java

/-!
# Codes and decoders

The codes of MediaTek are literals of the class; those of AOSP come from
`RILConstants`, of which the class needs that its `case` labels are distinct and
below the ranges of MediaTek. Both decoder switches are tables in source order.
-/

namespace Ril

/-! ## Requests -/

/-- The AOSP requests named in the switch of `processSolicited`. -/
inductive AospRequest
  | getSimStatus | enterSimPin | enterSimPuk | enterSimPin2 | enterSimPuk2 | changeSimPin
  | changeSimPin2 | enterDepersonalizationCode | getCurrentCalls | dial | getImsi | hangup
  | hangupWaitingOrBackground | hangupForegroundResumeBackground | switchWaitingOrHoldingAndActive
  | conference | udub | lastCallFailCause | signalStrength | voiceRegistrationState
  | dataRegistrationState | operator | radioPower | dtmf | sendSms | sendSmsExpectMore
  | setupDataCall | simIo | sendUssd | cancelUssd | getClir | setClir | queryCallForwardStatus
  | setCallForward | queryCallWaiting | setCallWaiting | smsAcknowledge | getImei | getImeisv
  | answer | deactivateDataCall | queryFacilityLock | setFacilityLock | changeBarringPassword
  | queryNetworkSelectionMode | setNetworkSelectionAutomatic | setNetworkSelectionManual
  | queryAvailableNetworks | dtmfStart | dtmfStop | basebandVersion | separateConnection | setMute
  | getMute | queryClip | lastDataCallFailCause | dataCallList | resetRadio | oemHookRaw
  | oemHookStrings | screenState | setSuppSvcNotification | writeSmsToSim | deleteSmsOnSim
  | setBandMode | queryAvailableBandMode | stkGetProfile | stkSetProfile | stkSendEnvelopeCommand
  | stkSendTerminalResponse | stkHandleCallSetupRequestedFromSim | explicitCallTransfer
  | setPreferredNetworkType | getPreferredNetworkType | getNeighboringCellIds | setLocationUpdates
  | cdmaSetSubscriptionSource | cdmaSetRoamingPreference | cdmaQueryRoamingPreference | setTtyMode
  | queryTtyMode | cdmaSetPreferredVoicePrivacyMode | cdmaQueryPreferredVoicePrivacyMode
  | cdmaFlash | cdmaBurstDtmf | cdmaSendSms | cdmaSmsAcknowledge | gsmGetBroadcastConfig
  | gsmSetBroadcastConfig | gsmBroadcastActivation | cdmaGetBroadcastConfig
  | cdmaSetBroadcastConfig | cdmaBroadcastActivation | cdmaValidateAndWriteAkey | cdmaSubscription
  | cdmaWriteSmsToRuim | cdmaDeleteSmsOnRuim | deviceIdentity | getSmscAddress | setSmscAddress
  | exitEmergencyCallbackMode | reportSmsMemoryStatus | reportStkServiceIsRunning | voiceRadioTech
  deriving DecidableEq

/-- The AOSP constants the class imports. -/
structure RILConstants where
  request : AospRequest → JInt
  unsolResponseRadioStateChanged : JInt
  unsolResponseCallStateChanged : JInt
  unsolResponseVoiceNetworkStateChanged : JInt
  unsolResponseSimStatusChanged : JInt
  /-- The labels of one switch are distinct, from each other and from its literal labels. -/
  request_injective : Function.Injective request
  request_ne_literal : ∀ r, request r ∉ [104#32, 105#32, 106#32, 107#32]
  /-- AOSP numbers its requests well below 220, the `GET_MODEM_VERSION` code of one device. -/
  request_lt : ∀ r, (request r).toNat < 220
  /-- The only AOSP label of the unsolicited switch lies below MediaTek's range. -/
  radioStateChanged_lt : unsolResponseRadioStateChanged.toNat < 3000
  radioStateChanged_ne_zero : unsolResponseRadioStateChanged ≠ 0

/-- The number AOSP gives a request: the switch lists them in order, all but the last. -/
def aospNumber : AospRequest → Nat
  | .voiceRadioTech => 108
  | r => r.ctorIdx + 1

theorem aospNumber_cases (r : AospRequest) :
    (r = .voiceRadioTech ∧ aospNumber r = 108) ∨ (aospNumber r = r.ctorIdx + 1 ∧ r.ctorIdx < 103) := by
  cases r <;> decide

theorem aospNumber_injective : Function.Injective aospNumber := by
  intro r₁ r₂ h
  rcases aospNumber_cases r₁ with ⟨rfl, h₁⟩ | ⟨h₁, hlt₁⟩ <;>
    rcases aospNumber_cases r₂ with ⟨rfl, h₂⟩ | ⟨h₂, hlt₂⟩
  · rfl
  · omega
  · omega
  · have hidx : r₁.ctorIdx = r₂.ctorIdx := by omega
    rw [← AospRequest.ofNat_ctorIdx r₁, hidx, AospRequest.ofNat_ctorIdx]

theorem toNat_aospNumber {r : AospRequest} : (BitVec.ofNat 32 (aospNumber r)).toNat = aospNumber r := by
  have hcases := aospNumber_cases r
  simp only [BitVec.toNat_ofNat]
  omega

/-- The constants of AOSP. -/
def aosp : RILConstants where
  request r := BitVec.ofNat 32 (aospNumber r)
  unsolResponseRadioStateChanged := 1000
  unsolResponseCallStateChanged := 1001
  unsolResponseVoiceNetworkStateChanged := 1002
  unsolResponseSimStatusChanged := 1019
  request_injective := by
    intro r₁ r₂ h
    have hnat := congrArg BitVec.toNat h
    simp only [toNat_aospNumber] at hnat
    exact aospNumber_injective hnat
  request_ne_literal r h := by
    have hcases := aospNumber_cases r
    simp only [List.mem_cons, List.not_mem_nil, or_false] at h
    have hnat := toNat_aospNumber (r := r)
    rcases h with h | h | h | h <;> rw [h] at hnat <;> simp at hnat <;> omega
  request_lt r := by
    have hcases := aospNumber_cases r
    rw [toNat_aospNumber]
    omega
  radioStateChanged_lt := by decide
  radioStateChanged_ne_zero := by decide

def rilRequestMtkBase : JInt := 2000

def rilRequestDualSimModeSwitch : JInt := rilRequestMtkBase + 12

def rilRequestSetGprsConnectType : JInt := rilRequestMtkBase + 16

def rilRequestSetGprsTransferType : JInt := rilRequestMtkBase + 17

def rilRequestSetCallIndication : JInt := rilRequestMtkBase + 36

/-! ## Decoders -/

/-- The functions that decode a response, inherited or overridden. -/
inductive Decoder
  | responseIccCardStatus | responseInts | responseCallList | responseVoid | responseString
  | responseSignalStrength | responseStrings | responseOperator | responseSMS
  | responseSetupDataCall | responseIccIo | responseCallForward | responseOperatorInfos
  | responseDataCallList | responseRaw | responseGetPreferredNetworkType | responseCellList
  | responseGmsBroadcastConfig | responseCdmaBroadcastConfig | responseCrssNotification
  | responseEtwsNotification
  deriving DecidableEq

/-- A `case` label of the switch of `processSolicited`. -/
inductive RequestLabel
  | aosp (request : AospRequest)
  | literal (code : Nat)
  deriving DecidableEq

def RequestLabel.code (c : RILConstants) : RequestLabel → JInt
  | .aosp request => c.request request
  | .literal code => BitVec.ofNat 32 code

/-- The switch of `processSolicited`, in source order. -/
def solicitedCases : List (RequestLabel × Decoder) :=
  [(.aosp .getSimStatus, .responseIccCardStatus), (.aosp .enterSimPin, .responseInts),
    (.aosp .enterSimPuk, .responseInts), (.aosp .enterSimPin2, .responseInts),
    (.aosp .enterSimPuk2, .responseInts), (.aosp .changeSimPin, .responseInts),
    (.aosp .changeSimPin2, .responseInts), (.aosp .enterDepersonalizationCode, .responseInts),
    (.aosp .getCurrentCalls, .responseCallList), (.aosp .dial, .responseVoid),
    (.aosp .getImsi, .responseString), (.aosp .hangup, .responseVoid),
    (.aosp .hangupWaitingOrBackground, .responseVoid),
    (.aosp .hangupForegroundResumeBackground, .responseVoid),
    (.aosp .switchWaitingOrHoldingAndActive, .responseVoid), (.aosp .conference, .responseVoid),
    (.aosp .udub, .responseVoid), (.aosp .lastCallFailCause, .responseInts),
    (.aosp .signalStrength, .responseSignalStrength),
    (.aosp .voiceRegistrationState, .responseStrings),
    (.aosp .dataRegistrationState, .responseStrings), (.aosp .operator, .responseOperator),
    (.aosp .radioPower, .responseVoid), (.aosp .dtmf, .responseVoid),
    (.aosp .sendSms, .responseSMS), (.aosp .sendSmsExpectMore, .responseSMS),
    (.aosp .setupDataCall, .responseSetupDataCall), (.aosp .simIo, .responseIccIo),
    (.aosp .sendUssd, .responseVoid), (.aosp .cancelUssd, .responseVoid),
    (.aosp .getClir, .responseInts), (.aosp .setClir, .responseVoid),
    (.aosp .queryCallForwardStatus, .responseCallForward),
    (.aosp .setCallForward, .responseVoid), (.aosp .queryCallWaiting, .responseInts),
    (.aosp .setCallWaiting, .responseVoid), (.aosp .smsAcknowledge, .responseVoid),
    (.aosp .getImei, .responseString), (.aosp .getImeisv, .responseString),
    (.aosp .answer, .responseVoid), (.aosp .deactivateDataCall, .responseVoid),
    (.aosp .queryFacilityLock, .responseInts), (.aosp .setFacilityLock, .responseInts),
    (.aosp .changeBarringPassword, .responseVoid),
    (.aosp .queryNetworkSelectionMode, .responseInts),
    (.aosp .setNetworkSelectionAutomatic, .responseVoid),
    (.aosp .setNetworkSelectionManual, .responseVoid),
    (.aosp .queryAvailableNetworks, .responseOperatorInfos), (.aosp .dtmfStart, .responseVoid),
    (.aosp .dtmfStop, .responseVoid), (.aosp .basebandVersion, .responseString),
    (.aosp .separateConnection, .responseVoid), (.aosp .setMute, .responseVoid),
    (.aosp .getMute, .responseInts), (.aosp .queryClip, .responseInts),
    (.aosp .lastDataCallFailCause, .responseInts), (.aosp .dataCallList, .responseDataCallList),
    (.aosp .resetRadio, .responseVoid), (.aosp .oemHookRaw, .responseRaw),
    (.aosp .oemHookStrings, .responseStrings), (.aosp .screenState, .responseVoid),
    (.aosp .setSuppSvcNotification, .responseVoid), (.aosp .writeSmsToSim, .responseInts),
    (.aosp .deleteSmsOnSim, .responseVoid), (.aosp .setBandMode, .responseVoid),
    (.aosp .queryAvailableBandMode, .responseInts), (.aosp .stkGetProfile, .responseString),
    (.aosp .stkSetProfile, .responseVoid), (.aosp .stkSendEnvelopeCommand, .responseString),
    (.aosp .stkSendTerminalResponse, .responseVoid),
    (.aosp .stkHandleCallSetupRequestedFromSim, .responseInts),
    (.aosp .explicitCallTransfer, .responseVoid),
    (.aosp .setPreferredNetworkType, .responseVoid),
    (.aosp .getPreferredNetworkType, .responseGetPreferredNetworkType),
    (.aosp .getNeighboringCellIds, .responseCellList),
    (.aosp .setLocationUpdates, .responseVoid),
    (.aosp .cdmaSetSubscriptionSource, .responseVoid),
    (.aosp .cdmaSetRoamingPreference, .responseVoid),
    (.aosp .cdmaQueryRoamingPreference, .responseInts), (.aosp .setTtyMode, .responseVoid),
    (.aosp .queryTtyMode, .responseInts),
    (.aosp .cdmaSetPreferredVoicePrivacyMode, .responseVoid),
    (.aosp .cdmaQueryPreferredVoicePrivacyMode, .responseInts),
    (.aosp .cdmaFlash, .responseVoid), (.aosp .cdmaBurstDtmf, .responseVoid),
    (.aosp .cdmaSendSms, .responseSMS), (.aosp .cdmaSmsAcknowledge, .responseVoid),
    (.aosp .gsmGetBroadcastConfig, .responseGmsBroadcastConfig),
    (.aosp .gsmSetBroadcastConfig, .responseVoid),
    (.aosp .gsmBroadcastActivation, .responseVoid),
    (.aosp .cdmaGetBroadcastConfig, .responseCdmaBroadcastConfig),
    (.aosp .cdmaSetBroadcastConfig, .responseVoid),
    (.aosp .cdmaBroadcastActivation, .responseVoid),
    (.aosp .cdmaValidateAndWriteAkey, .responseVoid),
    (.aosp .cdmaSubscription, .responseStrings), (.aosp .cdmaWriteSmsToRuim, .responseInts),
    (.aosp .cdmaDeleteSmsOnRuim, .responseVoid), (.aosp .deviceIdentity, .responseStrings),
    (.aosp .getSmscAddress, .responseString), (.aosp .setSmscAddress, .responseVoid),
    (.aosp .exitEmergencyCallbackMode, .responseVoid),
    (.aosp .reportSmsMemoryStatus, .responseVoid),
    (.aosp .reportStkServiceIsRunning, .responseVoid), (.literal 104, .responseInts),
    (.literal 105, .responseInts), (.literal 106, .responseStrings),
    (.literal 107, .responseInts), (.aosp .voiceRadioTech, .responseInts)]

/-- The decoder of a request code; `none` is the `default` of the switch, which throws. -/
def decoderOf (c : RILConstants) (code : JInt) : Option Decoder :=
  (solicitedCases.find? fun entry => entry.1.code c = code).map Prod.snd

/-- The labels of the switch are those of AOSP and four literals. -/
theorem label_mem {label : RequestLabel} {d : Decoder} (h : (label, d) ∈ solicitedCases) :
    (∃ r, label = .aosp r) ∨ ∃ n ∈ [104, 105, 106, 107], label = .literal n := by
  cases label with
  | aosp r => exact .inl ⟨r, rfl⟩
  | literal n =>
    simp only [solicitedCases, List.mem_cons, Prod.mk.injEq, reduceCtorEq, false_and, false_or,
      RequestLabel.literal.injEq, List.not_mem_nil, or_false] at h
    rcases h with ⟨rfl, -⟩ | ⟨rfl, -⟩ | ⟨rfl, -⟩ | ⟨rfl, -⟩ <;>
      exact .inr ⟨_, by decide, rfl⟩

/-- Distinct labels of the switch have distinct codes. -/
theorem code_injOn {c : RILConstants} {l₁ l₂ : RequestLabel} {d₁ d₂ : Decoder}
    (h₁ : (l₁, d₁) ∈ solicitedCases) (h₂ : (l₂, d₂) ∈ solicitedCases)
    (h : l₁.code c = l₂.code c) : l₁ = l₂ := by
  have hlit : ∀ r, ∀ n ∈ [104, 105, 106, 107], c.request r ≠ BitVec.ofNat 32 n := by
    intro r n hn heq
    exact c.request_ne_literal r (heq ▸ List.mem_map_of_mem (f := BitVec.ofNat 32) hn)
  rcases label_mem h₁ with ⟨r₁, rfl⟩ | ⟨n₁, hn₁, rfl⟩ <;>
    rcases label_mem h₂ with ⟨r₂, rfl⟩ | ⟨n₂, hn₂, rfl⟩
  · exact congrArg RequestLabel.aosp (c.request_injective h)
  · exact absurd h (hlit r₁ n₂ hn₂)
  · exact absurd h.symm (hlit r₂ n₁ hn₁)
  · have hinj : ∀ n ∈ [104, 105, 106, 107], ∀ m ∈ [104, 105, 106, 107],
        BitVec.ofNat 32 n = BitVec.ofNat 32 m → n = m := by decide
    exact congrArg RequestLabel.literal (hinj n₁ hn₁ n₂ hn₂ h)

/-- Every label stands in the switch once. -/
theorem solicitedCases_nodupKeys : (solicitedCases.map Prod.fst).Nodup := by decide +kernel

/-- Searching a list by a key that tells its elements apart finds the element with that key. -/
theorem find?_key {α κ : Type*} [DecidableEq κ] {key : α → κ} {l : List α} {r : α}
    (hinj : ∀ x ∈ l, key x = key r → x = r) (hr : r ∈ l) :
    (l.find? fun x => key x = key r) = some r := by
  cases hfind : l.find? fun x => key x = key r with
  | none => exact absurd (List.find?_eq_none.mp hfind r hr) (by simp)
  | some x =>
    have hkey : key x = key r := by simpa using List.find?_some (p := fun x => key x = key r) hfind
    rw [hinj x (List.mem_of_find?_eq_some hfind) hkey]

/-- A code with a label gets the decoder the switch lists for it. -/
theorem decoderOf_code {c : RILConstants} {label : RequestLabel} {d : Decoder}
    (h : (label, d) ∈ solicitedCases) : decoderOf c (label.code c) = some d := by
  have hfind : (solicitedCases.find? fun entry => entry.1.code c = label.code c) = some (label, d) := by
    apply @find?_key _ _ _ (fun entry : RequestLabel × Decoder => entry.1.code c) _ _ _ h
    intro entry hentry hcode
    exact List.inj_on_of_nodup_map solicitedCases_nodupKeys hentry h (code_injOn hentry h hcode)
  rw [decoderOf, hfind]
  rfl

/-- A code at or above 220 runs into the `default` of the switch. -/
theorem decoderOf_eq_none {c : RILConstants} {code : JInt} (h : 220 ≤ code.toNat) :
    decoderOf c code = none := by
  rw [decoderOf, Option.map_eq_none_iff, List.find?_eq_none]
  rintro ⟨label, d⟩ hmem
  simp only [decide_eq_true_eq]
  rintro rfl
  rcases label_mem hmem with ⟨r, rfl⟩ | ⟨n, hn, rfl⟩
  · exact absurd (c.request_lt r) (by simpa [RequestLabel.code] using h)
  · have hlow : ∀ n ∈ [104, 105, 106, 107], (BitVec.ofNat 32 n).toNat < 220 := by decide
    exact absurd (hlow n hn) (by simpa [RequestLabel.code] using h)

/-! ## Unsolicited responses -/

/-- The labels of the first switch of `processUnsolicited`, in source order. -/
inductive UnsolLabel
  | neighboringCellInfo | networkInfo | callForwarding | crssNotification | callProgressInfo
  | phbReadyNotification | simInsertedStatus | simMissing | simRecovery | virtualSimOn
  | virtualSimOff | speechInfo | radioTemporarilyUnavailable | meSmsStorageFull
  | smsReadyNotification | vtStatusInfo | vtRingInfo | scriResult | gprsDetach
  | incomingCallIndication | efCspPlmnModeBit | responsePsNetworkStateChanged | invalidSim
  | responseAcmt | imeiLock | responseMmrrStatusChanged | simPlugOut | simPlugIn
  | responseEtwsNotification | cnap | stkEvdlCall | responseRadioStateChanged
  deriving DecidableEq

namespace UnsolLabel

def all : List UnsolLabel :=
  [.neighboringCellInfo, .networkInfo, .callForwarding, .crssNotification, .callProgressInfo,
    .phbReadyNotification, .simInsertedStatus, .simMissing, .simRecovery, .virtualSimOn,
    .virtualSimOff, .speechInfo, .radioTemporarilyUnavailable, .meSmsStorageFull,
    .smsReadyNotification, .vtStatusInfo, .vtRingInfo, .scriResult, .gprsDetach,
    .incomingCallIndication, .efCspPlmnModeBit, .responsePsNetworkStateChanged, .invalidSim,
    .responseAcmt, .imeiLock, .responseMmrrStatusChanged, .simPlugOut, .simPlugIn,
    .responseEtwsNotification, .cnap, .stkEvdlCall, .responseRadioStateChanged]

def rilUnsolMtkBase : JInt := 3000

/-- The offset of a code of MediaTek from `RIL_UNSOL_MTK_BASE`. -/
def mtkOffset : UnsolLabel → Option Nat
  | .neighboringCellInfo => some 0
  | .networkInfo => some 1
  | .callForwarding => some 2
  | .crssNotification => some 3
  | .callProgressInfo => some 4
  | .phbReadyNotification => some 5
  | .simInsertedStatus => some 7
  | .simMissing => some 15
  | .simRecovery => some 18
  | .virtualSimOn => some 19
  | .virtualSimOff => some 20
  | .speechInfo => some 6
  | .radioTemporarilyUnavailable => some 8
  | .meSmsStorageFull => some 9
  | .smsReadyNotification => some 10
  | .vtStatusInfo => some 12
  | .vtRingInfo => some 13
  | .scriResult => some 11
  | .gprsDetach => some 16
  | .incomingCallIndication => some 14
  | .efCspPlmnModeBit => some 24
  | .responsePsNetworkStateChanged => some 22
  | .invalidSim => some 21
  | .responseAcmt => some 23
  | .imeiLock => some 25
  | .responseMmrrStatusChanged => some 26
  | .simPlugOut => some 27
  | .simPlugIn => some 28
  | .responseEtwsNotification => some 29
  | .cnap => some 30
  | .stkEvdlCall => some 31
  | .responseRadioStateChanged => none

def code (c : RILConstants) (label : UnsolLabel) : JInt :=
  match label.mtkOffset with
  | some n => rilUnsolMtkBase + BitVec.ofNat 32 n
  | none => c.unsolResponseRadioStateChanged

/-- The decoder the first switch calls. -/
def decoder : UnsolLabel → Decoder
  | .neighboringCellInfo | .networkInfo | .callProgressInfo | .incomingCallIndication
  | .invalidSim | .cnap => .responseStrings
  | .callForwarding | .simInsertedStatus | .simMissing | .simRecovery | .virtualSimOn
  | .virtualSimOff | .speechInfo | .radioTemporarilyUnavailable | .vtStatusInfo | .scriResult
  | .efCspPlmnModeBit | .responseAcmt | .responseMmrrStatusChanged | .simPlugOut | .simPlugIn
  | .stkEvdlCall => .responseInts
  | .crssNotification => .responseCrssNotification
  | .phbReadyNotification | .meSmsStorageFull | .smsReadyNotification | .vtRingInfo | .gprsDetach
  | .responsePsNetworkStateChanged | .imeiLock | .responseRadioStateChanged => .responseVoid
  | .responseEtwsNotification => .responseEtwsNotification

end UnsolLabel

/-- The label of the first switch that matches a response code, `none` for `default`. -/
def unsolLabelOf (c : RILConstants) (response : JInt) : Option UnsolLabel :=
  UnsolLabel.all.find? fun label => label.code c = response

namespace UnsolLabel

theorem mem_all (label : UnsolLabel) : label ∈ all := by cases label <;> decide

theorem mtkOffset_lt {label : UnsolLabel} {n : Nat} (h : label.mtkOffset = some n) : n < 32 := by
  cases label <;> cases h <;> decide

/-- The value of a label's code. -/
theorem toNat_code {c : RILConstants} {label : UnsolLabel} {n : Nat}
    (h : label.mtkOffset = some n) : (label.code c).toNat = 3000 + n := by
  have hlt := mtkOffset_lt h
  have hbase : rilUnsolMtkBase.toNat = 3000 := rfl
  simp only [code, h, BitVec.toNat_add, BitVec.toNat_ofNat, hbase]
  omega

theorem code_injective {c : RILConstants} : Function.Injective (code c) := by
  have hoffset : ∀ l₁ ∈ all, ∀ l₂ ∈ all, l₁.mtkOffset = l₂.mtkOffset → l₁ = l₂ := by decide
  intro l₁ l₂ hcode
  apply hoffset _ l₁.mem_all _ l₂.mem_all
  have hlow := c.radioStateChanged_lt
  cases h₁ : l₁.mtkOffset with
  | none =>
    cases h₂ : l₂.mtkOffset with
    | none => rfl
    | some n₂ =>
      have hnat := toNat_code (c := c) h₂
      rw [← hcode, code, h₁] at hnat
      simp only at hnat
      omega
  | some n₁ =>
    have hnat := toNat_code (c := c) h₁
    cases h₂ : l₂.mtkOffset with
    | none =>
      rw [hcode, code, h₂] at hnat
      simp only at hnat
      omega
    | some n₂ =>
      rw [hcode, toNat_code h₂] at hnat
      congr 1
      omega

theorem code_ne_zero {c : RILConstants} {label : UnsolLabel} : label.code c ≠ 0 := by
  cases h : label.mtkOffset with
  | none =>
    rw [code, h]
    exact c.radioStateChanged_ne_zero
  | some n =>
    intro hzero
    have hnat := toNat_code (c := c) h
    rw [hzero] at hnat
    simp at hnat
    omega

end UnsolLabel

/-- A response matches a label exactly when it is the label's code. -/
theorem unsolLabelOf_eq_some_iff {c : RILConstants} {response : JInt} {label : UnsolLabel} :
    unsolLabelOf c response = some label ↔ label.code c = response := by
  constructor
  · intro h
    simpa using List.find?_some (p := fun l : UnsolLabel => l.code c = response) h
  · rintro rfl
    exact find?_key (fun other _ hcode => UnsolLabel.code_injective hcode) label.mem_all

end Ril
