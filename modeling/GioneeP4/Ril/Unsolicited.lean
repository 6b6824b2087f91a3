-- SUMMARY: Unsolicited responses: processUnsolicited, which parcels it survives, and the rewrite of MediaTek's codes to AOSP's.
import GioneeP4.Ril.Solicited

/-!
# Unsolicited responses

An unsolicited parcel is decoded, may cause requests, and is handed to the
superclass with its code rewritten in place. Whatever a decoder, a cast or a
number throws on the way escapes to the caller.
-/

namespace Ril

open Prog RilM Words

variable (env : Env)

/-! ## The source -/

/-- The second switch of `processUnsolicited`: the code to rewrite to, if any. -/
def rewriteUnsolicited (label : UnsolLabel) (ret : Obj) (p : Parcel) : RilM (Option JInt) := do
  match label with
  | .callProgressInfo => return some env.constants.unsolResponseCallStateChanged
  | .incomingCallIndication =>
      setCallIndication env (← ret.toStringArray)
      return some env.constants.unsolResponseCallStateChanged
  | .responsePsNetworkStateChanged =>
      return some env.constants.unsolResponseVoiceNetworkStateChanged
  | .simInsertedStatus | .simMissing | .simPlugOut | .simPlugIn =>
      return some env.constants.unsolResponseSimStatusChanged
  | .smsReadyNotification => return none
  | .responseRadioStateChanged =>
      -- intercept and send GPRS_TRANSFER_TYPE and GPRS_CONNECT_TYPE to RIL
      setRadioStateFromRILInt env p.readInt.1
      return some env.constants.unsolResponseRadioStateChanged
  | _ => return none

def processUnsolicited (p : Parcel) : RilM Unit := do
  let dataPosition := p.dataPosition
  let (response, p) := p.readInt
  match unsolLabelOf env.constants response with
  | none =>
      -- forward responses that we are not overriding to the super class
      emit (.superProcessUnsolicited (p.setDataPosition dataPosition))
  | some label =>
      let (ret, position) ← label.decoder.decode env p
      let p := p.setDataPosition position
      match ← rewriteUnsolicited env label ret p with
      | none => return ()
      | some newResponseCode =>
          let p := (p.setDataPosition dataPosition).writeInt newResponseCode
          emit (.superProcessUnsolicited (p.setDataPosition dataPosition))

/-! ## What the second switch does -/

variable {env : Env} {s : RIL} {p : Parcel}

/-- The array holds numbers in the elements `setCallIndication` parses. -/
def ReadableCall (ret : Obj) : Prop :=
  ∃ values, ret = .strings values ∧
    ∀ i ∈ [0, 3, 4], ∃ text n, values[i]? = some text ∧ parseInt text = .ok n

theorem intElement_eq_ok_iff {values : List (Option JString)} {i : Nat} {n : JInt} :
    intElement (some values) i = .ok n ↔
      ∃ text, values[i]? = some text ∧ parseInt text = .ok n := by
  cases h : values[i]? <;> simp [intElement, element, h, bind, Except.bind]

/-- The fields of an array parse exactly when elements 0, 3 and 4 do. -/
theorem callFields_isOk_iff {values : List (Option JString)} :
    (∃ fields, callFields (some values) = .ok fields) ↔
      ∀ i ∈ [0, 3, 4], ∃ n, intElement (some values) i = .ok n := by
  simp only [List.mem_cons, List.not_mem_nil, or_false, forall_eq_or_imp, forall_eq]
  unfold callFields
  cases intElement (some values) 0 with
  | error tr => simp [bind, Except.bind]
  | ok callId =>
    cases intElement (some values) 3 with
    | error tr => simp [bind, Except.bind]
    | ok callMode =>
      cases intElement (some values) 4 <;> simp [bind, Except.bind, pure, Except.pure]

/-- The second switch accepts a decoded array exactly when it is readable. -/
theorem callFields_toStringArray_isOk_iff {ret : Obj} :
    (∃ fields, ret.toStringArray >>= callFields = .ok fields) ↔ ReadableCall ret := by
  unfold ReadableCall
  cases ret with
  | strings values =>
    have hbind : (Obj.strings values).toStringArray >>= callFields = callFields (some values) := rfl
    have hswap : ∀ i, (∃ text n, values[i]? = some text ∧ parseInt text = .ok n) ↔
        ∃ n, intElement (some values) i = .ok n := by
      intro i
      simp only [intElement_eq_ok_iff]
      exact exists_comm
    simp only [hbind, callFields_isOk_iff, Obj.strings.injEq, exists_eq_left', hswap]
  | null => simp [Obj.toStringArray, callFields, intElement, element, bind, Except.bind]
  | int value => simp [Obj.toStringArray, bind, Except.bind]
  | ints values => simp [Obj.toStringArray, bind, Except.bind]
  | other kind => simp [Obj.toStringArray, bind, Except.bind]

/-- The AOSP code a label is rewritten to. -/
def UnsolLabel.aospCode (c : RILConstants) : UnsolLabel → Option JInt
  | .callProgressInfo | .incomingCallIndication => some c.unsolResponseCallStateChanged
  | .responsePsNetworkStateChanged => some c.unsolResponseVoiceNetworkStateChanged
  | .simInsertedStatus | .simMissing | .simPlugOut | .simPlugIn =>
      some c.unsolResponseSimStatusChanged
  | .responseRadioStateChanged => some c.unsolResponseRadioStateChanged
  | _ => none

/-- The requests the second switch sends, as codes with their bodies. -/
def unsolRequests (label : UnsolLabel) (ret : Obj) (p : Parcel) : List (JInt × List Datum) :=
  match label with
  | .incomingCallIndication =>
      match ret.toStringArray >>= callFields with
      | .ok (callId, seqNumber) =>
          [(rilRequestSetCallIndication, [.int 3, .int 0, .int callId, .int seqNumber])]
      | .error _ => []
  | .responseRadioStateChanged =>
      if p.readInt.1 = 0 ∨ p.readInt.1 = 1 then []
      else [(rilRequestSetGprsTransferType, [.int 1, .int 1]),
        (rilRequestSetGprsConnectType, [.int 1, .int 1])]
  | _ => []

/-- The state after a series of requests without result messages. -/
def RIL.issueAll (env : Env) (s : RIL) (requests : List (JInt × List Datum)) : RIL :=
  requests.foldl (fun s request => s.issue env request.1 none request.2) s

/-- The second switch sends its requests and names the code to rewrite to. -/
theorem exec_rewriteUnsolicited {label : UnsolLabel} {ret : Obj}
    (h : label = .incomingCallIndication → ReadableCall ret) :
    exec (rewriteUnsolicited env label ret p) s =
      (.ok (label.aospCode env.constants), s.issueAll env (unsolRequests label ret p)) := by
  cases label with
  | incomingCallIndication =>
    obtain ⟨⟨callId, seqNumber⟩, hfields⟩ := callFields_toStringArray_isOk_iff.mpr (h rfl)
    simp only [rewriteUnsolicited, unsolRequests, hfields, exec_bind, exec_liftExcept]
    cases harray : ret.toStringArray with
    | error tr => simp [harray, bind, Except.bind] at hfields
    | ok array =>
      have hcall : callFields array = .ok (callId, seqNumber) := by
        simpa [harray, bind, Except.bind] using hfields
      simp only [exec_setCallIndication, hcall]
      rfl
  | responseRadioStateChanged =>
    simp only [rewriteUnsolicited, unsolRequests, exec_bind, exec_setRadioStateFromRILInt]
    split <;> rfl
  | _ => rfl

/-- An unreadable call indication throws. -/
theorem rewriteUnsolicited_throws {ret : Obj} (h : ¬ReadableCall ret) :
    ∃ tr, (exec (rewriteUnsolicited env .incomingCallIndication ret p) s).1 = .error tr := by
  have hfields := mt callFields_toStringArray_isOk_iff.mp h
  simp only [rewriteUnsolicited, exec_bind, exec_liftExcept]
  cases harray : ret.toStringArray with
  | error tr => exact ⟨tr, rfl⟩
  | ok array =>
    simp only [exec_setCallIndication]
    cases hcall : callFields array with
    | error tr => exact ⟨tr, rfl⟩
    | ok fields => exact absurd ⟨fields, by simp [harray, hcall, bind, Except.bind]⟩ hfields

/-! ## Which parcels the receiver survives -/

/-- The decoder of the parcel's code accepts the payload, and an incoming call is readable. -/
def Decodable (env : Env) (p : Parcel) : Prop :=
  ∀ label, unsolLabelOf env.constants p.readInt.1 = some label →
    ∃ ret position, label.decoder.decode env p.readInt.2 = .ok (ret, position) ∧
      (label = .incomingCallIndication → ReadableCall ret)

/-- The parcel handed to the superclass when the code is rewritten. -/
def rewritten (p : Parcel) (newResponseCode : JInt) : Parcel :=
  ((p.readInt.2.setDataPosition p.dataPosition).writeInt newResponseCode).setDataPosition
    p.dataPosition

/-- A code without a label is forwarded as it came. -/
theorem exec_processUnsolicited_default (h : unsolLabelOf env.constants p.readInt.1 = none) :
    exec (processUnsolicited env p) s = (.ok (), s.withEffects [.superProcessUnsolicited p]) := by
  have hback : p.readInt.2.setDataPosition p.dataPosition = p :=
    Parcel.setDataPosition_eq Parcel.readInt_data
  simp only [processUnsolicited, h, hback]
  rfl

/-- A decodable parcel causes its requests, then its forward. -/
theorem exec_processUnsolicited_label {label : UnsolLabel} {ret : Obj} {position : Nat}
    (hlabel : unsolLabelOf env.constants p.readInt.1 = some label)
    (hdecode : label.decoder.decode env p.readInt.2 = .ok (ret, position))
    (hcall : label = .incomingCallIndication → ReadableCall ret) :
    exec (processUnsolicited env p) s =
      (.ok (), (s.issueAll env
        (unsolRequests label ret (p.readInt.2.setDataPosition position))).withEffects
          ((label.aospCode env.constants).toList.map fun code =>
            .superProcessUnsolicited (rewritten p code))) := by
  simp only [processUnsolicited, hlabel, exec_bind, exec_liftExcept, hdecode,
    exec_rewriteUnsolicited hcall]
  cases label.aospCode env.constants with
  | none => simp [RIL.withEffects]
  | some code => rfl

/-- `processUnsolicited` returns exactly for the decodable parcels. -/
theorem processUnsolicited_returns_iff :
    (exec (processUnsolicited env p) s).1 = .ok () ↔ Decodable env p := by
  cases hlabel : unsolLabelOf env.constants p.readInt.1 with
  | none =>
    rw [exec_processUnsolicited_default hlabel]
    simp [Decodable, hlabel]
  | some label =>
    constructor
    · intro hreturns other hother
      obtain rfl : label = other := Option.some.inj (hlabel.symm.trans hother)
      simp only [processUnsolicited, hlabel, exec_bind, exec_liftExcept] at hreturns
      cases hdecode : label.decoder.decode env p.readInt.2 with
      | error tr =>
        rw [hdecode] at hreturns
        cases hreturns
      | ok decoded =>
        refine ⟨decoded.1, decoded.2, rfl, ?_⟩
        rintro rfl
        by_contra hcall
        obtain ⟨tr, hthrows⟩ : ∃ tr, (exec (rewriteUnsolicited env .incomingCallIndication decoded.1
            (p.readInt.2.setDataPosition decoded.2)) s).1 = .error tr :=
          rewriteUnsolicited_throws hcall
        rw [hdecode] at hreturns
        simp only at hreturns
        split at hreturns
        · rename_i hok
          rw [hok] at hthrows
          cases hthrows
        · cases hreturns
    · intro hdecodable
      obtain ⟨ret, position, hdecode, hcall⟩ := hdecodable label hlabel
      rw [exec_processUnsolicited_label hlabel hdecode hcall]

/-- A call indication without its array throws out of the receiver. -/
theorem processUnsolicited_escapes :
    (exec (processUnsolicited (.sample none) ⟨leBytes 3014, 0⟩) .start).1 =
      .error (.arrayIndexOutOfBoundsException 0) := rfl

/-! ## Translation to AOSP's codes -/

/-- The parcel `q` is `p` with the code at its cursor replaced, and nothing else. -/
structure RewriteOf (p : Parcel) (code : JInt) (q : Parcel) : Prop where
  cursor : q.dataPosition = p.dataPosition
  word : wordAt q.data p.dataPosition = code
  length : q.data.length = p.data.length
  frame : ∀ j, j < p.dataPosition ∨ p.dataPosition + 4 ≤ j → q.data[j]? = p.data[j]?

/-- A parcel is its own rewrite to the code it has. -/
theorem rewriteOf_self : RewriteOf p p.readInt.1 p where
  cursor := rfl
  word := Parcel.readInt_fst.symm
  length := rfl
  frame _ _ := rfl

/-- Rewriting needs four bytes at the cursor, or the write would move the end of the parcel. -/
theorem rewriteOf_rewritten {code : JInt} (h : p.dataPosition + 4 ≤ p.data.length) :
    RewriteOf p code (rewritten p code) := by
  have hdata : (rewritten p code).data = overwrite p.data p.dataPosition (leBytes code) := by
    simp [rewritten]
  refine ⟨rfl, ?_, ?_, ?_⟩
  · rw [hdata]
    exact wordAt_overwrite h
  · rw [hdata]
    exact length_overwrite h
  · intro j hj
    rw [hdata]
    exact getElem?_overwrite_of_notMem h hj

/-- The labels whose parcels are forwarded. -/
def forwardedLabels : List UnsolLabel :=
  [.callProgressInfo, .incomingCallIndication, .responsePsNetworkStateChanged, .simInsertedStatus,
    .simMissing, .simPlugOut, .simPlugIn, .responseRadioStateChanged]

theorem aospCode_isSome_iff {c : RILConstants} {label : UnsolLabel} :
    (label.aospCode c).isSome ↔ label ∈ forwardedLabels := by
  cases label <;> simp [UnsolLabel.aospCode, forwardedLabels]

/-- The AOSP code of a response code, itself unless its label is rewritten. -/
def targetCode (c : RILConstants) (response : JInt) : JInt :=
  match unsolLabelOf c response with
  | some label => (label.aospCode c).getD response
  | none => response

/-- The radio state of a parcel: the `int` that follows what its decoder read. -/
def radioState (env : Env) (p : Parcel) : JInt :=
  match UnsolLabel.responseRadioStateChanged.decoder.decode env p.readInt.2 with
  | .ok (_, position) => (p.readInt.2.setDataPosition position).readInt.1
  | .error _ => 0

/-- The requests a parcel causes, by code. -/
def requestCodes (env : Env) (p : Parcel) : List JInt :=
  match unsolLabelOf env.constants p.readInt.1 with
  | some .incomingCallIndication => [rilRequestSetCallIndication]
  | some .responseRadioStateChanged =>
      if radioState env p = 0 ∨ radioState env p = 1 then []
      else [rilRequestSetGprsTransferType, rilRequestSetGprsConnectType]
  | _ => []

/-- A series of requests is sent in order, each without a result message. -/
theorem issueAll_effects {requests : List (JInt × List Datum)} :
    ∃ sent : List RILRequest, (s.issueAll env requests).effects = s.effects ++ sent.map .sent ∧
      sent.map RILRequest.mRequest = requests.map Prod.fst ∧ ∀ rr ∈ sent, rr.mResult = none := by
  induction requests generalizing s with
  | nil => exact ⟨[], by simp [RIL.issueAll], rfl, by simp⟩
  | cons request requests ih =>
    obtain ⟨sent, heffects, hcodes, hresults⟩ := @ih (s.issue env request.1 none request.2)
    refine ⟨⟨env.serialOf s.obtained, request.1, none, request.2⟩ :: sent, ?_, ?_, ?_⟩
    · rw [RIL.issueAll, List.foldl_cons, ← RIL.issueAll, heffects]
      simp [RIL.issue]
    · simp [hcodes]
    · simpa using hresults

theorem unsolRequests_codes {label : UnsolLabel} {ret : Obj} {position : Nat}
    (hlabel : unsolLabelOf env.constants p.readInt.1 = some label)
    (hdecode : label.decoder.decode env p.readInt.2 = .ok (ret, position))
    (hcall : label = .incomingCallIndication → ReadableCall ret) :
    (unsolRequests label ret (p.readInt.2.setDataPosition position)).map Prod.fst =
      requestCodes env p := by
  rw [requestCodes, hlabel]
  cases label with
  | incomingCallIndication =>
    obtain ⟨fields, hfields⟩ := callFields_toStringArray_isOk_iff.mpr (hcall rfl)
    simp [unsolRequests, hfields]
  | responseRadioStateChanged =>
    have hstate : radioState env p = (p.readInt.2.setDataPosition position).readInt.1 := by
      rw [radioState, hdecode]
    simp only [unsolRequests, ← hstate]
    split <;> rfl
  | _ => rfl

/-- What a parcel is translated to: the requests it causes, then at most one forward. -/
structure Translation (env : Env) (s : RIL) (p : Parcel) (sent : List RILRequest)
    (forwarded : Option Parcel) : Prop where
  returns : (exec (processUnsolicited env p) s).1 = .ok ()
  effects : (exec (processUnsolicited env p) s).2.effects =
    s.effects ++ sent.map .sent ++ forwarded.toList.map .superProcessUnsolicited
  requests : sent.map RILRequest.mRequest = requestCodes env p
  results : ∀ rr ∈ sent, rr.mResult = none
  /-- It is forwarded for the codes without a label and for the eight rewritten ones. -/
  forwards : forwarded.isSome ↔
    ∀ label, unsolLabelOf env.constants p.readInt.1 = some label → label ∈ forwardedLabels
  rewrites : ∀ q ∈ forwarded, RewriteOf p (targetCode env.constants p.readInt.1) q

/-- Unsolicited translation is a code rewrite, for every parcel that decodes. -/
theorem unsolicited_translation (h : Decodable env p) :
    ∃ sent forwarded, Translation env s p sent forwarded := by
  cases hlabel : unsolLabelOf env.constants p.readInt.1 with
  | none =>
    refine ⟨[], some p, ?_, ?_, ?_, by simp, ?_, ?_⟩
    · rw [exec_processUnsolicited_default hlabel]
    · simp [exec_processUnsolicited_default hlabel, RIL.withEffects]
    · rw [requestCodes, hlabel]
      rfl
    · simp [hlabel]
    · intro q hq
      obtain rfl := Option.some.inj hq
      rw [targetCode, hlabel]
      exact rewriteOf_self
  | some label =>
    obtain ⟨ret, position, hdecode, hcall⟩ := h label hlabel
    have hexec := @exec_processUnsolicited_label env s p label ret position hlabel hdecode hcall
    obtain ⟨sent, heffects, hcodes, hresults⟩ := @issueAll_effects env s
      (unsolRequests label ret (p.readInt.2.setDataPosition position))
    refine ⟨sent, (label.aospCode env.constants).map (rewritten p), ?_, ?_, ?_, hresults, ?_, ?_⟩
    · rw [hexec]
    · rw [hexec]
      simp only [RIL.withEffects, heffects]
      cases label.aospCode env.constants <;> rfl
    · rw [hcodes, unsolRequests_codes hlabel hdecode hcall]
    · simp [aospCode_isSome_iff, hlabel]
    · intro q hq
      obtain ⟨code, hcode, rfl⟩ := Option.mem_map.mp hq
      -- the code matched a label, so it was there to be read
      have hroom : p.dataPosition + 4 ≤ p.data.length := by
        apply Parcel.room_of_readInt_ne_zero
        rw [← unsolLabelOf_eq_some_iff.mp hlabel]
        exact UnsolLabel.code_ne_zero
      have htarget : targetCode env.constants p.readInt.1 = code := by
        rw [targetCode, hlabel]
        simp [Option.mem_def.mp hcode]
      rw [htarget]
      exact rewriteOf_rewritten hroom

/-- The radio came on: two requests, and the parcel as it came. -/
theorem unsolicited_translation_radioOn :
    let p : Parcel := ⟨leBytes 1000 ++ leBytes 2, 0⟩
    ∃ sent forwarded, Translation (.sample none) .start p sent forwarded := by
  apply unsolicited_translation
  intro label hlabel
  obtain rfl : UnsolLabel.responseRadioStateChanged = label := Option.some.inj hlabel
  exact ⟨.null, 4, rfl, by simp⟩

end Ril
