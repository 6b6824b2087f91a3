-- SUMMARY: Replies of the modem: processSolicited, everything one reply can do, and which replies complete without an exception.
import GioneeP4.Ril.Commands

/-!
# Solicited responses

A reply names a pending request by serial. Its exits are one completion each: the
decoder threw, the modem reported an error, or the request succeeded. A reply to
an unknown serial is dropped.
-/

namespace Ril

open Prog RilM

variable (env : Env) (props : Properties)

/-! ## The source -/

/-- Runs a decoder. The notifications this class does not process decode to null. -/
def Decoder.decode (decoder : Decoder) (p : Parcel) : Except Throwable (Obj × Nat) :=
  match decoder with
  | .responseCrssNotification | .responseEtwsNotification => .ok (.null, p.dataPosition)
  | decoder => env.decoders decoder p

/-- The `GET_MODEM_VERSION` request of one device is converted back. -/
def convertModemVersion (rr : RILRequest) : RILRequest :=
  if (literal "e73").isPrefixOf (props (literal "ro.cm.device")) ∧ rr.mRequest = 220 then
    { rr with mRequest := env.constants.request .basebandVersion }
  else rr

/-- The decoder switch inside the `try` of `processSolicited`. -/
def decodeSolicited (rr : RILRequest) (p : Parcel) : Except Throwable Obj :=
  match decoderOf env.constants rr.mRequest with
  | some decoder => (decoder.decode env p).map Prod.fst
  | none =>
      .error (.runtimeException s!"Unrecognized solicited response: {rr.mRequest.toInt}")

/-- The completion of a request that may have no result message. -/
def completeRequest (rr : RILRequest) (ret : Obj) (exception : Option Throwable) : RilM Unit :=
  if rr.mResult.isSome then sendAsyncResult rr.mResult ret exception else pure ()

/-- The exits of `processSolicited` after decoding. -/
def finishSolicited (rr : RILRequest) (error : JInt) (ret : Obj) : RilM (Option RILRequest) := do
  if error ≠ 0 then onError rr error ret else completeRequest rr ret none
  return some rr

/-- `processSolicited` once the request of the reply is found. -/
def processReply (rr : RILRequest) (error : JInt) (p : Parcel) : RilM (Option RILRequest) := do
  if error = 0 ∨ p.dataAvail > 0 then
    let rr := convertModemVersion env props rr
    match decodeSolicited env rr p with
    | .ok ret => finishSolicited rr error ret
    | .error tr =>
        completeRequest rr .null (some tr)
        return some rr
  else
    finishSolicited rr error .null

def processSolicited (p : Parcel) : RilM (Option RILRequest) := do
  let (serial, p) := p.readInt
  let (error, p) := p.readInt
  match ← findAndRemoveRequestFromList serial with
  | none => return none
  | some rr => processReply env props rr error p

/-! ## The parts of a reply -/

namespace Parcel

/-- The serial a reply names. -/
def serial (p : Parcel) : JInt := p.readInt.1

/-- The error code of a reply. -/
def error (p : Parcel) : JInt := p.readInt.2.readInt.1

/-- What follows the error code of a reply. -/
def payload (p : Parcel) : Parcel := p.readInt.2.readInt.2

end Parcel

/-! ## What one reply does -/

variable {env : Env} {props : Properties} {s : RIL} {p : Parcel}

@[simp] theorem convertModemVersion_mResult {rr : RILRequest} :
    (convertModemVersion env props rr).mResult = rr.mResult := by
  unfold convertModemVersion
  split <;> rfl

@[simp] theorem convertModemVersion_mSerial {rr : RILRequest} :
    (convertModemVersion env props rr).mSerial = rr.mSerial := by
  unfold convertModemVersion
  split <;> rfl

/-- Only the code of the modem version is converted. -/
theorem convertModemVersion_of_ne {rr : RILRequest} (h : rr.mRequest ≠ 220) :
    convertModemVersion env props rr = rr := by
  unfold convertModemVersion
  rw [if_neg fun hboth => h hboth.2]

/-- The completion a reply makes of a pending request. -/
def completionOf (env : Env) (props : Properties) (rr : RILRequest) (p : Parcel) : Completion :=
  let finish (ret : Obj) : Completion :=
    if p.error ≠ 0 then .onError p.error ret else .asyncResult ret none
  if p.error = 0 ∨ p.payload.dataAvail > 0 then
    match decodeSolicited env (convertModemVersion env props rr) p.payload with
    | .ok ret => finish ret
    | .error tr => .asyncResult .null (some tr)
  else finish .null

theorem exec_completeRequest {rr : RILRequest} {ret : Obj} {exception : Option Throwable} :
    exec (completeRequest rr ret exception) s =
      (.ok (), s.withEffects (deliver rr.mResult (.asyncResult ret exception))) := by
  unfold completeRequest
  cases rr.mResult with
  | none => simp [RIL.withEffects, deliver]
  | some message => exact exec_sendAsyncResult

theorem exec_finishSolicited {rr : RILRequest} {error : JInt} {ret : Obj} :
    exec (finishSolicited rr error ret) s =
      (.ok (some rr), s.withEffects (deliver rr.mResult
        (if error ≠ 0 then .onError error ret else .asyncResult ret none))) := by
  unfold finishSolicited
  split <;> simp [exec_onError, exec_completeRequest]

/-- Every exit of a reply completes the request once and returns it. -/
theorem exec_processReply {rr : RILRequest} :
    exec (processReply env props rr p.error p.payload) s =
      (.ok (some (if p.error = 0 ∨ p.payload.dataAvail > 0 then convertModemVersion env props rr
        else rr)), s.withEffects (deliver rr.mResult (completionOf env props rr p))) := by
  unfold processReply completionOf
  by_cases hdecode : p.error = 0 ∨ p.payload.dataAvail > 0
  · simp only [if_pos hdecode]
    cases decodeSolicited env (convertModemVersion env props rr) p.payload with
    | ok ret => simp only [exec_finishSolicited, convertModemVersion_mResult]
    | error tr => simp [exec_completeRequest]
  · simp only [if_neg hdecode, exec_finishSolicited]

/-- The state after a reply to the pending request `rr`. -/
def RIL.answer (env : Env) (props : Properties) (rr : RILRequest) (p : Parcel) (s : RIL) : RIL :=
  { s with
    mRequestList := s.mRequestList.erase p.serial
    effects := s.effects ++ deliver rr.mResult (completionOf env props rr p) }

/-- A reply to an unknown serial does nothing. -/
theorem exec_processSolicited_unknown (h : s.mRequestList.lookup p.serial = none) :
    exec (processSolicited env props p) s = (.ok none, s) := by
  have herase : s.mRequestList.erase p.serial = s.mRequestList := by
    apply Finmap.ext_lookup
    intro serial
    by_cases heq : serial = p.serial
    · rw [heq, h, Finmap.lookup_erase]
    · rw [Finmap.lookup_erase_ne heq]
  unfold Parcel.serial at h herase
  unfold processSolicited
  simp [h, herase]

/-- A reply to a pending request removes it and delivers its completion. -/
theorem exec_processSolicited_pending {rr : RILRequest}
    (h : s.mRequestList.lookup p.serial = some rr) :
    (exec (processSolicited env props p) s).2 = s.answer env props rr p ∧
      ∃ answered, (exec (processSolicited env props p) s).1 = .ok (some answered) ∧
        answered.mSerial = rr.mSerial := by
  have hfound : exec (processSolicited env props p) s =
      exec (processReply env props rr p.error p.payload)
        { s with mRequestList := s.mRequestList.erase p.serial } := by
    unfold Parcel.serial at h
    unfold processSolicited
    simp [h, Parcel.serial, Parcel.error, Parcel.payload]
  rw [hfound, exec_processReply]
  refine ⟨rfl, _, rfl, ?_⟩
  split <;> simp

end Ril
