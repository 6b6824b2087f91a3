-- SUMMARY: The state of a RIL instance: pending requests, the effects on the outside world, and the primitives that issue and complete requests.
import Mathlib.Data.Finmap
import GioneeP4.Lib.Prog
import GioneeP4.Ril.Constants
import GioneeP4.Ril.Parcel

/-!
# Requests of a RIL instance

A computation of the class runs in `RilM`: it may throw, and what it did to the
state before it threw stays done. The state keeps the pending requests by serial
and, in order, what the class did to the outside world.
-/

namespace Ril

/-- A completion `Message` of a caller, by identity. -/
abbrev Message := Nat

structure RILRequest where
  mSerial : JInt
  mRequest : JInt
  mResult : Option Message
  /-- What was written after the header. -/
  mParcel : List Datum
  deriving DecidableEq

def RILRequest.write (rr : RILRequest) (data : List Datum) : RILRequest :=
  { rr with mParcel := rr.mParcel ++ data }

/-- What a completion message carries. -/
inductive Completion
  /-- `AsyncResult.forMessage(result, ret, exception)` -/
  | asyncResult (ret : Obj) (exception : Option Throwable)
  /-- The completion `RILRequest.onError` makes of a RIL error code. -/
  | onError (error : JInt) (ret : Obj)
  deriving DecidableEq

inductive Effect
  | sent (rr : RILRequest)
  | completed (result : Message) (completion : Completion)
  /-- `mSubscriptionStatusRegistrants.notifyRegistrants` with the array `{status}` -/
  | notifiedSubscriptionStatus (status : JInt)
  /-- `super.processUnsolicited(p)` -/
  | superProcessUnsolicited (p : Parcel)
  deriving DecidableEq

structure RIL where
  mRequestList : Finmap fun _ : JInt => RILRequest
  /-- How many requests were obtained, which is where the serials stand. -/
  obtained : Nat
  effects : List Effect

/-- A RIL instance nothing has happened to. -/
def RIL.start : RIL := ⟨∅, 0, []⟩

/-- What surrounds the class: the constants, decoders and serials of `RIL`, and its fields. -/
structure Env where
  constants : RILConstants
  /-- The decoders, each with the cursor it leaves. -/
  decoders : Decoder → Parcel → Except Throwable (Obj × Nat)
  /-- The serial of the n-th request obtained. -/
  serialOf : Nat → JInt
  mInstanceId : Option JInt
  /-- Whether `mSubscriptionStatusRegistrants` is set. -/
  mSubscriptionStatusRegistrants : Bool

/-- The decoders at the end of a parcel, where nothing is left to read. -/
def decodersAtEnd : Decoder → Parcel → Except Throwable (Obj × Nat)
  | .responseVoid, p => .ok (.null, p.dataPosition)
  | .responseInts, p => .ok (.ints [], p.dataPosition)
  | .responseStrings, p => .ok (.strings [], p.dataPosition)
  | .responseString, p => .ok (.null, p.dataPosition)
  | _, _ => .error (.other 0)

/-- An instance on AOSP that reads responses without payload. -/
def Env.sample (mInstanceId : Option JInt) : Env where
  constants := aosp
  decoders := decodersAtEnd
  serialOf n := BitVec.ofNat 32 n
  mInstanceId := mInstanceId
  mSubscriptionStatusRegistrants := true

abbrev RilM := Prog Throwable RIL

namespace RilM

/-- One effect on the outside world. -/
def emit (effect : Effect) : RilM Unit := modify fun s => { s with effects := s.effects ++ [effect] }

@[simp] theorem exec_emit {s : RIL} {effect : Effect} :
    Prog.exec (emit effect) s = (.ok (), { s with effects := s.effects ++ [effect] }) := rfl

end RilM

open Prog RilM

/-! ## Issuing and completing requests -/

/-- `RILRequest.obtain` -/
def obtain (env : Env) (request : JInt) (result : Option Message) : RilM RILRequest := do
  let n := (← get).obtained
  modify fun s => { s with obtained := n + 1 }
  return ⟨env.serialOf n, request, result, []⟩

/-- `send`: the request joins the pending ones and goes out to the modem. -/
def send (rr : RILRequest) : RilM Unit := do
  modify fun s => { s with mRequestList := s.mRequestList.insert rr.mSerial rr }
  emit (.sent rr)

def findAndRemoveRequestFromList (serial : JInt) : RilM (Option RILRequest) := do
  let rr := (← get).mRequestList.lookup serial
  modify fun s => { s with mRequestList := s.mRequestList.erase serial }
  return rr

/-- `AsyncResult.forMessage(result, ret, exception); result.sendToTarget();` -/
def sendAsyncResult (result : Option Message) (ret : Obj) (exception : Option Throwable) :
    RilM Unit :=
  match result with
  | none => throw .nullPointerException
  | some message => emit (.completed message (.asyncResult ret exception))

/-- `RILRequest.onError` -/
def onError (rr : RILRequest) (error : JInt) (ret : Obj) : RilM Unit :=
  match rr.mResult with
  | none => pure ()
  | some message => emit (.completed message (.onError error ret))

/-! ## What the primitives do to the state -/

/-- The state after a request with this body was obtained and sent. -/
def RIL.issue (env : Env) (request : JInt) (result : Option Message) (body : List Datum) (s : RIL) :
    RIL :=
  let rr : RILRequest := ⟨env.serialOf s.obtained, request, result, body⟩
  { mRequestList := s.mRequestList.insert rr.mSerial rr
    obtained := s.obtained + 1
    effects := s.effects ++ [.sent rr] }

/-- The state after further effects. -/
def RIL.withEffects (s : RIL) (effects : List Effect) : RIL :=
  { s with effects := s.effects ++ effects }

variable {env : Env} {s : RIL}

@[simp] theorem exec_obtain {request : JInt} {result : Option Message} :
    exec (obtain env request result) s =
      (.ok ⟨env.serialOf s.obtained, request, result, []⟩, { s with obtained := s.obtained + 1 }) :=
  rfl

@[simp] theorem exec_send {rr : RILRequest} :
    exec (send rr) s =
      (.ok (), { s with
        mRequestList := s.mRequestList.insert rr.mSerial rr
        effects := s.effects ++ [.sent rr] }) := rfl

@[simp] theorem exec_findAndRemoveRequestFromList {serial : JInt} :
    exec (findAndRemoveRequestFromList serial) s =
      (.ok (s.mRequestList.lookup serial),
        { s with mRequestList := s.mRequestList.erase serial }) := rfl

/-- The completion a request delivers: one if it has a message, else none. -/
def deliver (result : Option Message) (completion : Completion) : List Effect :=
  result.toList.map fun message => .completed message completion

theorem exec_sendAsyncResult {message : Message} {ret : Obj} {exception : Option Throwable} :
    exec (sendAsyncResult (some message) ret exception) s =
      (.ok (), s.withEffects (deliver (some message) (.asyncResult ret exception))) := rfl

theorem exec_onError {rr : RILRequest} {error : JInt} {ret : Obj} :
    exec (onError rr error ret) s = (.ok (), s.withEffects (deliver rr.mResult (.onError error ret))) := by
  obtain ⟨serial, request, result, body⟩ := rr
  cases result with
  | none => simp [onError, RIL.withEffects, deliver]
  | some message => rfl

end Ril
