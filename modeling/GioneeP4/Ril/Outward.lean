-- SUMMARY: What an instance does to the modem, the registrants and its superclass over whole runs: a function of the events alone.
import GioneeP4.Ril.Runs

/-!
# The outward trace

Completions aside, an instance sends requests, notifies registrants and forwards
parcels. All of it follows from the event at hand: pending requests and serials play
no part, and a reply puts out nothing.
-/

namespace Ril

open Prog RilM

variable {env : Env} {props : Properties} {s t : RIL}

/-- What goes out, without serials and completions. -/
inductive Outward
  | request (request : JInt) (result : Option Message) (body : List Datum)
  | notification (status : JInt)
  | forward (p : Parcel)
  deriving DecidableEq

def Effect.outward : Effect → Option Outward
  | .sent rr => some (.request rr.mRequest rr.mResult rr.mParcel)
  | .completed _ _ => none
  | .notifiedSubscriptionStatus status => some (.notification status)
  | .superProcessUnsolicited p => some (.forward p)

/-- Everything an instance put out, in order. -/
def RIL.outward (s : RIL) : List Outward := s.effects.filterMap Effect.outward

/-! ## What an event puts out -/

def Command.outward (env : Env) (props : Properties) : Command → List Outward
  | .setupDataCall radioTechnology profile apn user password authType protocol result =>
      [.request (env.constants.request .setupDataCall) result
        [.int 8, .string radioTechnology, .string profile, .string apn, .string user,
          .string password, .string authType, .string protocol, .string (some (literal "1"))]]
  | .setRadioPower on result =>
      if RadioPowerAllowed env props then
        [.request rilRequestDualSimModeSwitch result [.int 1, .int (if on then 3 else -1)]]
      else []
  | .setUiccSubscription _ _ _ subStatus result =>
      -- without a message the call throws before it notifies
      if result.isSome ∧ env.mSubscriptionStatusRegistrants ∧ (subStatus = 1 ∨ subStatus = 0) then
        [.notification subStatus]
      else []
  | .setDataSubscription _ | .setDefaultVoiceSub _ _ => []

/-- The call of an incoming call indication parses. -/
def readsCall (label : UnsolLabel) (ret : Obj) : Bool :=
  label ≠ .incomingCallIndication || (ret.toStringArray >>= callFields).isOk

/-- A parcel puts out its requests, and then itself with the code of AOSP. -/
def unsolicitedOutward (env : Env) (p : Parcel) : List Outward :=
  match unsolLabelOf env.constants p.readInt.1 with
  | none => [.forward p]
  | some label =>
      match label.decoder.decode env p.readInt.2 with
      | .error _ => []
      | .ok (ret, position) =>
          (unsolRequests label ret (p.readInt.2.setDataPosition position)).map
            (fun (request, body) => .request request none body) ++
          if readsCall label ret then
            (label.aospCode env.constants).toList.map fun code => .forward (rewritten p code)
          else []

def Event.outward (env : Env) : Event → List Outward
  | .command props call => call.outward env props
  | .inherited request result body => [.request request result body]
  | .unsolicited p => unsolicitedOutward env p
  | .solicited _ _ => []

/-! ## One event -/

theorem outward_issue {request : JInt} {result : Option Message} {body : List Datum} :
    (s.issue env request result body).outward = s.outward ++ [.request request result body] := by
  simp [RIL.outward, RIL.issue, Effect.outward]

theorem outward_withEffects {effects : List Effect} :
    (s.withEffects effects).outward = s.outward ++ effects.filterMap Effect.outward := by
  simp [RIL.outward, RIL.withEffects]

theorem outward_issueAll {requests : List (JInt × List Datum)} :
    (s.issueAll env requests).outward =
      s.outward ++ requests.map fun (request, body) => .request request none body := by
  induction requests generalizing s with
  | nil => exact (List.append_nil _).symm
  | cons request requests ih =>
    have hone : s.issueAll env (request :: requests) =
        (s.issue env request.1 none request.2).issueAll env requests := rfl
    rw [hone, ih, outward_issue, List.append_assoc]
    rfl

theorem outward_deliver {result : Option Message} {completion : Completion} :
    (deliver result completion).filterMap Effect.outward = [] := by
  cases result <;> rfl

theorem outward_sendAsyncResult {result : Option Message} {ret : Obj}
    {exception : Option Throwable} :
    (exec (sendAsyncResult result ret exception) s).2.outward = s.outward := by
  cases result with
  | none => rfl
  | some message =>
    rw [exec_sendAsyncResult, outward_withEffects, outward_deliver, List.append_nil]

theorem outward_command {command : Command} :
    (exec (command.run env props) s).2.outward = s.outward ++ command.outward env props := by
  cases command with
  | setupDataCall radioTechnology profile apn user password authType protocol result =>
    exact outward_issue
  | setRadioPower on result =>
    rw [Command.run, exec_setRadioPower, Command.outward]
    by_cases hallowed : RadioPowerAllowed env props
    · rw [if_pos hallowed, if_pos hallowed]
      exact outward_issue
    · rw [if_neg hallowed, if_neg hallowed]
      exact (List.append_nil _).symm
  | setUiccSubscription slotId appIndex subId subStatus result =>
    cases result with
    | none => exact (List.append_nil _).symm
    | some message =>
      rw [Command.run, exec_setUiccSubscription, outward_withEffects, Command.outward,
        subscriptionEffects]
      congr 1
      simp only [Option.isSome_some, true_and]
      split <;> rfl
  | setDataSubscription response =>
    exact outward_sendAsyncResult.trans (List.append_nil _).symm
  | setDefaultVoiceSub subIndex response =>
    exact outward_sendAsyncResult.trans (List.append_nil _).symm

theorem readsCall_iff {label : UnsolLabel} {ret : Obj} :
    readsCall label ret = true ↔ (label = .incomingCallIndication → ReadableCall ret) := by
  rw [readsCall, ← callFields_toStringArray_isOk_iff]
  cases ret.toStringArray >>= callFields <;> simp [Except.isOk, Except.toBool]

/-- A call indication that does not parse stops before anything goes out. -/
theorem exec_rewriteUnsolicited_of_not_readsCall {label : UnsolLabel} {ret : Obj} {p : Parcel}
    (h : readsCall label ret = false) :
    unsolRequests label ret p = [] ∧ ∃ tr t,
      exec (rewriteUnsolicited env label ret p) s = (.error tr, t) ∧ t.outward = s.outward := by
  rw [← Bool.not_eq_true, readsCall_iff, Classical.not_imp] at h
  obtain ⟨rfl, hcall⟩ := h
  have hfields := mt callFields_toStringArray_isOk_iff.mp hcall
  simp only [rewriteUnsolicited, unsolRequests, exec_bind, exec_liftExcept]
  cases harray : ret.toStringArray with
  | error tr => exact ⟨rfl, tr, s, rfl, rfl⟩
  | ok array =>
    simp only [exec_setCallIndication]
    cases hparsed : callFields array with
    | error tr => exact ⟨by simp [hparsed, bind, Except.bind], tr, _, rfl, rfl⟩
    | ok fields => exact absurd ⟨fields, by simp [harray, hparsed, bind, Except.bind]⟩ hfields

theorem outward_processUnsolicited {p : Parcel} :
    (exec (processUnsolicited env p) s).2.outward = s.outward ++ unsolicitedOutward env p := by
  rw [unsolicitedOutward]
  cases hlabel : unsolLabelOf env.constants p.readInt.1 with
  | none =>
    rw [exec_processUnsolicited_default hlabel]
    exact outward_withEffects
  | some label =>
    simp only [processUnsolicited, hlabel, exec_bind, exec_liftExcept]
    cases label.decoder.decode env p.readInt.2 with
    | error tr => exact (List.append_nil _).symm
    | ok decoded =>
      simp only
      cases hreads : readsCall label decoded.1 with
      | true =>
        rw [exec_rewriteUnsolicited (readsCall_iff.mp hreads)]
        cases label.aospCode env.constants with
        | none =>
          rw [if_pos rfl, Option.toList_none, List.map_nil, List.append_nil]
          exact outward_issueAll
        | some code =>
          have hforward := @outward_withEffects (s.issueAll env (unsolRequests label decoded.1
            (p.readInt.2.setDataPosition decoded.2))) [.superProcessUnsolicited (rewritten p code)]
          rw [outward_issueAll, List.append_assoc] at hforward
          exact hforward
      | false =>
        obtain ⟨hnone, tr, t, hexec, hsame⟩ :=
          @exec_rewriteUnsolicited_of_not_readsCall env s label decoded.1
            (p.readInt.2.setDataPosition decoded.2) hreads
        rw [hexec, hnone]
        exact hsame.trans (List.append_nil _).symm

theorem outward_step {event : Event} :
    (step env s event).outward = s.outward ++ event.outward env := by
  cases event with
  | command props command => exact outward_command
  | inherited request result body => exact outward_issue
  | unsolicited p => exact outward_processUnsolicited
  | solicited props p =>
    rw [step, Event.outward, List.append_nil]
    cases hlookup : s.mRequestList.lookup p.serial with
    | none => rw [exec_processSolicited_unknown hlookup]
    | some rr =>
      rw [(exec_processSolicited_pending hlookup).1, RIL.outward, RIL.answer, List.filterMap_append,
        outward_deliver, List.append_nil]
      rfl

/-! ## Runs -/

/-- The outward trace of a run is that of its events, one after the other. -/
theorem outward_trace {events : List Event} :
    (Machine.after (step env) s events).outward = s.outward ++ events.flatMap (Event.outward env) := by
  induction events generalizing s with
  | nil => exact (List.append_nil _).symm
  | cons event events ih =>
    rw [Machine.after_cons, ih, outward_step, List.append_assoc, List.flatMap_cons]

end Ril
