-- SUMMARY: The operations of the RIL class that issue requests or answer their caller at once.
import GioneeP4.Ril.Requests

/-!
# Operations of the RIL class

Five operations of `CommandsInterface` take a completion message. Two private ones
are called while an unsolicited message is processed.
-/

namespace Ril

open Prog RilM

variable (env : Env) (props : Properties)

/-- `Integer.parseInt(array[i])` -/
def intElement (array : Option (List (Option JString))) (i : Nat) : Except Throwable JInt := do
  parseInt (← element array i)

def setCallIndication (incomingCallInfo : Option (List (Option JString))) : RilM Unit := do
  let rr ← obtain env rilRequestSetCallIndication none
  let callId ← intElement incomingCallInfo 0
  let _callMode ← intElement incomingCallInfo 3
  let seqNumber ← intElement incomingCallInfo 4
  -- some guess work is needed here, for now, just 0
  let callMode := 0
  send (rr.write [.int 3, .int callMode, .int callId, .int seqNumber])

def setupDataCall (radioTechnology profile apn user password authType protocol : Option JString)
    (result : Option Message) : RilM Unit := do
  let rr ← obtain env (env.constants.request .setupDataCall) result
  send (rr.write [.int 8, .string radioTechnology, .string profile, .string apn, .string user,
    .string password, .string authType, .string protocol, .string (some (literal "1"))])

def setRadioStateFromRILInt (stateCode : JInt) : RilM Unit := do
  if stateCode = 0 ∨ stateCode = 1 then
    return ()
  else
    let rr ← obtain env rilRequestSetGprsTransferType none
    send (rr.write [.int 1, .int 1])
    let rr ← obtain env rilRequestSetGprsConnectType none
    send (rr.write [.int 1, .int 1])

def setRadioPower (on : Bool) (result : Option Message) : RilM Unit := do
  let allow := props.getBoolean (literal "persist.ril.enable") true
  if !allow then
    return ()
  else if env.mInstanceId = some 1 then
    return ()
  else
    let rr ← obtain env rilRequestDualSimModeSwitch result
    send (rr.write [.int 1, .int (if on then 3 else -1)])

/-- `mSubscriptionStatusRegistrants.notifyRegistrants`, when there are registrants. -/
def notifySubscriptionStatus (status : JInt) : RilM Unit :=
  if env.mSubscriptionStatusRegistrants then emit (.notifiedSubscriptionStatus status)
  else return ()

def setUiccSubscription (_slotId _appIndex _subId subStatus : JInt) (result : Option Message) :
    RilM Unit := do
  sendAsyncResult result (.int 0) none
  if subStatus = 1 then
    notifySubscriptionStatus env 1
  else if subStatus = 0 then
    notifySubscriptionStatus env 0

def setDataSubscription (response : Option Message) : RilM Unit :=
  sendAsyncResult response (.int 0) none

def setDefaultVoiceSub (_subIndex : JInt) (response : Option Message) : RilM Unit :=
  sendAsyncResult response (.int 0) none

/-! ## The operations as one type -/

/-- The calls of overridden operations that take a completion message. -/
inductive Command
  | setupDataCall (radioTechnology profile apn user password authType protocol : Option JString)
      (result : Option Message)
  | setRadioPower (on : Bool) (result : Option Message)
  | setUiccSubscription (slotId appIndex subId subStatus : JInt) (result : Option Message)
  | setDataSubscription (response : Option Message)
  | setDefaultVoiceSub (subIndex : JInt) (response : Option Message)
  deriving DecidableEq

namespace Command

/-- The completion message of a call. -/
def result : Command → Option Message
  | .setupDataCall _ _ _ _ _ _ _ result | .setRadioPower _ result
  | .setUiccSubscription _ _ _ _ result => result
  | .setDataSubscription response | .setDefaultVoiceSub _ response => response

def run : Command → RilM Unit
  | .setupDataCall radioTechnology profile apn user password authType protocol result =>
      Ril.setupDataCall env radioTechnology profile apn user password authType protocol result
  | .setRadioPower on result => Ril.setRadioPower env props on result
  | .setUiccSubscription slotId appIndex subId subStatus result =>
      Ril.setUiccSubscription env slotId appIndex subId subStatus result
  | .setDataSubscription response => Ril.setDataSubscription response
  | .setDefaultVoiceSub subIndex response => Ril.setDefaultVoiceSub subIndex response

end Command

/-! ## What the operations do -/

variable {env : Env} {props : Properties} {s : RIL}

/-- The call id and the sequence number that `setCallIndication` reads. -/
def callFields (incomingCallInfo : Option (List (Option JString))) :
    Except Throwable (JInt × JInt) := do
  let callId ← intElement incomingCallInfo 0
  let _callMode ← intElement incomingCallInfo 3
  let seqNumber ← intElement incomingCallInfo 4
  return (callId, seqNumber)

/-- A request is obtained first, and lost when a field does not parse. -/
theorem exec_setCallIndication {info : Option (List (Option JString))} :
    exec (setCallIndication env info) s =
      match callFields info with
      | .ok (callId, seqNumber) =>
          (.ok (), s.issue env rilRequestSetCallIndication none
            [.int 3, .int 0, .int callId, .int seqNumber])
      | .error tr => (.error tr, { s with obtained := s.obtained + 1 }) := by
  unfold setCallIndication callFields
  simp only [exec_bind, exec_obtain, exec_liftExcept]
  generalize intElement info 0 = callId
  generalize intElement info 3 = callMode
  generalize intElement info 4 = seqNumber
  cases callId with
  | error tr => rfl
  | ok callId =>
    cases callMode with
    | error tr => rfl
    | ok callMode => cases seqNumber <;> rfl

theorem exec_setupDataCall {radioTechnology profile apn user password authType protocol :
    Option JString} {result : Option Message} :
    exec (setupDataCall env radioTechnology profile apn user password authType protocol result) s =
      (.ok (), s.issue env (env.constants.request .setupDataCall) result
        [.int 8, .string radioTechnology, .string profile, .string apn, .string user,
          .string password, .string authType, .string protocol, .string (some (literal "1"))]) := rfl

/-- The radio may be switched: RIL is enabled and this is not the second SIM. -/
def RadioPowerAllowed (env : Env) (props : Properties) : Prop :=
  props.getBoolean (literal "persist.ril.enable") true = true ∧ env.mInstanceId ≠ some 1

instance : Decidable (RadioPowerAllowed env props) :=
  inferInstanceAs (Decidable (_ ∧ _))

theorem exec_setRadioPower {on : Bool} {result : Option Message} :
    exec (setRadioPower env props on result) s =
      (.ok (), if RadioPowerAllowed env props then
        s.issue env rilRequestDualSimModeSwitch result [.int 1, .int (if on then 3 else -1)]
      else s) := by
  unfold setRadioPower
  by_cases hallow : props.getBoolean (literal "persist.ril.enable") true = true
  · by_cases hsim : env.mInstanceId = some 1
    · rw [if_neg fun h : RadioPowerAllowed env props => h.2 hsim]
      simp only [hallow, Bool.not_true, Bool.false_eq_true, if_false, if_pos hsim]
      rfl
    · have hallowed : RadioPowerAllowed env props := ⟨hallow, hsim⟩
      rw [if_pos hallowed]
      simp only [hallow, Bool.not_true, Bool.false_eq_true, if_false, if_neg hsim]
      rfl
  · rw [if_neg fun h : RadioPowerAllowed env props => hallow h.1]
    simp [hallow]

/-- The notifications a new subscription status causes. -/
def subscriptionEffects (env : Env) (subStatus : JInt) : List Effect :=
  if env.mSubscriptionStatusRegistrants ∧ (subStatus = 1 ∨ subStatus = 0) then
    [.notifiedSubscriptionStatus subStatus]
  else []

theorem exec_setUiccSubscription {slotId appIndex subId subStatus : JInt} {message : Message} :
    exec (setUiccSubscription env slotId appIndex subId subStatus (some message)) s =
      (.ok (), s.withEffects (.completed message (.asyncResult (.int 0) none) ::
        subscriptionEffects env subStatus)) := by
  unfold setUiccSubscription subscriptionEffects notifySubscriptionStatus
  cases hreg : env.mSubscriptionStatusRegistrants <;>
    by_cases hone : subStatus = 1 <;> by_cases hzero : subStatus = 0 <;>
      simp_all [exec_sendAsyncResult, RIL.withEffects, deliver]

theorem exec_setRadioStateFromRILInt {stateCode : JInt} :
    exec (setRadioStateFromRILInt env stateCode) s =
      (.ok (), if stateCode = 0 ∨ stateCode = 1 then s
      else (s.issue env rilRequestSetGprsTransferType none [.int 1, .int 1]).issue env
        rilRequestSetGprsConnectType none [.int 1, .int 1]) := by
  unfold setRadioStateFromRILInt
  split <;> simp [RIL.issue, RILRequest.write]

/-! ## The message of a call is never dropped -/

/-- The effect takes care of a message: it hands its request to the modem or completes it. -/
def Effect.handles (message : Message) : Effect → Bool
  | .sent rr => rr.mResult = some message
  | .completed result _ => result = message
  | .notifiedSubscriptionStatus _ | .superProcessUnsolicited _ => false

/-- The call returns, and its message is owned by one request sent or completed once. -/
def Command.KeepsMessage (env : Env) (props : Properties) (s : RIL) (command : Command)
    (message : Message) : Prop :=
  ∃ effects, (exec (command.run env props) s).1 = .ok () ∧
    (exec (command.run env props) s).2.effects = s.effects ++ effects ∧
    effects.countP (Effect.handles message) = 1

theorem issue_keepsMessage {command : Command} {message : Message} {request : JInt}
    {body : List Datum}
    (h : exec (command.run env props) s = (.ok (), s.issue env request (some message) body)) :
    command.KeepsMessage env props s message := by
  refine ⟨[.sent ⟨env.serialOf s.obtained, request, some message, body⟩], ?_, ?_, ?_⟩
  · rw [h]
  · rw [h]
    rfl
  · simp [Effect.handles]

theorem completion_keepsMessage {command : Command} {message : Message} {completion : Completion}
    {more : List Effect} (hmore : ∀ effect ∈ more, effect.handles message = false)
    (h : exec (command.run env props) s =
      (.ok (), s.withEffects (.completed message completion :: more))) :
    command.KeepsMessage env props s message := by
  refine ⟨.completed message completion :: more, ?_, ?_, ?_⟩
  · rw [h]
  · rw [h]
    rfl
  · have hnone : more.countP (Effect.handles message) = 0 :=
      List.countP_eq_zero.mpr fun effect heffect => by simp [hmore effect heffect]
    simp [Effect.handles, hnone]

theorem subscriptionEffects_handles {subStatus : JInt} {message : Message} :
    ∀ effect ∈ subscriptionEffects env subStatus, effect.handles message = false := by
  intro effect heffect
  unfold subscriptionEffects at heffect
  split at heffect <;> simp_all [Effect.handles]

/-- A call keeps its message unless it is `setRadioPower` where the radio must not be switched. -/
theorem keepsMessage_iff {command : Command} {message : Message}
    (hresult : command.result = some message) :
    command.KeepsMessage env props s message ↔
      ((∃ on, command = .setRadioPower on (some message)) → RadioPowerAllowed env props) := by
  cases command with
  | setupDataCall radioTechnology profile apn user password authType protocol result =>
    cases hresult
    simp only [reduceCtorEq, exists_false, false_implies, iff_true]
    exact issue_keepsMessage exec_setupDataCall
  | setRadioPower on result =>
    cases hresult
    simp only [Command.setRadioPower.injEq, and_true, exists_eq', true_implies]
    have hexec := @exec_setRadioPower env props s on (some message)
    constructor
    · rintro ⟨effects, -, hkept, hcount⟩
      by_contra hnot
      -- the early return leaves no effect to handle the message
      rw [Command.run, hexec, if_neg hnot] at hkept
      simp only [List.self_eq_append_right] at hkept
      rw [hkept] at hcount
      simp at hcount
    · intro hallowed
      rw [if_pos hallowed] at hexec
      exact issue_keepsMessage hexec
  | setUiccSubscription slotId appIndex subId subStatus result =>
    cases hresult
    simp only [reduceCtorEq, exists_false, false_implies, iff_true]
    apply completion_keepsMessage subscriptionEffects_handles
    exact @exec_setUiccSubscription env s slotId appIndex subId subStatus message
  | setDataSubscription response =>
    cases hresult
    simp only [reduceCtorEq, exists_false, false_implies, iff_true]
    apply completion_keepsMessage (List.forall_mem_nil _)
    exact exec_sendAsyncResult
  | setDefaultVoiceSub subIndex response =>
    cases hresult
    simp only [reduceCtorEq, exists_false, false_implies, iff_true]
    apply completion_keepsMessage (List.forall_mem_nil _)
    exact exec_sendAsyncResult

/-- On the first SIM with no property set, `setRadioPower` hands its message to the modem. -/
theorem keepsMessage_firstSim :
    (Command.setRadioPower true (some 7)).KeepsMessage (.sample (some 0)) (fun _ => []) .start 7 :=
  (keepsMessage_iff rfl).mpr fun _ => by decide

/-- On the second SIM it returns without a trace of it. -/
theorem setRadioPower_drops_message :
    ¬(Command.setRadioPower true (some 7)).KeepsMessage (.sample (some 1)) (fun _ => []) .start 7 := by
  rintro ⟨effects, -, hkept, hcount⟩
  have hnone : effects = [] := List.self_eq_append_right.mp hkept
  rw [hnone] at hcount
  exact absurd hcount (by decide)

end Ril
