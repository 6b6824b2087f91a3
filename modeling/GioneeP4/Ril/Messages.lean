-- SUMMARY: What becomes of the completion messages of callers over whole runs: each is delivered or waits with its request, as often as it was given.
import GioneeP4.Ril.Runs
import Mathlib.Algebra.GroupWithZero.Nat

/-!
# Completion messages

A message comes into an instance with a call, waits with a pending request, and goes
out when it is delivered. Only the refusal of `setRadioPower` loses one. Everything
else moves messages along: a request takes over the one of its call, a reply delivers
the one of its request, and no other parcel touches any.
-/

namespace Ril

open Prog RilM

variable {env : Env} {props : Properties} {s t : RIL} {m : Message}

/-! ## Counting requests -/

section Count

variable {requests : Finmap fun _ : JInt => RILRequest} {serial : JInt} {rr : RILRequest}

/-- How many of the requests wait with the message. -/
def waitingIn (m : Message) (requests : Finmap fun _ : JInt => RILRequest) : Nat :=
  (requests.keys.filter fun serial =>
    (requests.lookup serial).bind RILRequest.mResult = some m).card

/-- 1 for the message, 0 for none or another one. -/
def occurs (m : Message) (result : Option Message) : Nat := if result = some m then 1 else 0

theorem waitingIn_erase (h : requests.lookup serial = some rr) :
    waitingIn m requests = waitingIn m (requests.erase serial) + occurs m rr.mResult := by
  have hmem : serial ∈ requests.keys :=
    Finmap.mem_keys.mpr (Finmap.mem_iff.mpr ⟨rr, h⟩)
  have hothers : ((requests.erase serial).keys.filter fun other =>
      ((requests.erase serial).lookup other).bind RILRequest.mResult = some m) =
        (requests.keys.erase serial).filter fun other =>
          (requests.lookup other).bind RILRequest.mResult = some m := by
    rw [Finmap.keys_erase]
    apply Finset.filter_congr
    intro other hother
    rw [Finmap.lookup_erase_ne (Finset.ne_of_mem_erase hother)]
  rw [waitingIn, waitingIn, hothers, occurs]
  conv_lhs => rw [← Finset.insert_erase hmem, Finset.filter_insert]
  rw [h, Option.bind_some]
  split
  · rw [Finset.card_insert_of_notMem]
    simp
  · rfl

theorem waitingIn_insert (h : serial ∉ requests) :
    waitingIn m (requests.insert serial rr) = waitingIn m requests + occurs m rr.mResult := by
  have hback : (requests.insert serial rr).erase serial = requests := by
    apply Finmap.ext_lookup
    intro other
    by_cases hother : other = serial
    · rw [hother, Finmap.lookup_erase, Finmap.lookup_eq_none.mpr h]
    · rw [Finmap.lookup_erase_ne hother, Finmap.lookup_insert_of_ne _ hother]
  rw [waitingIn_erase (Finmap.lookup_insert requests), hback]

end Count

/-! ## Messages on their way -/

/-- The effect delivers the message. -/
def Effect.delivers (m : Message) : Effect → Bool
  | .completed result _ => result = m
  | .sent _ | .notifiedSubscriptionStatus _ | .superProcessUnsolicited _ => false

/-- How often the message was delivered. -/
def delivered (m : Message) (s : RIL) : Nat := s.effects.countP (Effect.delivers m)

/-- How many pending requests wait with the message. -/
def waiting (m : Message) (s : RIL) : Nat := waitingIn m s.mRequestList

/-- All there is of a message in an instance. -/
def tally (m : Message) (s : RIL) : Nat := delivered m s + waiting m s

/-- The serials of pending requests were obtained. -/
def Issued (env : Env) (s : RIL) : Prop :=
  ∀ serial ∈ s.mRequestList, ∃ n < s.obtained, env.serialOf n = serial

/-- No serial was obtained twice. -/
def Distinct (env : Env) (s : RIL) : Prop := Set.InjOn env.serialOf {n | n < s.obtained}

theorem Distinct.mono (h : Distinct env t) (hle : s.obtained ≤ t.obtained) : Distinct env s :=
  Set.InjOn.mono (fun _ hn => Nat.lt_of_lt_of_le hn hle) h

theorem countP_deliver {result : Option Message} {completion : Completion} :
    (deliver result completion).countP (Effect.delivers m) = occurs m result := by
  cases result with
  | none => rfl
  | some message => simp [deliver, Effect.delivers, occurs, List.countP_cons]

theorem Issued.issue (h : Issued env s) {request : JInt} {result : Option Message}
    {body : List Datum} : Issued env (s.issue env request result body) := by
  intro serial hserial
  rcases Finmap.mem_insert.mp hserial with rfl | hold
  · exact ⟨s.obtained, Nat.lt_succ_self _, rfl⟩
  · obtain ⟨n, hn, hof⟩ := h serial hold
    exact ⟨n, Nat.lt_succ_of_lt hn, hof⟩

/-- A request takes over the message of its call. -/
theorem tally_issue {request : JInt} {result : Option Message} {body : List Datum}
    (h : Issued env s) (hdistinct : Distinct env (s.issue env request result body)) :
    tally m (s.issue env request result body) = tally m s + occurs m result := by
  have hfresh : env.serialOf s.obtained ∉ s.mRequestList := by
    intro hmem
    obtain ⟨n, hn, hsame⟩ := h _ hmem
    exact Nat.ne_of_lt hn (hdistinct (Nat.lt_succ_of_lt hn) (Nat.lt_succ_self _) hsame)
  rw [tally, tally, waiting, waiting, RIL.issue, waitingIn_insert hfresh, delivered, delivered]
  simp only [List.countP_append, List.countP_cons, Effect.delivers, List.countP_nil]
  simp
  omega

theorem tally_withEffects {effects : List Effect} :
    tally m (s.withEffects effects) = tally m s + effects.countP (Effect.delivers m) := by
  simp only [tally, delivered, waiting, RIL.withEffects, List.countP_append]
  omega

/-- A reply delivers the message of its request. -/
theorem tally_answer {rr : RILRequest} {p : Parcel} (h : s.mRequestList.lookup p.serial = some rr) :
    tally m (s.answer env props rr p) = tally m s := by
  have hout := waitingIn_erase (m := m) h
  simp only [tally, delivered, waiting, RIL.answer, List.countP_append, countP_deliver]
  omega

/-! ## What one event takes in -/

/-- From `s` to `t` the message comes in `k` times, and goes nowhere. -/
structure Takes (env : Env) (m : Message) (s : RIL) (k : Nat) (t : RIL) : Prop where
  issued : Issued env s → Issued env t
  obtained : s.obtained ≤ t.obtained
  tally : Issued env s → Distinct env t → tally m t = tally m s + k

theorem Takes.refl : Takes env m s 0 s := ⟨id, le_rfl, fun _ _ => rfl⟩

theorem Takes.trans {u : RIL} {k k' : Nat} (h : Takes env m s k t) (h' : Takes env m t k' u) :
    Takes env m s (k + k') u where
  issued := h'.issued ∘ h.issued
  obtained := h.obtained.trans h'.obtained
  tally hissued hdistinct := by
    rw [h'.tally (h.issued hissued) hdistinct, h.tally hissued (hdistinct.mono h'.obtained)]
    omega

theorem takes_issue {request : JInt} {result : Option Message} {body : List Datum} :
    Takes env m s (occurs m result) (s.issue env request result body) where
  issued h := h.issue
  obtained := Nat.le_succ _
  tally := tally_issue

theorem takes_lose : Takes env m s 0 { s with obtained := s.obtained + 1 } where
  issued h serial hserial :=
    let ⟨n, hn, hof⟩ := h serial hserial
    ⟨n, Nat.lt_succ_of_lt hn, hof⟩
  obtained := Nat.le_succ _
  tally _ _ := rfl

theorem takes_withEffects {effects : List Effect} :
    Takes env m s (effects.countP (Effect.delivers m)) (s.withEffects effects) where
  issued := id
  obtained := le_rfl
  tally _ _ := tally_withEffects

/-- Requests without a message. -/
theorem takes_request {request : JInt} {body : List Datum} :
    Takes env m s 0 (s.issue env request none body) := by
  have htakes := @takes_issue env s m request none body
  exact htakes

theorem takes_forward {p : Parcel} :
    Takes env m s 0 (s.withEffects [.superProcessUnsolicited p]) := by
  have htakes := @takes_withEffects env s m [.superProcessUnsolicited p]
  exact htakes

theorem takes_issueAll {requests : List (JInt × List Datum)} :
    Takes env m s 0 (s.issueAll env requests) := by
  induction requests generalizing s with
  | nil => exact .refl
  | cons request requests ih => exact takes_request.trans ih

/-- The refusal of `setRadioPower` loses its message. -/
def Command.Refused (env : Env) (props : Properties) : Command → Prop
  | .setRadioPower _ _ => ¬RadioPowerAllowed env props
  | .setupDataCall _ _ _ _ _ _ _ _ | .setUiccSubscription _ _ _ _ _ | .setDataSubscription _
  | .setDefaultVoiceSub _ _ => False

instance : DecidablePred (Command.Refused env props)
  | .setRadioPower _ _ => inferInstanceAs (Decidable (¬RadioPowerAllowed env props))
  | .setupDataCall _ _ _ _ _ _ _ _ | .setUiccSubscription _ _ _ _ _ | .setDataSubscription _
  | .setDefaultVoiceSub _ _ => inferInstanceAs (Decidable False)

/-- How often the message comes in with an event. -/
def Event.takes (env : Env) (m : Message) : Event → Nat
  | .command props call => if call.Refused env props then 0 else occurs m call.result
  | .inherited _ result _ => occurs m result
  | .unsolicited _ | .solicited _ _ => 0

theorem takes_sendAsyncResult {result : Option Message} {ret : Obj}
    {exception : Option Throwable} :
    Takes env m s (occurs m result) (exec (sendAsyncResult result ret exception) s).2 := by
  cases result with
  | none => exact .refl
  | some message =>
    rw [exec_sendAsyncResult, ← countP_deliver]
    exact takes_withEffects

theorem takes_setRadioPower {on : Bool} {result : Option Message} :
    Takes env m s (if ¬RadioPowerAllowed env props then 0 else occurs m result)
      (exec (setRadioPower env props on result) s).2 := by
  rw [exec_setRadioPower]
  by_cases hallowed : RadioPowerAllowed env props
  · rw [if_pos hallowed, if_neg (not_not_intro hallowed)]
    exact takes_issue
  · rw [if_neg hallowed, if_pos hallowed]
    exact .refl

theorem takes_setUiccSubscription {slotId appIndex subId subStatus : JInt}
    {result : Option Message} :
    Takes env m s (occurs m result)
      (exec (setUiccSubscription env slotId appIndex subId subStatus result) s).2 := by
  cases result with
  | none => exact Takes.refl
  | some message =>
    have hnone : (subscriptionEffects env subStatus).countP (Effect.delivers m) = 0 := by
      unfold subscriptionEffects
      split <;> simp [Effect.delivers]
    have hone : (Effect.completed message (.asyncResult (.int 0) none) ::
        subscriptionEffects env subStatus).countP (Effect.delivers m) = occurs m (some message) := by
      rw [List.countP_cons, hnone]
      simp [Effect.delivers, occurs]
    rw [exec_setUiccSubscription, ← hone]
    exact takes_withEffects

theorem takes_command {command : Command} :
    Takes env m s ((Event.command props command).takes env m)
      (exec (command.run env props) s).2 := by
  cases command with
  | setupDataCall radioTechnology profile apn user password authType protocol result =>
    simp only [Event.takes, Command.Refused, Command.result, Command.run, exec_setupDataCall]
    exact takes_issue
  | setRadioPower on result => exact takes_setRadioPower
  | setUiccSubscription slotId appIndex subId subStatus result =>
    simp only [Event.takes, Command.Refused]
    exact @takes_setUiccSubscription env s m slotId appIndex subId subStatus result
  | setDataSubscription response =>
    simp only [Event.takes, Command.Refused]
    exact takes_sendAsyncResult
  | setDefaultVoiceSub subIndex response =>
    simp only [Event.takes, Command.Refused]
    exact takes_sendAsyncResult

/-- Requests caused by a parcel have no message. -/
theorem takes_rewriteUnsolicited {label : UnsolLabel} {ret : Obj} {p : Parcel} :
    Takes env m s 0 (exec (rewriteUnsolicited env label ret p) s).2 := by
  by_cases hcall : label = .incomingCallIndication → ReadableCall ret
  · rw [exec_rewriteUnsolicited hcall]
    exact takes_issueAll
  · rw [Classical.not_imp] at hcall
    obtain ⟨rfl, -⟩ := hcall
    simp only [rewriteUnsolicited, exec_bind, exec_liftExcept]
    cases ret.toStringArray with
    | error tr => exact .refl
    | ok array =>
      simp only [exec_setCallIndication]
      cases callFields array with
      | error tr => exact takes_lose
      | ok fields => exact takes_request

theorem takes_unsolicited {p : Parcel} :
    Takes env m s 0 (exec (processUnsolicited env p) s).2 := by
  cases hlabel : unsolLabelOf env.constants p.readInt.1 with
  | none =>
    rw [exec_processUnsolicited_default hlabel]
    exact takes_forward
  | some label =>
    simp only [processUnsolicited, hlabel, exec_bind, exec_liftExcept]
    cases label.decoder.decode env p.readInt.2 with
    | error tr => exact .refl
    | ok decoded =>
      have htakes : Takes env m s 0 (exec (rewriteUnsolicited env label decoded.1
          (p.readInt.2.setDataPosition decoded.2)) s).2 := takes_rewriteUnsolicited
      simp only
      split
      · rename_i code t hexec
        rw [hexec] at htakes
        cases code with
        | none => exact htakes
        | some code => exact htakes.trans takes_forward
      · rename_i tr t hexec
        rw [hexec] at htakes
        exact htakes

theorem takes_solicited {p : Parcel} :
    Takes env m s 0 (exec (processSolicited env props p) s).2 := by
  cases hlookup : s.mRequestList.lookup p.serial with
  | none =>
    rw [exec_processSolicited_unknown hlookup]
    exact .refl
  | some rr =>
    rw [(exec_processSolicited_pending hlookup).1]
    refine ⟨?_, le_rfl, fun _ _ => tally_answer hlookup⟩
    exact fun h serial hserial => h serial (Finmap.mem_erase.mp hserial).2

theorem takes_step {event : Event} : Takes env m s (event.takes env m) (step env s event) := by
  cases event with
  | command props command => exact takes_command
  | inherited request result body => exact takes_issue
  | unsolicited p => exact takes_unsolicited
  | solicited props p => exact takes_solicited

/-! ## Runs -/

/-- How often the message was given to a call that keeps it. -/
def taken (env : Env) (m : Message) (events : List Event) : Nat :=
  (events.map (Event.takes env m)).sum

theorem takes_run {events : List Event} :
    Takes env m s (taken env m events) (Machine.after (step env) s events) := by
  induction events generalizing s with
  | nil => exact .refl
  | cons event events ih => exact takes_step.trans ih

theorem issued_start : Issued env .start :=
  fun _ hserial => absurd hserial Finmap.notMem_empty

theorem tally_run {events : List Event} (h : UniqueSerials env events) :
    tally m (Machine.after (step env) .start events) = taken env m events := by
  rw [(takes_run (m := m)).tally issued_start h]
  exact Nat.zero_add _

/-- No message is lost or made up. In every run with unique serials each message was delivered or
    waits with a pending request, together as often as it was given. -/
theorem messages_conserved {events : List Event} (h : UniqueSerials env events) (m : Message) :
    delivered m (Machine.after (step env) .start events) +
      waiting m (Machine.after (step env) .start events) = taken env m events :=
  tally_run h

/-- Two calls with one message, of which one is answered. -/
theorem messages_conserved_once :
    let events : List Event :=
      [.command (fun _ => []) (.setRadioPower true (some 7)),
        .solicited (fun _ => []) ⟨Words.leBytes 0 ++ Words.leBytes 0, 0⟩,
        .command (fun _ => []) (.setRadioPower false (some 7))]
    delivered 7 (Machine.after (step (.sample none)) .start events) +
      waiting 7 (Machine.after (step (.sample none)) .start events) = 2 := by
  intro events
  have hunique : UniqueSerials (.sample none) events := by
    intro n hn k hk hsame
    have htwo : (Machine.after (step (.sample none)) .start events).obtained = 2 := rfl
    simp only [htwo, Set.mem_ofPred_eq] at hn hk
    have hbits := congrArg BitVec.toNat hsame
    simp only [Env.sample, BitVec.toNat_ofNat] at hbits
    omega
  exact messages_conserved hunique 7

/-! ## Answering what is pending -/

/-- Replies of the modem, as events. -/
def replies (parcels : List (Properties × Parcel)) : List Event :=
  parcels.map fun (props, p) => .solicited props p

section Replies

variable {parcels : List (Properties × Parcel)}

theorem solicited_eq {p : Parcel} :
    (step env s (.solicited props p)).mRequestList = s.mRequestList.erase p.serial ∧
      (step env s (.solicited props p)).obtained = s.obtained := by
  cases hlookup : s.mRequestList.lookup p.serial with
  | none =>
    rw [step, exec_processSolicited_unknown hlookup]
    refine ⟨?_, rfl⟩
    apply Finmap.ext_lookup
    intro serial
    by_cases hserial : serial = p.serial
    · rw [hserial, hlookup, Finmap.lookup_erase]
    · rw [Finmap.lookup_erase_ne hserial]
  | some rr =>
    rw [step, (exec_processSolicited_pending hlookup).1]
    exact ⟨rfl, rfl⟩

/-- Replies obtain no serials, and leave pending what none of them names. -/
theorem after_replies :
    (Machine.after (step env) s (replies parcels)).obtained = s.obtained ∧
      ∀ serial, serial ∈ (Machine.after (step env) s (replies parcels)).mRequestList ↔
        serial ∈ s.mRequestList ∧ ∀ reply ∈ parcels, reply.2.serial ≠ serial := by
  induction parcels generalizing s with
  | nil => simp [replies]
  | cons reply parcels ih =>
    obtain ⟨props, p⟩ := reply
    obtain ⟨hrequests, hobtained⟩ := @solicited_eq env props s p
    have hfirst : Machine.after (step env) s (replies ((props, p) :: parcels)) =
        Machine.after (step env) (step env s (.solicited props p)) (replies parcels) := rfl
    obtain ⟨hrest, hpending⟩ := @ih (step env s (.solicited props p))
    rw [hfirst]
    refine ⟨hrest.trans hobtained, fun _ => ?_⟩
    rw [hpending, hrequests, Finmap.mem_erase, List.forall_mem_cons]
    tauto

theorem taken_replies : taken env m (replies parcels) = 0 := by
  induction parcels with
  | nil => rfl
  | cons reply parcels ih =>
    rw [replies, List.map_cons, ← replies, taken, List.map_cons, List.sum_cons, ← taken, ih]
    rfl

theorem taken_append {events events' : List Event} :
    taken env m (events ++ events') = taken env m events + taken env m events' := by
  rw [taken, List.map_append, List.sum_append]
  rfl

end Replies

/-- Exactly once. When the modem has answered what was pending after a run, in any order, with any
    errors and with replies to other serials in between, each message was delivered as often as it
    was given. -/
theorem all_delivered {events : List Event} {parcels : List (Properties × Parcel)}
    (h : UniqueSerials env events)
    (hanswered : ∀ serial ∈ (Machine.after (step env) .start events).mRequestList,
      ∃ reply ∈ parcels, reply.2.serial = serial) (m : Message) :
    delivered m (Machine.after (step env) .start (events ++ replies parcels)) =
      taken env m events := by
  have hobtained := (@after_replies env (Machine.after (step env) .start events) parcels).1
  have hpending := (@after_replies env (Machine.after (step env) .start events) parcels).2
  rw [← Machine.after_append] at hobtained hpending
  have hnone : (Machine.after (step env) .start (events ++ replies parcels)).mRequestList = ∅ := by
    apply Finmap.ext_lookup
    intro serial
    rw [Finmap.lookup_empty, Finmap.lookup_eq_none, hpending]
    rintro ⟨hold, hunnamed⟩
    obtain ⟨reply, hreply, hserial⟩ := hanswered serial hold
    exact hunnamed reply hreply hserial
  have hunique : UniqueSerials env (events ++ replies parcels) := by
    rw [UniqueSerials, hobtained]
    exact h
  have htally := @tally_run env m _ hunique
  rw [tally, waiting, hnone, taken_append, taken_replies] at htally
  exact htally

/-- A call whose request the modem answers with an error. -/
theorem all_delivered_error :
    delivered 7 (Machine.after (step (.sample none)) .start
      ([.command (fun _ => []) (.setRadioPower true (some 7))] ++
        replies [(fun _ => [], ⟨Words.leBytes 0 ++ Words.leBytes 2, 0⟩)])) = 1 := by
  have hone : (Machine.after (step (.sample none)) .start
      [.command (fun _ => []) (.setRadioPower true (some 7))]).obtained = 1 := rfl
  refine all_delivered ?_ ?_ 7
  · intro n hn k hk _
    simp only [hone, Set.mem_ofPred_eq] at hn hk
    omega
  · intro serial hserial
    rcases Finmap.mem_insert.mp hserial with rfl | hempty
    · exact ⟨_, List.mem_singleton_self _, rfl⟩
    · exact absurd hempty Finmap.notMem_empty

end Ril
