-- SUMMARY: Runs of a RIL instance: every request is answered at most once, and which success replies complete without an exception.
import GioneeP4.Lib.RequestReply
import GioneeP4.Ril.Unsolicited

/-!
# Runs of a RIL instance

A run interleaves calls, unsolicited parcels and replies in any order. Everything
but a reply only issues requests; a reply takes one pending request out. So a run
refines the ledger of requests and replies, and what holds of balanced ledgers
holds of the pending list.
-/

namespace Ril

open Prog RilM

/-! ## Events -/

/-- A request of an operation this class inherits. -/
def inheritedRequest (env : Env) (request : JInt) (result : Option Message) (body : List Datum) :
    RilM Unit := do
  let rr ← obtain env request result
  send (rr.write body)

inductive Event
  | command (props : Properties) (command : Command)
  | inherited (request : JInt) (result : Option Message) (body : List Datum)
  | unsolicited (p : Parcel)
  | solicited (props : Properties) (p : Parcel)

def step (env : Env) (s : RIL) : Event → RIL
  | .command props command => (exec (command.run env props) s).2
  | .inherited request result body => (exec (inheritedRequest env request result body) s).2
  | .unsolicited p => (exec (processUnsolicited env p) s).2
  | .solicited props p => (exec (processSolicited env props p) s).2

/-! ## What everything but a reply does -/

def Effect.sentSerial : Effect → Option JInt
  | .sent rr => some rr.mSerial
  | .completed _ _ | .notifiedSubscriptionStatus _ | .superProcessUnsolicited _ => none

/-- The serials of the requests sent, in order. -/
def sentSerials (effects : List Effect) : List JInt := effects.filterMap Effect.sentSerial

@[simp] theorem sentSerials_append {l₁ l₂ : List Effect} :
    sentSerials (l₁ ++ l₂) = sentSerials l₁ ++ sentSerials l₂ := List.filterMap_append

/-- Requests issued, serials lost and other effects, in any order. -/
inductive Progress (env : Env) (s : RIL) : RIL → Prop
  | refl : Progress env s s
  | issue {t : RIL} (h : Progress env s t) (request : JInt) (result : Option Message)
      (body : List Datum) : Progress env s (t.issue env request result body)
  | lose {t : RIL} (h : Progress env s t) : Progress env s { t with obtained := t.obtained + 1 }
  | note {t : RIL} (h : Progress env s t) (effects : List Effect)
      (hsent : sentSerials effects = []) : Progress env s (t.withEffects effects)

variable {env : Env} {props : Properties} {s t : RIL}

theorem Progress.issueAll {requests : List (JInt × List Datum)} (h : Progress env s t) :
    Progress env s (t.issueAll env requests) := by
  induction requests generalizing t with
  | nil => exact h
  | cons request requests ih => exact ih (h.issue request.1 none request.2)

/-- An operation that answers at once completes a message or throws. -/
theorem progress_sendAsyncResult {result : Option Message} {ret : Obj}
    {exception : Option Throwable} :
    Progress env s (exec (sendAsyncResult result ret exception) s).2 := by
  cases result with
  | none => exact .refl
  | some message => exact .note .refl [.completed message (.asyncResult ret exception)] rfl

theorem sentSerials_subscriptionEffects {subStatus : JInt} :
    sentSerials (subscriptionEffects env subStatus) = [] := by
  unfold subscriptionEffects
  split <;> rfl

theorem progress_command {command : Command} :
    Progress env s (exec (command.run env props) s).2 := by
  cases command with
  | setupDataCall radioTechnology profile apn user password authType protocol result =>
    rw [Command.run, exec_setupDataCall]
    exact .issue .refl _ _ _
  | setRadioPower on result =>
    rw [Command.run, exec_setRadioPower]
    split
    · exact .issue .refl _ _ _
    · exact .refl
  | setUiccSubscription slotId appIndex subId subStatus result =>
    cases result with
    | none =>
      have hthrow : (exec (setUiccSubscription env slotId appIndex subId subStatus none) s).2 = s :=
        rfl
      rw [Command.run, hthrow]
      exact .refl
    | some message =>
      rw [Command.run, exec_setUiccSubscription]
      apply Progress.note .refl
      exact sentSerials_subscriptionEffects
  | setDataSubscription response => exact progress_sendAsyncResult
  | setDefaultVoiceSub subIndex response => exact progress_sendAsyncResult

theorem progress_rewriteUnsolicited {label : UnsolLabel} {ret : Obj} {p : Parcel} :
    Progress env s (exec (rewriteUnsolicited env label ret p) s).2 := by
  by_cases hcall : label = .incomingCallIndication → ReadableCall ret
  · rw [exec_rewriteUnsolicited hcall]
    exact Progress.issueAll .refl
  · rw [Classical.not_imp] at hcall
    obtain ⟨rfl, hcall⟩ := hcall
    simp only [rewriteUnsolicited, exec_bind, exec_liftExcept]
    cases ret.toStringArray with
    | error tr => exact .refl
    | ok array =>
      simp only [exec_setCallIndication]
      cases callFields array with
      | error tr => exact .lose .refl
      | ok fields => exact .issue .refl _ _ _

theorem progress_processUnsolicited {p : Parcel} :
    Progress env s (exec (processUnsolicited env p) s).2 := by
  cases hlabel : unsolLabelOf env.constants p.readInt.1 with
  | none =>
    rw [exec_processUnsolicited_default hlabel]
    exact .note .refl _ rfl
  | some label =>
    simp only [processUnsolicited, hlabel, exec_bind, exec_liftExcept]
    cases label.decoder.decode env p.readInt.2 with
    | error tr => exact .refl
    | ok decoded =>
      have hprogress : Progress env s (exec (rewriteUnsolicited env label decoded.1
          (p.readInt.2.setDataPosition decoded.2)) s).2 := progress_rewriteUnsolicited
      simp only
      split
      · rename_i code t hexec
        rw [hexec] at hprogress
        cases code with
        | none => exact hprogress
        | some code => exact .note hprogress _ rfl
      · rename_i tr t hexec
        rw [hexec] at hprogress
        exact hprogress

/-! ## The pending list is a ledger -/

/-- The moves of a ledger tell the story of an instance. -/
structure Tracks (env : Env) (moves : List (RequestReply.Move JInt)) (s : RIL) : Prop where
  pending : (Machine.after RequestReply.Ledger.step .empty moves).pending = s.mRequestList.keys
  issued : RequestReply.issued moves = sentSerials s.effects
  /-- The serials sent are some of those obtained, in order. -/
  obtained : ∃ places : List Nat, places.Pairwise (· < ·) ∧ (∀ n ∈ places, n < s.obtained) ∧
    sentSerials s.effects = places.map env.serialOf

theorem tracks_start : Tracks env [] .start where
  pending := rfl
  issued := rfl
  obtained := ⟨[], .nil, by simp, rfl⟩

theorem keys_insert {requests : Finmap fun _ : JInt => RILRequest} {serial : JInt}
    {rr : RILRequest} : (requests.insert serial rr).keys = insert serial requests.keys := by
  ext other
  simp [Finmap.mem_keys]

theorem Tracks.issue {moves : List (RequestReply.Move JInt)} (h : Tracks env moves s)
    (request : JInt) (result : Option Message) (body : List Datum) :
    Tracks env (moves ++ [.issue (env.serialOf s.obtained)])
      (s.issue env request result body) where
  pending := by
    simp [RIL.issue, RequestReply.Ledger.step, h.pending, keys_insert]
  issued := by
    rw [RequestReply.issued_concat_issue, h.issued]
    simp [RIL.issue, sentSerials, Effect.sentSerial]
  obtained := by
    obtain ⟨places, hincreasing, hbound, hserials⟩ := h.obtained
    refine ⟨places ++ [s.obtained], ?_, ?_, ?_⟩
    · simpa [List.pairwise_append] using ⟨hincreasing, hbound⟩
    · intro n hn
      rcases List.mem_append.mp hn with hold | hnew
      · exact Nat.lt_succ_of_lt (hbound n hold)
      · rw [List.mem_singleton.mp hnew]
        exact Nat.lt_succ_self _
    · rw [List.map_append, ← hserials]
      simp [RIL.issue, sentSerials, Effect.sentSerial]

theorem Tracks.lose {moves : List (RequestReply.Move JInt)} (h : Tracks env moves s) :
    Tracks env moves { s with obtained := s.obtained + 1 } where
  pending := h.pending
  issued := h.issued
  obtained := by
    obtain ⟨places, hincreasing, hbound, hserials⟩ := h.obtained
    exact ⟨places, hincreasing, fun n hn => Nat.lt_succ_of_lt (hbound n hn), hserials⟩

theorem Tracks.note {moves : List (RequestReply.Move JInt)} {effects : List Effect}
    (h : Tracks env moves s) (hsent : sentSerials effects = []) :
    Tracks env moves (s.withEffects effects) := by
  have hserials : sentSerials (s.withEffects effects).effects = sentSerials s.effects := by
    simp [RIL.withEffects, hsent]
  exact ⟨h.pending, by rw [hserials, h.issued], by rw [hserials]; exact h.obtained⟩

/-- Progress adds issues to the story, and answers nothing. -/
theorem Tracks.progress {moves : List (RequestReply.Move JInt)} (h : Tracks env moves s)
    (hprogress : Progress env s t) :
    ∃ more, Tracks env (moves ++ more) t ∧
      (Machine.after RequestReply.Ledger.step .empty (moves ++ more)).answered =
        (Machine.after RequestReply.Ledger.step .empty moves).answered := by
  induction hprogress with
  | refl => exact ⟨[], by simpa using h, by simp⟩
  | @issue t _ request result body ih =>
    obtain ⟨more, htracks, hanswered⟩ := ih
    refine ⟨more ++ [.issue (env.serialOf t.obtained)], ?_, ?_⟩
    · rw [← List.append_assoc]
      exact htracks.issue request result body
    · rw [← List.append_assoc, Machine.after_append, ← hanswered]
      rfl
  | lose _ ih =>
    obtain ⟨more, htracks, hanswered⟩ := ih
    exact ⟨more, htracks.lose, hanswered⟩
  | note _ effects hsent ih =>
    obtain ⟨more, htracks, hanswered⟩ := ih
    exact ⟨more, htracks.note hsent, hanswered⟩

/-- The serial of the pending request an event answers. -/
def answeredBy (s : RIL) : Event → Option JInt
  | .solicited _ p => if p.serial ∈ s.mRequestList then some p.serial else none
  | .command _ _ | .inherited _ _ _ | .unsolicited _ => none

theorem sentSerials_deliver {result : Option Message} {completion : Completion} :
    sentSerials (deliver result completion) = [] := by
  cases result <;> rfl

/-- A reply is a reply to the ledger. -/
theorem Tracks.solicited {moves : List (RequestReply.Move JInt)} {p : Parcel}
    (h : Tracks env moves s) :
    Tracks env (moves ++ [.reply p.serial]) (step env s (.solicited props p)) ∧
      (Machine.after RequestReply.Ledger.step .empty (moves ++ [.reply p.serial])).answered =
        (Machine.after RequestReply.Ledger.step .empty moves).answered ++
          (answeredBy s (.solicited props p)).toList := by
  have hmem : p.serial ∈ s.mRequestList.keys ↔ p.serial ∈ s.mRequestList := Finmap.mem_keys
  cases hlookup : s.mRequestList.lookup p.serial with
  | none =>
    have hnot : p.serial ∉ s.mRequestList := Finmap.lookup_eq_none.mp hlookup
    have hledger : (Machine.after RequestReply.Ledger.step .empty (moves ++ [.reply p.serial])) =
        Machine.after RequestReply.Ledger.step .empty moves := by
      rw [Machine.after_append]
      exact if_neg (by rw [h.pending, hmem]; exact hnot)
    rw [step, exec_processSolicited_unknown hlookup]
    refine ⟨⟨?_, ?_, h.obtained⟩, ?_⟩
    · rw [hledger]
      exact h.pending
    · rw [RequestReply.issued_concat_reply]
      exact h.issued
    · simp [hledger, answeredBy, hnot]
  | some rr =>
    have hin : p.serial ∈ s.mRequestList := Finmap.mem_iff.mpr ⟨rr, hlookup⟩
    have hledger : (Machine.after RequestReply.Ledger.step .empty (moves ++ [.reply p.serial])) =
        ⟨s.mRequestList.keys.erase p.serial,
          (Machine.after RequestReply.Ledger.step .empty moves).answered ++ [p.serial]⟩ := by
      rw [Machine.after_append, ← h.pending]
      exact if_pos (by rw [h.pending, hmem]; exact hin)
    have hserials : sentSerials (s.answer env props rr p).effects = sentSerials s.effects := by
      simp [RIL.answer, sentSerials_deliver]
    rw [step, (exec_processSolicited_pending hlookup).1]
    refine ⟨⟨?_, ?_, ?_⟩, ?_⟩
    · rw [hledger]
      exact (Finmap.keys_erase _ _).symm
    · rw [RequestReply.issued_concat_reply, hserials]
      exact h.issued
    · rw [hserials]
      exact h.obtained
    · simp [hledger, answeredBy, hin]

/-! ## Runs -/

/-- The serials a run answers, in order. -/
def answered (env : Env) (events : List Event) : List JInt :=
  (Machine.steps (step env) .start events).filterMap fun (s, event) => answeredBy s event

/-- Every run refines a ledger that answers the same serials. -/
theorem tracks_after (events : List Event) :
    ∃ moves, Tracks env moves (Machine.after (step env) .start events) ∧
      (Machine.after RequestReply.Ledger.step .empty moves).answered = answered env events := by
  induction events using List.reverseRecOn with
  | nil => exact ⟨[], tracks_start, rfl⟩
  | append_singleton events event ih =>
    obtain ⟨moves, htracks, hanswered⟩ := ih
    have hconcat : answered env (events ++ [event]) = answered env events ++
        (answeredBy (Machine.after (step env) .start events) event).toList := by
      rw [answered, Machine.steps_concat, List.filterMap_append, answered]
      cases hby : answeredBy (Machine.after (step env) .start events) event <;> simp [hby]
    rw [Machine.after_append, hconcat, ← hanswered]
    have hprogress : ∀ t, Progress env (Machine.after (step env) .start events) t →
        ∃ moves', Tracks env moves' t ∧
          (Machine.after RequestReply.Ledger.step .empty moves').answered =
            (Machine.after RequestReply.Ledger.step .empty moves).answered ++ [] := by
      intro t ht
      obtain ⟨more, hmore, hsame⟩ := htracks.progress ht
      exact ⟨moves ++ more, hmore, by rw [hsame, List.append_nil]⟩
    cases event with
    | command props command => exact hprogress _ progress_command
    | inherited request result body =>
      exact hprogress _ (.issue .refl request result body)
    | unsolicited p => exact hprogress _ progress_processUnsolicited
    | solicited props p => exact ⟨_, htracks.solicited⟩

/-- The serials obtained in a run are distinct. -/
def UniqueSerials (env : Env) (events : List Event) : Prop :=
  Set.InjOn env.serialOf {n | n < (Machine.after (step env) .start events).obtained}

/-- What one reply does to the instance. -/
def AnswersOnce (env : Env) (props : Properties) (s : RIL) (p : Parcel) : Prop :=
  match s.mRequestList.lookup p.serial with
  | none => exec (processSolicited env props p) s = (.ok none, s)
  | some rr =>
      ∃ answered completion, exec (processSolicited env props p) s =
        (.ok (some answered), { s with
          mRequestList := s.mRequestList.erase p.serial
          effects := s.effects ++ deliver rr.mResult completion }) ∧
        answered.mSerial = rr.mSerial

theorem answersOnce {p : Parcel} : AnswersOnce env props s p := by
  unfold AnswersOnce
  cases hlookup : s.mRequestList.lookup p.serial with
  | none => exact exec_processSolicited_unknown hlookup
  | some rr =>
    obtain ⟨hstate, answered, hreturns, hserial⟩ := exec_processSolicited_pending hlookup
    exact ⟨answered, completionOf env props rr p, Prod.ext hreturns hstate, hserial⟩

/-- The ledger a run refines is balanced. -/
theorem balanced_run {events : List Event} (h : UniqueSerials env events) :
    let s := Machine.after (step env) .start events
    ∃ ledger : RequestReply.Ledger JInt, RequestReply.Balanced (sentSerials s.effects) ledger ∧
      ledger.pending = s.mRequestList.keys ∧ ledger.answered = answered env events := by
  intro s
  obtain ⟨moves, htracks, hanswered⟩ := @tracks_after env events
  obtain ⟨places, hincreasing, hbound, hserials⟩ := htracks.obtained
  have hnodup : (sentSerials s.effects).Nodup := by
    rw [hserials]
    apply List.Nodup.map_on
    · intro n hn m hm heq
      exact h (hbound n hn) (hbound m hm) heq
    · exact hincreasing.imp Nat.ne_of_lt
  refine ⟨Machine.after RequestReply.Ledger.step .empty moves, ?_, htracks.pending, hanswered⟩
  rw [← htracks.issued] at hnodup ⊢
  exact RequestReply.balanced_after hnodup

/-- A request sent in a run is pending or answered, and never both. -/
theorem sent_pending_or_answered {events : List Event} (h : UniqueSerials env events)
    {serial : JInt} :
    let s := Machine.after (step env) .start events
    serial ∈ sentSerials s.effects ↔
      (serial ∈ s.mRequestList ∧ serial ∉ answered env events) ∨
        (serial ∉ s.mRequestList ∧ serial ∈ answered env events) := by
  intro s
  obtain ⟨ledger, hbalanced, hpending, hanswered⟩ := balanced_run h
  have hcomplete := hbalanced.complete serial
  have hdisjoint := hbalanced.disjoint serial
  rw [hpending, hanswered, Finmap.mem_keys] at hcomplete
  rw [hpending, hanswered, Finmap.mem_keys] at hdisjoint
  tauto

/-- Exactly-once completion. In every run with unique serials each reply answers the
    request it names once, or does nothing, and no request is answered twice. -/
theorem exactly_once_completion {events : List Event} (h : UniqueSerials env events) :
    (∀ s props p, (s, Event.solicited props p) ∈ Machine.steps (step env) .start events →
      AnswersOnce env props s p) ∧
    (answered env events).Nodup := by
  obtain ⟨ledger, hbalanced, -, hanswered⟩ := balanced_run h
  refine ⟨fun s props p _ => answersOnce, ?_⟩
  rw [← hanswered]
  exact hbalanced.nodup

/-- A request, the reply to it, and the same reply again. -/
theorem exactly_once_completion_repeated :
    let reply : Event := .solicited (fun _ => []) ⟨Words.leBytes 0 ++ Words.leBytes 0, 0⟩
    let events := [.command (fun _ => []) (.setRadioPower true (some 7)), reply, reply]
    (∀ s props p, (s, Event.solicited props p) ∈ Machine.steps (step (.sample none)) .start events →
      AnswersOnce (.sample none) props s p) ∧
    (answered (.sample none) events).Nodup := by
  intro reply events
  apply exactly_once_completion
  intro n hn m hm _
  have hone : (Machine.after (step (.sample none)) .start events).obtained = 1 := rfl
  simp only [hone, Set.mem_ofPred_eq] at hn hm
  omega

end Ril
