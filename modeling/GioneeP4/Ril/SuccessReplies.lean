-- SUMMARY: Success replies to the requests of the class itself, and the senders whose code the decoder switch does not list.
import GioneeP4.Ril.Runs

/-!
# Success replies

The class sends five kinds of requests. Only `SETUP_DATA_CALL` has a decoder in
the switch of `processSolicited`; a success reply to any of the other four runs
into its `default` and becomes an exception.
-/

namespace Ril

open Prog RilM

/-- The codes of the requests this class sends itself. -/
def ownRequests (c : RILConstants) : List JInt :=
  [c.request .setupDataCall, rilRequestDualSimModeSwitch, rilRequestSetCallIndication,
    rilRequestSetGprsTransferType, rilRequestSetGprsConnectType]

/-- The payload of a success reply: well formed for a data call, empty for the others. -/
def SuccessPayload (env : Env) (wellFormed : Parcel → Prop) (rr : RILRequest) (payload : Parcel) :
    Prop :=
  if rr.mRequest = env.constants.request .setupDataCall then wellFormed payload
  else payload.dataAvail = 0

/-- A reply of a run that reports success for a pending request of this class. -/
structure SuccessReply (env : Env) (wellFormed : Parcel → Prop) (events : List Event) (s : RIL)
    (props : Properties) (p : Parcel) (rr : RILRequest) : Prop where
  run : (s, Event.solicited props p) ∈ Machine.steps (step env) .start events
  pending : s.mRequestList.lookup p.serial = some rr
  own : rr.mRequest ∈ ownRequests env.constants
  success : p.error = 0
  payload : SuccessPayload env wellFormed rr p.payload

/-- The reply decodes, and its message, if any, gets a result with a null exception. -/
def CompletesCleanly (env : Env) (props : Properties) (s : RIL) (p : Parcel) (rr : RILRequest) :
    Prop :=
  ∃ ret, decodeSolicited env (convertModemVersion env props rr) p.payload = .ok ret ∧
    (exec (processSolicited env props p) s).2.effects =
      s.effects ++ deliver rr.mResult (.asyncResult ret none)

variable {env : Env} {props : Properties} {s : RIL} {p : Parcel} {rr : RILRequest}

theorem own_request_cases (h : rr.mRequest ∈ ownRequests env.constants) :
    rr.mRequest = env.constants.request .setupDataCall ∨
      (220 < rr.mRequest.toNat ∧ rr.mRequest ≠ env.constants.request .setupDataCall) := by
  have hlow := env.constants.request_lt .setupDataCall
  have hhigh : ∀ code ∈ [rilRequestDualSimModeSwitch, rilRequestSetCallIndication,
      rilRequestSetGprsTransferType, rilRequestSetGprsConnectType], 220 < code.toNat := by
    intro code hcode
    simp only [List.mem_cons, List.not_mem_nil, or_false] at hcode
    rcases hcode with rfl | rfl | rfl | rfl <;> decide
  rcases List.mem_cons.mp h with hsetup | hmtk
  · exact .inl hsetup
  · have hcode := hhigh _ hmtk
    refine .inr ⟨hcode, ?_⟩
    intro heq
    rw [heq] at hcode
    omega

/-- The requests of this class are never taken for the modem version. -/
theorem convertModemVersion_own (h : rr.mRequest ∈ ownRequests env.constants) :
    convertModemVersion env props rr = rr := by
  apply convertModemVersion_of_ne
  intro heq
  rcases own_request_cases h with hsetup | ⟨hcode, -⟩
  · have hlow := env.constants.request_lt .setupDataCall
    rw [← hsetup, heq] at hlow
    exact absurd hlow (by decide)
  · rw [heq] at hcode
    exact absurd hcode (by decide)

/-- A success reply that decodes completes with what it decodes to. -/
theorem effects_of_decoded {ret : Obj} (hpending : s.mRequestList.lookup p.serial = some rr)
    (hsuccess : p.error = 0)
    (hdecode : decodeSolicited env (convertModemVersion env props rr) p.payload = .ok ret) :
    (exec (processSolicited env props p) s).2.effects =
      s.effects ++ deliver rr.mResult (.asyncResult ret none) := by
  rw [(exec_processSolicited_pending hpending).1, RIL.answer]
  simp [completionOf, hsuccess, hdecode]

/-- A success reply to a request of the class completes without an exception exactly when
    the request is a data call. -/
theorem success_reply_clean_iff {wellFormed : Parcel → Prop} {events : List Event}
    (hdecoder : ∀ q, wellFormed q → ∃ decoded, env.decoders .responseSetupDataCall q = .ok decoded)
    (hreply : SuccessReply env wellFormed events s props p rr) :
    CompletesCleanly env props s p rr ↔
      rr.mRequest = env.constants.request .setupDataCall := by
  have hsame : convertModemVersion env props rr = rr := convertModemVersion_own hreply.own
  constructor
  · rintro ⟨ret, hdecode, -⟩
    rcases own_request_cases hreply.own with hsetup | ⟨hcode, -⟩
    · exact hsetup
    · have hnone : decoderOf env.constants rr.mRequest = none := decoderOf_eq_none hcode.le
      rw [hsame, decodeSolicited, hnone] at hdecode
      cases hdecode
  · intro hsetup
    have hpayload := hreply.payload
    rw [SuccessPayload, if_pos hsetup] at hpayload
    obtain ⟨decoded, hdecoded⟩ := hdecoder _ hpayload
    have hcase : decoderOf env.constants rr.mRequest = some .responseSetupDataCall := by
      rw [hsetup]
      exact @decoderOf_code _ (.aosp .setupDataCall) _ (by decide)
    have hdecode : decodeSolicited env (convertModemVersion env props rr) p.payload =
        .ok decoded.1 := by
      rw [hsame, decodeSolicited, hcase]
      simp only [Decoder.decode, hdecoded]
      rfl
    exact ⟨decoded.1, hdecode, effects_of_decoded hreply.pending hreply.success hdecode⟩

/-- An instance whose data call decoder accepts what it is given. -/
def Env.sampleDataCalls : Env :=
  { Env.sample none with
    decoders := fun
      | .responseSetupDataCall, p => .ok (.other 0, p.data.length)
      | decoder, p => decodersAtEnd decoder p }

/-- The reply to a data call that could not be set up: serial 0, no error, then one call of
    version 6 with its status and null strings. -/
def dataCallReply : Parcel :=
  ⟨[0, 0, 6, 1, 65535, 0, 0, 0, -1, -1, -1, -1, -1].flatMap Words.leBytes, 0⟩

/-- The reply to a data call completes cleanly. -/
theorem success_reply_clean_dataCall :
    let call : Event := .command (fun _ => [])
      (.setupDataCall none none none none none none none (some 7))
    let rr : RILRequest := ⟨0, aosp.request .setupDataCall, some 7,
      [.int 8, .string none, .string none, .string none, .string none, .string none, .string none,
        .string none, .string (some (literal "1"))]⟩
    CompletesCleanly .sampleDataCalls (fun _ => []) (step .sampleDataCalls .start call)
        dataCallReply rr ↔
      rr.mRequest = aosp.request .setupDataCall := by
  intro call rr
  have hreply : SuccessReply .sampleDataCalls (· = dataCallReply.payload)
      [call, .solicited (fun _ => []) dataCallReply] (step .sampleDataCalls .start call)
      (fun _ => []) dataCallReply rr := by
    refine ⟨?_, rfl, List.mem_cons_self, rfl, ?_⟩
    · exact List.mem_cons_of_mem _ List.mem_cons_self
    · have hsetup : rr.mRequest = Env.sampleDataCalls.constants.request .setupDataCall := rfl
      rw [SuccessPayload, if_pos hsetup]
  exact success_reply_clean_iff (fun q _ => ⟨(.other 0, q.data.length), rfl⟩) hreply

/-- The modem switched the radio on and said so; the caller gets an exception. -/
theorem setRadioPower_success_fails :
    let call : Event := .command (fun _ => []) (.setRadioPower true (some 7))
    let reply : Event := .solicited (fun _ => []) ⟨Words.leBytes 0 ++ Words.leBytes 0, 0⟩
    (Machine.after (step (.sample none)) .start [call, reply]).effects.getLast? =
      some (.completed 7 (.asyncResult .null
        (some (.runtimeException "Unrecognized solicited response: 2012")))) := rfl

end Ril
