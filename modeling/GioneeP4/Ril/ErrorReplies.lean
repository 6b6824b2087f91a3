-- SUMMARY: Error replies: when the modem's error code reaches the caller, and when a decoding exception takes its place.
import GioneeP4.Ril.Runs

/-!
# Error replies

A reply that reports an error may carry data, which goes through the decoder
switch like that of a success. What the switch does not list, or its decoder does
not accept, becomes the completion instead of the error code.
-/

namespace Ril

open Prog RilM

/-- A reply with an error code to a pending request that has a message. -/
structure ErrorReply (s : RIL) (p : Parcel) (rr : RILRequest) (message : Message) : Prop where
  pending : s.mRequestList.lookup p.serial = some rr
  result : rr.mResult = some message
  failed : p.error ≠ 0

/-- The message gets what `rr.onError` makes of the error code, and nothing else happens. -/
def ReportsError (env : Env) (props : Properties) (s : RIL) (p : Parcel) (message : Message) :
    Prop :=
  ∃ ret, (exec (processSolicited env props p) s).2.effects =
    s.effects ++ [.completed message (.onError p.error ret)]

/-- The switch lists the request's code, and the decoder there accepts the payload. -/
def PayloadDecodes (env : Env) (props : Properties) (rr : RILRequest) (payload : Parcel) : Prop :=
  ∃ decoder decoded,
    decoderOf env.constants (convertModemVersion env props rr).mRequest = some decoder ∧
      decoder.decode env payload = .ok decoded

variable {env : Env} {props : Properties} {s : RIL} {p : Parcel} {rr : RILRequest}
  {message : Message}

theorem payloadDecodes_iff {payload : Parcel} :
    PayloadDecodes env props rr payload ↔
      ∃ ret, decodeSolicited env (convertModemVersion env props rr) payload = .ok ret := by
  unfold PayloadDecodes decodeSolicited
  constructor
  · rintro ⟨decoder, decoded, hdecoder, hdecode⟩
    rw [hdecoder]
    exact ⟨decoded.1, by simp only [hdecode]; rfl⟩
  · rintro ⟨ret, hret⟩
    split at hret
    · rename_i decoder hdecoder
      cases hdecode : decoder.decode env payload with
      | error tr =>
        rw [hdecode] at hret
        cases hret
      | ok decoded => exact ⟨decoder, decoded, hdecoder, hdecode⟩
    · cases hret

/-- The one effect of a reply to a pending request with a message. -/
theorem ErrorReply.effects (h : ErrorReply s p rr message) :
    (exec (processSolicited env props p) s).2.effects =
      s.effects ++ [.completed message (completionOf env props rr p)] := by
  rw [(exec_processSolicited_pending h.pending).1, RIL.answer, h.result]
  rfl

/-- Without a payload the error code is all there is. -/
theorem completionOf_of_empty (hfailed : p.error ≠ 0) (hempty : p.payload.dataAvail = 0) :
    completionOf env props rr p = .onError p.error .null := by
  have hskip : ¬(p.error = 0 ∨ p.payload.dataAvail > 0) := by
    rintro (hsuccess | hdata)
    · exact hfailed hsuccess
    · omega
  rw [completionOf, if_neg hskip]
  exact if_pos hfailed

/-- With a payload the outcome of the decoder decides. -/
theorem completionOf_of_data (hfailed : p.error ≠ 0) (hdata : p.payload.dataAvail ≠ 0) :
    completionOf env props rr p =
      match decodeSolicited env (convertModemVersion env props rr) p.payload with
      | .ok ret => .onError p.error ret
      | .error tr => .asyncResult .null (some tr) := by
  have hdecode : p.error = 0 ∨ p.payload.dataAvail > 0 := .inr (Nat.pos_of_ne_zero hdata)
  rw [completionOf, if_pos hdecode]
  cases decodeSolicited env (convertModemVersion env props rr) p.payload with
  | ok ret => exact if_pos hfailed
  | error tr => rfl

/-- The error code gets through exactly when no payload comes with it or the payload decodes. -/
theorem error_reported_iff (h : ErrorReply s p rr message) :
    ReportsError env props s p message ↔
      (p.payload.dataAvail = 0 ∨ PayloadDecodes env props rr p.payload) := by
  have hcompletion : ReportsError env props s p message ↔
      ∃ ret, completionOf env props rr p = .onError p.error ret := by
    unfold ReportsError
    simp only [h.effects, List.append_cancel_left_eq, List.cons.injEq, Effect.completed.injEq,
      true_and, and_true]
  rw [hcompletion, payloadDecodes_iff]
  by_cases hempty : p.payload.dataAvail = 0
  · exact iff_of_true ⟨.null, completionOf_of_empty h.failed hempty⟩ (.inl hempty)
  · rw [completionOf_of_data h.failed hempty]
    cases decodeSolicited env (convertModemVersion env props rr) p.payload with
    | ok ret => exact iff_of_true ⟨ret, rfl⟩ (.inr ⟨ret, rfl⟩)
    | error tr =>
      apply iff_of_false
      · rintro ⟨ret, hret⟩
        cases hret
      · rintro (hzero | ⟨ret, hret⟩)
        · exact hempty hzero
        · cases hret

/-- An instance that asked the modem to switch the radio on. -/
def radioPowerRequested : RIL :=
  Machine.after (step (.sample none)) .start [.command (fun _ => []) (.setRadioPower true (some 7))]

/-- The error code 2 for the first request, followed by a payload. -/
def failedReply (payload : List (BitVec 8)) : Parcel :=
  ⟨Words.leBytes 0 ++ Words.leBytes 2 ++ payload, 0⟩

theorem errorReply_radioPower {payload : List (BitVec 8)} :
    ErrorReply radioPowerRequested (failedReply payload)
      ⟨0, rilRequestDualSimModeSwitch, some 7, [.int 1, .int 3]⟩ 7 where
  pending := rfl
  result := rfl
  failed := by
    have herror : (failedReply payload).error = 2 := rfl
    rw [herror]
    decide

/-- A failure without data reaches the caller. -/
theorem error_reported_radioPower :
    ReportsError (.sample none) (fun _ => []) radioPowerRequested (failedReply []) 7 :=
  (error_reported_iff errorReply_radioPower).mpr (.inl rfl)

/-- With data the caller gets an exception about the request's code. -/
theorem error_masked_radioPower :
    ErrorReply radioPowerRequested (failedReply (Words.leBytes 0))
        ⟨0, rilRequestDualSimModeSwitch, some 7, [.int 1, .int 3]⟩ 7 ∧
      ¬ReportsError (.sample none) (fun _ => []) radioPowerRequested
        (failedReply (Words.leBytes 0)) 7 := by
  refine ⟨errorReply_radioPower, ?_⟩
  rintro ⟨ret, heffects⟩
  have hmasked : (exec (processSolicited (.sample none) (fun _ => [])
      (failedReply (Words.leBytes 0))) radioPowerRequested).2.effects.getLast? =
        some (.completed 7 (.asyncResult .null
          (some (.runtimeException "Unrecognized solicited response: 2012")))) := rfl
  rw [heffects, List.getLast?_concat] at hmasked
  cases hmasked

end Ril
