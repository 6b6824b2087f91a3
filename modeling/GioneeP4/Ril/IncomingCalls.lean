-- SUMMARY: Incoming calls: which indications are accepted, whatever mode they carry.
import GioneeP4.Ril.Unsolicited

/-!
# Incoming calls

An indication of an incoming call carries five strings. The call id and the
sequence number go back to the modem in one request, with 0 for the mode; the mode
that came is parsed all the same, so it decides whether the call gets through.
-/

namespace Ril

open Prog RilM

/-! ## What an indication asks for -/

/-- The parcel indicates an incoming call, with a call id and a sequence number that parse. -/
structure IncomingCall (env : Env) (p : Parcel) (values : List (Option JString))
    (callId seqNumber : JInt) : Prop where
  label : unsolLabelOf env.constants p.readInt.1 = some .incomingCallIndication
  decodes : ∃ position, UnsolLabel.incomingCallIndication.decoder.decode env p.readInt.2 =
    .ok (.strings values, position)
  length : 5 ≤ values.length
  callId : ∃ text, values[0]? = some text ∧ parseInt text = .ok callId
  seqNumber : ∃ text, values[4]? = some text ∧ parseInt text = .ok seqNumber

/-- The state after the call was accepted: one request, then the forward. -/
def RIL.acceptCall (env : Env) (s : RIL) (p : Parcel) (callId seqNumber : JInt) : RIL :=
  (s.issue env rilRequestSetCallIndication none
    [.int 3, .int 0, .int callId, .int seqNumber]).withEffects
      [.superProcessUnsolicited (rewritten p env.constants.unsolResponseCallStateChanged)]

/-- The call goes back to the modem in one request, and the parcel to the superclass. -/
structure CallAccepted (env : Env) (s : RIL) (p : Parcel) (callId seqNumber : JInt) : Prop where
  outcome : exec (processUnsolicited env p) s = (.ok (), s.acceptCall env p callId seqNumber)
  forwarded : RewriteOf p env.constants.unsolResponseCallStateChanged
    (rewritten p env.constants.unsolResponseCallStateChanged)

/-- The mode of an indication parses. -/
def ModeParses (values : List (Option JString)) : Prop :=
  ∃ text mode, values[3]? = some text ∧ parseInt text = .ok mode

/-! ## Which indications are accepted -/

variable {env : Env} {s : RIL} {p : Parcel} {values : List (Option JString)}
  {callId seqNumber : JInt}

/-- Given its other fields, an indication is readable exactly when its mode parses. -/
theorem IncomingCall.readable_iff (h : IncomingCall env p values callId seqNumber) :
    ReadableCall (.strings values) ↔ ModeParses values := by
  obtain ⟨idText, hidText, hid⟩ := h.callId
  obtain ⟨seqText, hseqText, hseq⟩ := h.seqNumber
  constructor
  · rintro ⟨values', heq, hall⟩
    obtain rfl := Obj.strings.inj heq
    exact hall 3 (by decide)
  · intro hmode
    refine ⟨values, rfl, ?_⟩
    intro i hi
    simp only [List.mem_cons, List.not_mem_nil, or_false] at hi
    rcases hi with rfl | rfl | rfl
    · exact ⟨idText, callId, hidText, hid⟩
    · exact hmode
    · exact ⟨seqText, seqNumber, hseqText, hseq⟩

/-- The fields an accepted indication sends are its call id and its sequence number. -/
theorem IncomingCall.callFields (h : IncomingCall env p values callId seqNumber)
    (hmode : ModeParses values) : Ril.callFields (some values) = .ok (callId, seqNumber) := by
  obtain ⟨text, mode, htext, hparse⟩ := hmode
  have hid : intElement (some values) 0 = .ok callId := intElement_eq_ok_iff.mpr h.callId
  have hmode : intElement (some values) 3 = .ok mode :=
    intElement_eq_ok_iff.mpr ⟨text, htext, hparse⟩
  have hseq : intElement (some values) 4 = .ok seqNumber := intElement_eq_ok_iff.mpr h.seqNumber
  rw [Ril.callFields, hid, hmode, hseq]
  rfl

/-- The code of an indication was there to be read, so it can be written over. -/
theorem IncomingCall.rewriteOf {code : JInt} (h : IncomingCall env p values callId seqNumber) :
    RewriteOf p code (rewritten p code) := by
  apply rewriteOf_rewritten
  apply Parcel.room_of_readInt_ne_zero
  rw [← unsolLabelOf_eq_some_iff.mp h.label]
  exact UnsolLabel.code_ne_zero

/-- An incoming call is accepted exactly when the mode it carries is a number. -/
theorem incoming_call_accepted_iff (h : IncomingCall env p values callId seqNumber) :
    CallAccepted env s p callId seqNumber ↔ ModeParses values := by
  obtain ⟨position, hdecode⟩ := h.decodes
  constructor
  · intro haccepted
    have hreturns : (exec (processUnsolicited env p) s).1 = .ok () := by
      rw [haccepted.outcome]
    obtain ⟨ret, position', hdecode', hreadable⟩ :=
      processUnsolicited_returns_iff.mp hreturns _ h.label
    have hret : ret = .strings values := by
      rw [hdecode] at hdecode'
      exact (Prod.mk.inj (Except.ok.inj hdecode')).1.symm
    rw [hret] at hreadable
    exact h.readable_iff.mp (hreadable rfl)
  · intro hmode
    refine ⟨?_, h.rewriteOf⟩
    have hrequests : ∀ q, unsolRequests .incomingCallIndication (.strings values) q =
        [(rilRequestSetCallIndication, [.int 3, .int 0, .int callId, .int seqNumber])] := by
      intro q
      have hfields : (Obj.strings values).toStringArray >>= Ril.callFields =
          .ok (callId, seqNumber) := h.callFields hmode
      simp only [unsolRequests, hfields]
    rw [exec_processUnsolicited_label h.label hdecode fun _ => h.readable_iff.mpr hmode, hrequests]
    rfl

/-- An instance whose string arrays are always the same. -/
def Env.sampleStrings (values : List (Option JString)) : Env :=
  { Env.sample none with
    decoders := fun
      | .responseStrings, p => .ok (.strings values, p.data.length)
      | decoder, p => decodersAtEnd decoder p }

/-- A call of id 1 with sequence number 7 and a given mode. -/
def sampleCall (mode : Option JString) : List (Option JString) :=
  [some (literal "1"), none, some [], mode, some (literal "7")]

theorem incomingCall_sample {mode : Option JString} :
    IncomingCall (.sampleStrings (sampleCall mode)) ⟨Words.leBytes 3014, 0⟩ (sampleCall mode) 1 7 where
  label := rfl
  decodes := ⟨4, rfl⟩
  length := le_rfl
  callId := ⟨_, rfl, rfl⟩
  seqNumber := ⟨_, rfl, rfl⟩

/-- A call with the mode 0 is accepted. -/
theorem incoming_call_accepted_zero :
    CallAccepted (.sampleStrings (sampleCall (some (literal "0")))) .start
      ⟨Words.leBytes 3014, 0⟩ 1 7 :=
  (incoming_call_accepted_iff incomingCall_sample).mpr ⟨_, 0, rfl, rfl⟩

/-- A call whose mode is null is lost. -/
theorem incoming_call_lost :
    IncomingCall (.sampleStrings (sampleCall none)) ⟨Words.leBytes 3014, 0⟩ (sampleCall none) 1 7 ∧
      ¬CallAccepted (.sampleStrings (sampleCall none)) .start ⟨Words.leBytes 3014, 0⟩ 1 7 := by
  refine ⟨incomingCall_sample, fun haccepted => ?_⟩
  have hthrows : (exec (processUnsolicited (.sampleStrings (sampleCall none))
      ⟨Words.leBytes 3014, 0⟩) .start).1 = .error (.numberFormatException none) := rfl
  rw [haccepted.outcome] at hthrows
  cases hthrows

end Ril
