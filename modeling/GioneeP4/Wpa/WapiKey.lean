-- SUMMARY: The copies of a WAPI key message: an over-long sequence number is refused, an over-long key overruns its array.
import GioneeP4.Wpa.Delivery

/-!
# WAPI keys

`wpa_driver_nl80211_set_wapi_key` copies the key and the sequence number into
arrays of the message. It compares the length of the sequence number with its
array and copies the key unchecked.
-/

namespace Wpa

open Prog CText

variable {env : Env} {p : WapiKeyParam}

/-- The pointers reach as far as their lengths say. -/
structure WapiKeyParam.Spans (p : WapiKeyParam) : Prop where
  key : ∀ key, p.key = some key → p.keyLen ≤ key.length
  seq : ∀ seq, p.seq = some seq → p.seqLen ≤ seq.length

/-- The bytes that are copied to the arrays of the message. -/
def WapiKeyParam.keyBytes (p : WapiKeyParam) : List Byte := (p.key.getD []).take p.keyLen

def WapiKeyParam.seqBytes (p : WapiKeyParam) : List Byte := (p.seq.getD []).take p.seqLen

/-- The arrays of the message have their capacity and start with the inputs. -/
structure Carries (layout : WapiLayout) (msg : WapiKeyMsg) (p : WapiKeyParam) : Prop where
  length_key : msg.key.length = layout.keyCapacity
  length_txSeq : msg.txSeq.length = layout.iwEncodeSeqMaxSize * 2
  key : p.keyBytes <+: msg.key
  txSeq : p.seqBytes <+: msg.txSeq

/-- A key is refused, or sent in one message that carries it; over-long inputs are refused. -/
structure WapiKeyContained (env : Env) (p : WapiKeyParam) : Prop where
  outcome : Refuses (wpaDriverNl80211SetWapiKey env.delivering p) ∨
    ∃ msg, SendsOne (wpaDriverNl80211SetWapiKey env.delivering p) (.wapiKey msg) ∧
      Carries env.wapiLayout msg p
  long_key : p.key ≠ none → env.wapiLayout.keyCapacity < p.keyLen →
    Refuses (wpaDriverNl80211SetWapiKey env.delivering p)
  long_seq : p.seq ≠ none → env.wapiLayout.iwEncodeSeqMaxSize * 2 < p.seqLen →
    Refuses (wpaDriverNl80211SetWapiKey env.delivering p)

theorem refuses_of_long_seq (h : env.wapiLayout.iwEncodeSeqMaxSize * 2 < p.seqLen) :
    Refuses (wpaDriverNl80211SetWapiKey env.delivering p) := by
  have hlong : p.seqLen > env.delivering.wapiLayout.iwEncodeSeqMaxSize * 2 := h
  intro s
  refine ⟨s, ?_, rfl⟩
  rw [wpaDriverNl80211SetWapiKey, if_pos hlong, exec_pure]

/-- What fits in an array fills it from the start. -/
theorem padded_of_fits {capacity : Nat} {bytes : List Byte} (h : bytes.length ≤ capacity) :
    ∃ all, padded capacity bytes = some all ∧ all.length = capacity ∧ bytes <+: all := by
  refine ⟨_, if_pos h, ?_, List.prefix_append ..⟩
  rw [List.length_append, List.length_replicate, Nat.add_sub_cancel' h]

/-- Inputs that fit are sent. -/
theorem sendsOne_of_fits (hkey : p.keyBytes.length ≤ env.wapiLayout.keyCapacity)
    (hseq : p.seqLen ≤ env.wapiLayout.iwEncodeSeqMaxSize * 2) :
    ∃ msg, SendsOne (wpaDriverNl80211SetWapiKey env.delivering p) (.wapiKey msg) ∧
      Carries env.wapiLayout msg p := by
  have hseqBytes : p.seqBytes.length ≤ env.wapiLayout.iwEncodeSeqMaxSize * 2 :=
    (List.length_take_le ..).trans hseq
  obtain ⟨key, hpadded, hlength, hstart⟩ := padded_of_fits hkey
  obtain ⟨txSeq, hpadded', hlength', hstart'⟩ := padded_of_fits hseqBytes
  obtain ⟨msg, hmessage, rfl, rfl⟩ : ∃ msg, wapiMessage env.wapiLayout p = some (.wapiKey msg) ∧
      msg.key = key ∧ msg.txSeq = txSeq := by
    unfold WapiKeyParam.keyBytes at hpadded
    unfold WapiKeyParam.seqBytes at hpadded'
    rw [wapiMessage, if_neg (by omega), hpadded, hpadded']
    exact ⟨_, rfl, rfl, rfl⟩
  refine ⟨msg, fun s => ?_, hlength, hlength', hstart, hstart'⟩
  have hmessage' : wapiMessage env.delivering.wapiLayout p = some (.wapiKey msg) := hmessage
  obtain ⟨q, t, htestmode, hsent⟩ := @exec_testmode_delivering env (.wapiKey msg) .none s
  exact ⟨t, (exec_setWapiKey hmessage').trans (exec_bind_of_ok htestmode), hsent⟩

/-- A key that does not fit overruns its array. -/
theorem exec_of_long_key {s : CmdState} (hkey : env.wapiLayout.keyCapacity < p.keyBytes.length)
    (hseq : p.seqLen ≤ env.wapiLayout.iwEncodeSeqMaxSize * 2) :
    exec (wpaDriverNl80211SetWapiKey env.delivering p) s = (.error (.overflow .wapiKey), s) := by
  have hshort : ¬p.seqLen > env.delivering.wapiLayout.iwEncodeSeqMaxSize * 2 := not_lt.mpr hseq
  have hlong : ¬((p.key.getD []).take p.keyLen).length ≤ env.delivering.wapiLayout.keyCapacity :=
    not_le.mpr hkey
  rw [wpaDriverNl80211SetWapiKey, if_neg hshort]
  apply exec_bind_of_error
  rw [copyTo, if_neg hlong]
  rfl

/-- A key is contained in its message unless it is longer than its array and gets past the check
    of the sequence number. -/
theorem wapi_key_contained_iff (h : p.Spans) :
    WapiKeyContained env p ↔ env.wapiLayout.iwEncodeSeqMaxSize * 2 < p.seqLen ∨ p.key = none ∨
      p.keyLen ≤ env.wapiLayout.keyCapacity := by
  constructor
  · intro hcontained
    by_contra hbad
    simp only [not_or, not_lt, not_le] at hbad
    obtain ⟨hseq, hsome, hlong⟩ := hbad
    obtain ⟨key, hkey⟩ := Option.ne_none_iff_exists'.mp hsome
    have hspans := h.key key hkey
    have hbytes : env.wapiLayout.keyCapacity < p.keyBytes.length := by
      rw [WapiKeyParam.keyBytes, hkey, Option.getD_some, List.length_take_of_le hspans]
      exact hlong
    obtain ⟨t, hrefused, -⟩ := hcontained.long_key hsome hlong (.start 0 [])
    rw [exec_of_long_key hbytes hseq] at hrefused
    cases hrefused
  · intro hgood
    by_cases hseq : env.wapiLayout.iwEncodeSeqMaxSize * 2 < p.seqLen
    · have hrefuses := refuses_of_long_seq hseq
      exact ⟨.inl hrefuses, fun _ _ => hrefuses, fun _ _ => hrefuses⟩
    · have hkey := hgood.resolve_left hseq
      have hbytes : p.keyBytes.length ≤ env.wapiLayout.keyCapacity := by
        rcases hkey with hnone | hfits
        · rw [WapiKeyParam.keyBytes, hnone, Option.getD_none, List.take_nil]
          exact Nat.zero_le _
        · exact (List.length_take_le ..).trans hfits
      refine ⟨.inr (sendsOne_of_fits hbytes (not_lt.mp hseq)), ?_, ?_⟩
      · intro hsome hlong
        rcases hkey with hnone | hfits
        · exact absurd hnone hsome
        · omega
      · exact fun _ hlong => absurd hlong hseq

/-- Arrays of 32 bytes for a key and 16 for a sequence number. -/
def Env.wapi : Env := { Env.idle with wapiLayout := ⟨8, 32, 1, 2, 3⟩ }

/-- The parameters of a key with some bytes and no sequence number. -/
def WapiKeyParam.zeros (n : Nat) : WapiKeyParam :=
  { (default : WapiKeyParam) with key := some (List.replicate n 0), keyLen := n }

theorem spans_zeros {n : Nat} : (WapiKeyParam.zeros n).Spans := by
  constructor
  · intro key hkey
    rw [← Option.some.inj hkey, List.length_replicate]
    exact le_rfl
  · nofun

theorem wapi_key_contained_16 :
    WapiKeyContained .wapi (.zeros 16) ↔ Env.wapi.wapiLayout.iwEncodeSeqMaxSize * 2 <
        (WapiKeyParam.zeros 16).seqLen ∨ (WapiKeyParam.zeros 16).key = none ∨
      (WapiKeyParam.zeros 16).keyLen ≤ Env.wapi.wapiLayout.keyCapacity :=
  wapi_key_contained_iff spans_zeros

/-- A key of 33 bytes is written behind the end of its array. -/
theorem key_overruns_array : ¬WapiKeyContained .wapi (.zeros 33) := by
  intro hcontained
  obtain ⟨t, hrefused, -⟩ := hcontained.long_key nofun (by decide) (.start 0 [])
  rw [exec_of_long_key (by decide) (by decide)] at hrefused
  cases hrefused

end Wpa
