-- SUMMARY: The reply length of driver commands: what every branch returns fits the caller's buffer, but for the address of the station.
import GioneeP4.Wpa.QuietBranches

/-!
# Reply lengths

A caller sends back as many bytes of its buffer as the command returns. Every
branch returns at most 0, or prints with a check of the room that is left. The
branch that prints the station's address has no such check.
-/

namespace Wpa

open Prog CText Printing

/-- The reply is no text, or a text the command wrote within the buffer. -/
def ReplyFits (bufLen : Nat) (ret : Int) (s : CmdState) : Prop :=
  ret ≤ 0 ∨ (ret < bufLen ∧ ∀ i : Nat, (i : Int) < ret → ∃ b, s.buf[i]? = some (some b))

variable {env : Env} {cmd : Text} {wpaS : Option Station} {s : CmdState} {n : Nat}

theorem replyFits_of_nonpos {m : DrvM Int} {E : Fault → Prop}
    (h : Always m (fun ret => ret ≤ 0) E) : Ensures m s (ReplyFits n) fun _ _ => True :=
  ensures_mono (h s) (fun _ _ hret => .inl hret) fun _ _ _ => trivial

theorem nonpos_setCountry {k : Nat} :
    Always (wpaDriverMediatekSetCountry env cmd k) (fun ret => ret ≤ 0) fun _ => True := by
  apply always_ite (always_pure (by decide))
  apply always_bind always_true
  intro alpha2 _
  apply always_ite (always_throw trivial)
  simp only
  split
  · exact always_pure (by omega)
  · exact always_pure le_rfl

theorem nonpos_country : Always (country env cmd) (fun ret => ret ≤ 0) fun _ => True := by
  unfold country
  apply always_ite
  · exact always_bind always_true fun _ _ => nonpos_setCountry
  · exact nonpos_setCountry

/-! ## Branches that print -/

/-- Printing a series of texts from the start of the buffer leaves a reply that fits. -/
theorem printAll_replyFits {buf : Buffer} {ts : List Text} {t : CmdState} (hlen : buf.length = n)
    (ht : t.buf = (printAll buf 0 ts).buf) : ReplyFits n (printAll buf 0 ts).pos t := by
  obtain ⟨hpos, hholds, hroom⟩ := @printAll_spec buf [] ts holds_nil (Nat.zero_le _)
  simp only [List.length_nil, List.nil_append] at hpos hholds hroom
  rcases hroom with hlt | hnone
  · refine .inr ⟨?_, ?_⟩
    · rw [hpos]
      omega
    · intro i hi
      rw [hpos] at hi
      rw [ht]
      exact hholds.written (by omega)
  · left
    rw [hpos, hnone]
    exact le_rfl

theorem testmode_keeps_buf {priv : Bool} {params : TestmodeParams} {buf : TestmodeBuf}
    (hlen : s.buf.length = n) :
    Ensures (wpaDriverNl80211Testmode env priv params buf) s (fun _ t => t.buf.length = n)
      fun _ _ => True := by
  unfold wpaDriverNl80211Testmode
  split
  · exact ensures_throw trivial
  · cases env.exchange params with
    | allocFailed => exact ensures_pure hlen
    | putFailed => exact ensures_pure hlen
    | exchanged ret replies =>
      apply ensures_bind
      apply ensures_modify
      exact ensures_pure hlen

theorem derefStation_keeps (hlen : s.buf.length = n) :
    Ensures (derefStation wpaS) s (fun _ t => t.buf.length = n) fun _ _ => True := by
  cases wpaS with
  | none => exact ensures_throw trivial
  | some station => exact ensures_pure hlen

theorem printStaStatistics_replyFits {st : StaStatistics} (hlen : s.buf.length = n) :
    Ensures (printStaStatistics env st) s (ReplyFits n) fun _ _ => True := by
  apply ensures_bind
  apply ensures_get
  apply ensures_bind
  apply ensures_modify
  split
  · exact ensures_pure (printAll_replyFits hlen rfl)
  · exact ensures_pure (.inl le_rfl)

theorem getStaStatistics_replyFits {addr : Text} (hlen : s.buf.length = n) :
    Ensures (wpaDriverGetStaStatistics env wpaS addr) s (ReplyFits n) fun _ _ => True := by
  unfold wpaDriverGetStaStatistics
  cases env.hwaddrAton addr with
  | none => exact ensures_pure (.inl (by decide))
  | some staAddr =>
    apply ensures_bind
    apply ensures_bind
    apply ensures_mono (derefStation_keeps hlen) _ fun _ _ h => h
    intro station t ht
    apply ensures_mono (testmode_keeps_buf ht) _ fun _ _ h => h
    rintro ⟨ret, buf⟩ u hu
    simp only
    split
    · exact ensures_pure (.inl (by decide))
    · cases buf <;> exact printStaStatistics_replyFits hu

theorem printStaLinkDetect_replyFits {st : StaLinkDetect} (hlen : s.buf.length = n) :
    Ensures (printStaLinkDetect st) s (ReplyFits n) fun _ _ => True := by
  apply ensures_bind
  apply ensures_get
  apply ensures_bind
  apply ensures_modify
  exact ensures_pure (printAll_replyFits hlen rfl)

theorem getStaLinkDetect_replyFits (hlen : s.buf.length = n) :
    Ensures (wpaDriverGetStaLinkDetect env wpaS) s (ReplyFits n) fun _ _ => True := by
  apply ensures_bind
  apply ensures_bind
  apply ensures_mono (derefStation_keeps hlen) _ fun _ _ h => h
  intro station t ht
  apply ensures_mono (testmode_keeps_buf ht) _ fun _ _ h => h
  rintro ⟨ret, buf⟩ u hu
  simp only
  split
  · exact ensures_pure (.inl (by decide))
  · cases buf <;> exact printStaLinkDetect_replyFits hu

/-! ## The station's address -/

/-- Texts of two bytes with colons between them. -/
theorem length_colons {ts : List Text} (h : ∀ t ∈ ts, t.length = 2) (hne : ts ≠ []) :
    (colons ts).length + 1 = 3 * ts.length := by
  induction ts with
  | nil => exact absurd rfl hne
  | cons t ts ih =>
    have ht : t.length = 2 := h t (List.mem_cons_self ..)
    cases ts with
    | nil => simp [colons, ht]
    | cons u us =>
      have htail := ih (fun v hv => h v (List.mem_cons_of_mem _ hv)) (List.cons_ne_nil u us)
      have hcolons : colons (t :: u :: us) = t ++ (ascii ":" ++ colons (u :: us)) := by
        simp [colons, List.intersperse_cons_cons]
      have hcolon : (ascii ":").length = 1 := rfl
      rw [hcolons, List.length_append, List.length_append, ht, hcolon, List.length_cons]
      omega

@[simp] theorem length_macstr {addr : Addr} : (macstr addr).length = 17 := by
  have htexts : ∀ t ∈ addr.toList.map (fun b => hex false 2 b.toNat), t.length = 2 := by
    intro t ht
    obtain ⟨b, -, rfl⟩ := List.mem_map.mp ht
    exact length_hex
  have hsix : (addr.toList.map fun b => hex false 2 b.toNat).length = 6 := by simp
  have hcolons := length_colons htexts (List.ne_nil_of_length_pos (by omega))
  unfold macstr
  omega

/-- What `macaddr` prints. -/
def macaddrText (station : Station) : Text :=
  ascii "Macaddr = " ++ macstr station.ownAddr ++ ascii "\n"

theorem length_macaddrText {station : Station} : (macaddrText station).length = 28 := by
  have hkey : (ascii "Macaddr = ").length = 10 := rfl
  have hnewline : (ascii "\n").length = 1 := rfl
  simp only [macaddrText, List.length_append, length_macstr, hkey, hnewline]

/-- The address is reported with its 28 bytes, whatever room there is. -/
theorem exec_macaddr {station : Station} :
    exec (macaddr (some station)) s =
      (.ok 28, { s with buf := snprintf s.buf 0 (macaddrText station) }) := by
  have hrun : exec (macaddr (some station)) s =
      (.ok (macaddrText station).length,
        { s with buf := snprintf s.buf 0 (macaddrText station) }) := rfl
  rw [hrun, length_macaddrText]
  rfl

/-- The reported address fits exactly when it was not cut short. -/
theorem macaddr_replyFits_iff {station : Station} (hlen : s.buf.length = n) :
    ReplyFits n 28 { s with buf := snprintf s.buf 0 (macaddrText station) } ↔ 28 < n := by
  constructor
  · rintro (hnonpos | ⟨hlt, -⟩)
    · exact absurd hnonpos (by decide)
    · exact_mod_cast hlt
  · intro hlt
    refine .inr ⟨by exact_mod_cast hlt, ?_⟩
    intro i hi
    have hholds : Holds (snprintf s.buf 0 (macaddrText station)) ([] ++ macaddrText station) := by
      apply holds_nil.snprintf
      rw [length_macaddrText, hlen, List.length_nil]
      omega
    apply hholds.written
    rw [List.nil_append, length_macaddrText]
    exact_mod_cast hi

/-! ## Every command -/

theorem runBranch_replyFits {drv : Drv} {branch : Branch} (hlen : s.buf.length = n)
    (hdispatch : dispatch env.features cmd = some branch) (hbranch : branch ≠ .macaddr) :
    Ensures (runBranch env drv wpaS cmd branch) s (ReplyFits n) fun _ _ => True := by
  by_cases hcountry : branch = .country
  · subst hcountry
    exact replyFits_of_nonpos nonpos_country
  · have hoffset := offset_le_length hdispatch hcountry
    cases hprints : branch.prints with
    | false => exact replyFits_of_nonpos (quiet_runBranch hprints hcountry hoffset)
    | true =>
      cases branch with
      | getStaStatistics =>
        apply ensures_bind
        exact ensures_cstringAt hoffset (getStaStatistics_replyFits hlen)
      | getStaLinkDetect => exact getStaLinkDetect_replyFits hlen
      | macaddr => exact absurd rfl hbranch
      | _ => cases hprints

/-- The command asks a configured station for its address. -/
def MacaddrOnStation (env : Env) (cmd : Text) : Prop :=
  (∃ drv station, Ready env drv (some station)) ∧ strncmp cmd (ascii "MACADDR") 7 = true

theorem driverCmd_replyFits (hlen : s.buf.length = n)
    (hroom : MacaddrOnStation env cmd → 28 < n) :
    Ensures (wpaDriverNl80211DriverCmd env cmd) s (ReplyFits n) fun _ _ => True := by
  obtain hfail | ⟨drv, wpaS, branch, hready, hdispatch, hrun⟩ := @driverCmd_cases env cmd
  · rw [hfail]
    exact ensures_pure (.inl (by decide))
  · rw [hrun]
    by_cases hbranch : branch = .macaddr
    · subst hbranch
      cases wpaS with
      | none => exact ensures_throw trivial
      | some station =>
        have hfits : 28 < n := hroom ⟨⟨drv, station, hready⟩, dispatch_macaddr_iff.mp hdispatch⟩
        simp only [runBranch, Ensures, exec_macaddr]
        exact (macaddr_replyFits_iff hlen).mpr hfits
    · exact runBranch_replyFits hlen hdispatch hbranch

theorem exec_driverCmd_macaddr (h : MacaddrOnStation env cmd) :
    ∃ station, exec (wpaDriverNl80211DriverCmd env cmd) s =
      (.ok 28, { s with buf := snprintf s.buf 0 (macaddrText station) }) := by
  obtain ⟨⟨drv, station, hready⟩, hcmd⟩ := h
  refine ⟨station, ?_⟩
  rw [driverCmd_of_dispatch hready (dispatch_macaddr_iff.mpr hcmd)]
  exact exec_macaddr

/-- Every reply fits, but for the address in a buffer of at most 28 bytes. -/
theorem reply_fits_iff {cmd : Text} {bufLen : Nat} {ifaces : List Iface} :
    (∀ ret t, exec (wpaDriverNl80211DriverCmd env cmd) (.start bufLen ifaces) = (.ok ret, t) →
        ReplyFits bufLen ret t) ↔
      ¬(MacaddrOnStation env cmd ∧ bufLen ≤ 28) := by
  have hlen : (CmdState.start bufLen ifaces).buf.length = bufLen := List.length_replicate
  constructor
  · rintro hfits ⟨hmac, hle⟩
    obtain ⟨station, hexec⟩ := exec_driverCmd_macaddr (s := .start bufLen ifaces) hmac
    have hlt := (macaddr_replyFits_iff hlen).mp (hfits _ _ hexec)
    omega
  · intro hcond ret t hexec
    refine (driverCmd_replyFits hlen fun hmac => ?_).of_ok hexec
    by_contra hle
    exact hcond ⟨hmac, by omega⟩

/-- `MACADDR` reports 28 bytes of a buffer of 16. -/
theorem macaddr_reply_does_not_fit :
    ¬∀ ret t, exec (wpaDriverNl80211DriverCmd Env.idle (ascii "MACADDR")) (.start 16 []) =
      (.ok ret, t) → ReplyFits 16 ret t := by
  intro hfits
  have hmac : MacaddrOnStation Env.idle (ascii "MACADDR") := ⟨ready_idle, by decide⟩
  have hlen : (CmdState.start 16 []).buf.length = 16 := List.length_replicate
  obtain ⟨station, hexec⟩ := exec_driverCmd_macaddr hmac
  have hlt := (macaddr_replyFits_iff hlen).mp (hfits _ _ hexec)
  exact absurd hlt (by decide)

end Wpa
