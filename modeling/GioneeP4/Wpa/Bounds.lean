-- SUMMARY: Memory bounds of driver commands: every branch but the country code reads and formats within bounds.
import GioneeP4.Wpa.QuietBranches

/-!
# Bounds of driver commands

Every literal of the chain covers the offset its branch adds to `cmd`, so a
command that matches reaches the NUL at the earliest. `COUNTRY` is compared on
seven bytes and read from the eighth, and its argument has no bound at all.
-/

namespace Wpa

open Prog CText Printing

variable {env : Env} {cmd : Text}

/-! ## The country code -/

/-- The argument of `COUNTRY` starts behind the NUL, or does not fit with its keyword. -/
def CountryOutOfBounds (env : Env) (cmd : Text) : Prop :=
  (cmd.length < 8 ∧ (env.debug = true ∨ 0 ≤ env.socket)) ∨ (10 < cmd.length ∧ 0 ≤ env.socket)

theorem length_countryText (h : 8 ≤ cmd.length) :
    (ascii "COUNTRY " ++ cmd.drop 8).length = cmd.length := by
  have hkeyword : (ascii "COUNTRY ").length = 8 := rfl
  rw [List.length_append, List.length_drop, hkeyword]
  omega

theorem inBounds_setCountry (h : env.socket < 0 ∨ (8 ≤ cmd.length ∧ cmd.length ≤ 10)) :
    StaysInBounds (wpaDriverMediatekSetCountry env cmd 8) := by
  unfold wpaDriverMediatekSetCountry
  rcases h with hsocket | ⟨hlow, hhigh⟩
  · rw [if_pos hsocket]
    exact always_pure trivial
  · apply always_ite (always_pure trivial)
    intro s
    apply ensures_bind
    apply ensures_cstringAt hlow
    simp only
    rw [length_countryText hlow, if_neg (by omega)]
    exact always_ite (always_pure trivial) (always_pure trivial) s

theorem setCountry_faults {s : CmdState} (hsocket : 0 ≤ env.socket)
    (hlength : cmd.length < 8 ∨ 10 < cmd.length) :
    ∃ fault, exec (wpaDriverMediatekSetCountry env cmd 8) s = (.error fault, s) ∧
      ¬InBounds fault := by
  unfold wpaDriverMediatekSetCountry
  rw [if_neg (by omega), exec_bind, exec_cstringAt]
  rcases hlength with hshort | hlong
  · rw [if_neg (by omega)]
    exact ⟨_, rfl, by decide⟩
  · rw [if_pos (by omega)]
    simp only
    rw [length_countryText (by omega), if_pos (by omega)]
    exact ⟨_, rfl, by decide⟩

theorem inBounds_country (h : ¬CountryOutOfBounds env cmd) : StaysInBounds (country env cmd) := by
  have hset : StaysInBounds (wpaDriverMediatekSetCountry env cmd 8) := by
    apply inBounds_setCountry
    by_contra hbad
    unfold CountryOutOfBounds at h
    omega
  unfold country
  split
  · have hlow : 8 ≤ cmd.length := by
      by_contra hshort
      exact h (.inl ⟨by omega, .inl ‹_›⟩)
    exact always_bind (always_cstringAt hlow) fun _ _ => hset
  · exact hset

theorem country_faults {s : CmdState} (h : CountryOutOfBounds env cmd) :
    ∃ fault, exec (country env cmd) s = (.error fault, s) ∧ ¬InBounds fault := by
  unfold country
  by_cases hdebug : env.debug = true
  · rw [if_pos hdebug, exec_bind, exec_cstringAt]
    by_cases hlow : 8 ≤ cmd.length
    · rw [if_pos hlow]
      unfold CountryOutOfBounds at h
      exact setCountry_faults (by omega) (by omega)
    · rw [if_neg hlow]
      exact ⟨_, rfl, by decide⟩
  · rw [if_neg hdebug]
    simp only [CountryOutOfBounds, hdebug, Bool.false_eq_true, false_or] at h
    exact setCountry_faults (by omega) (by omega)

/-! ## Every command -/

/-- A usable context is asked for a country code that goes out of bounds. -/
def CountryMisread (env : Env) (cmd : Text) : Prop :=
  (∃ drv wpaS, Ready env drv wpaS) ∧ strncasecmp cmd (ascii "COUNTRY") 7 = true ∧
    CountryOutOfBounds env cmd

theorem inBounds_driverCmd (h : ¬CountryMisread env cmd) :
    StaysInBounds (wpaDriverNl80211DriverCmd env cmd) := by
  obtain hfail | ⟨drv, wpaS, branch, hready, hdispatch, hrun⟩ := @driverCmd_cases env cmd
  · rw [hfail]
    exact always_pure trivial
  · rw [hrun]
    by_cases hbranch : branch = .country
    · subst hbranch
      apply inBounds_country
      intro hout
      exact h ⟨⟨drv, wpaS, hready⟩, dispatch_country_iff.mp hdispatch, hout⟩
    · exact always_runBranch tolerates_inBounds hbranch (offset_le_length hdispatch hbranch)

theorem driverCmd_faults {s : CmdState} (h : CountryMisread env cmd) :
    ∃ fault, exec (wpaDriverNl80211DriverCmd env cmd) s = (.error fault, s) ∧ ¬InBounds fault := by
  obtain ⟨⟨drv, wpaS, hready⟩, hcmd, hout⟩ := h
  rw [driverCmd_of_dispatch hready (dispatch_country_iff.mpr hcmd)]
  exact country_faults hout

/-- Every command stays in bounds, but for `COUNTRY` with fewer than 8 or more than 10 bytes. -/
theorem commands_stay_in_bounds_iff :
    (∀ s fault t, exec (wpaDriverNl80211DriverCmd env cmd) s = (.error fault, t) →
        fault ≠ .readPastNul ∧ fault ≠ .overflow .countryBuf) ↔
      ¬CountryMisread env cmd := by
  constructor
  · rintro hall hmisread
    obtain ⟨fault, hexec, hfault⟩ := driverCmd_faults (s := .start 0 []) hmisread
    exact hfault (hall _ _ _ hexec)
  · intro h
    exact always_true_iff.mp (inBounds_driverCmd h)

/-- `COUNTRY` is read behind its NUL, and `COUNTRY USA` overflows the text. -/
theorem country_goes_out_of_bounds :
    (¬∀ s fault t, exec (wpaDriverNl80211DriverCmd Env.idle (ascii "COUNTRY")) s =
        (.error fault, t) → fault ≠ .readPastNul) ∧
      ¬∀ s fault t, exec (wpaDriverNl80211DriverCmd Env.idle (ascii "COUNTRY USA")) s =
        (.error fault, t) → fault ≠ .overflow .countryBuf := by
  constructor
  · intro hall
    exact hall (.start 0 []) _ _ rfl rfl
  · intro hall
    exact hall (.start 0 []) _ _ rfl rfl

end Wpa
