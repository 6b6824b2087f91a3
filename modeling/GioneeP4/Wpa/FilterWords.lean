-- SUMMARY: The words of the receive filter commands: an operation and its index share the word's low bits, and an index out of range makes one operation another.
import GioneeP4.Wpa.Delivery

/-!
# Receive filter words

The four `rxfilter` commands send one word each: a base for the operation, to which
adding and removing add the index they parsed. The bases are 0x100 apart, and the
index is whatever `strtol` returns.
-/

namespace Wpa

open Prog CText

variable {env : Env} {cmd : Text}

/-! ## Operations and words -/

/-- A filter operation with the index it parsed, if it takes one. -/
inductive FilterCommand
  | add (index : Int)
  | remove (index : Int)
  | stop
  | start
  deriving DecidableEq

namespace FilterCommand

def branch : FilterCommand → Branch
  | .add _ => .rxfilterAdd
  | .remove _ => .rxfilterRemove
  | .stop => .rxfilterStop
  | .start => .rxfilterStart

/-- The word of a command. -/
def word : FilterCommand → BitVec 32
  | .add index => BitVec.ofInt 32 index + 0x00900200
  | .remove index => BitVec.ofInt 32 index + 0x00900300
  | .stop => 0x00900000
  | .start => 0x00900100

/-- The index is the number the command string has behind its keyword. -/
def Parses (cmd : Text) : FilterCommand → Prop
  | .add index => index = (strtol (cmd.drop 12) 0).value
  | .remove index => index = (strtol (cmd.drop 15) 0).value
  | .stop | .start => True

/-- The indices that carry the base of one operation to the other's. -/
def Clash : FilterCommand → FilterCommand → Prop
  | .add i, .remove j => i - j = 0x100 ∨ j - i = 2 ^ 32 - 0x100
  | .add i, .stop => i = -0x200
  | .add i, .start => i = -0x100
  | .remove j, .stop => j = -0x300
  | .remove j, .start => j = -0x200
  | _, _ => False

end FilterCommand

/-- The command string runs a filter operation and is accepted. -/
structure RunsFilter (env : Env) (cmd : Text) (f : FilterCommand) : Prop where
  dispatched : dispatch env.features cmd = some f.branch
  parsed : f.Parses cmd
  accepted : ∀ s, (exec (wpaDriverNl80211DriverCmd env cmd) s).1 = .ok 0

/-- Among some command strings, the word tells the operation and the index. -/
def WordsUnambiguous (env : Env) (cmds : Set Text) : Prop :=
  ∀ cmd ∈ cmds, ∀ cmd' ∈ cmds, ∀ f f', RunsFilter env cmd f → RunsFilter env cmd' f' →
    ∀ word, Sends env cmd (.swCmd true 0x9F000000 word) →
      Sends env cmd' (.swCmd true 0x9F000000 word) → f = f'

/-! ## The word that is sent -/

/-- The message of an operation's branch, where its argument is a number. -/
theorem FilterCommand.message_eq_some {f : FilterCommand} {wpaS : Option Station}
    {params : TestmodeParams} (hparsed : f.Parses cmd)
    (h : f.branch.message env wpaS cmd = some params) : params = .swCmd true 0x9F000000 f.word := by
  cases f with
  | add index | remove index =>
    simp only [branch, Branch.message, numberedMessage] at h
    obtain ⟨-, hparams⟩ := Option.ite_none_left_eq_some.mp h
    rw [← Option.some.inj hparams, ← hparsed]
    simp only [word]
  | stop | start =>
    simp only [branch, Branch.message] at h
    rw [← Option.some.inj h]
    simp only [word]

/-- Adding and removing return -1 where their argument is no number. -/
theorem FilterCommand.exec_of_not_message {f : FilterCommand} {drv : Drv} {wpaS : Option Station}
    {s : CmdState} (h : f.branch.message env wpaS cmd = none)
    (hoffset : f.branch.offset ≤ cmd.length) :
    exec (runBranch env drv wpaS cmd f.branch) s = (.ok (-1), s) := by
  have hnumbered : ∀ k base, numberedMessage (cmd.drop k) 0x9F000000 base = none →
      k ≤ cmd.length → exec (numberedSwCmd env cmd k 0x9F000000 base) s = (.ok (-1), s) := by
    intro k base hnone hk
    have hbad : cmd.drop k = [] ∨ (strtol (cmd.drop k) 0).endp = 0 := by
      simpa only [numberedMessage, ite_eq_left_iff, reduceCtorEq, imp_false, not_not] using hnone
    rw [numberedSwCmd, exec_bind_cstringAt hk]
    split
    · rfl
    · rw [if_pos (hbad.resolve_left ‹_›)]
      rfl
  cases f with
  | add index => exact hnumbered 12 0x00900200 h hoffset
  | remove index => exact hnumbered 15 0x00900300 h hoffset
  | stop | start => cases h

/-- An accepted command got past the checks, and its argument is a number. -/
theorem RunsFilter.message {f : FilterCommand} (h : RunsFilter env cmd f) :
    ∃ drv wpaS params, Ready env drv wpaS ∧ f.branch.message env wpaS cmd = some params := by
  have hfails : (exec (wpaDriverNl80211DriverCmd env cmd) (.start 0 [])).1 ≠ .ok (-1) := by
    rw [h.accepted]
    nofun
  obtain hfail | ⟨drv, wpaS, branch, hready, hdispatch, hrun⟩ := @driverCmd_cases env cmd
  · rw [hfail] at hfails
    exact absurd rfl hfails
  · have hbranch : branch = f.branch := Option.some.inj (hdispatch.symm.trans h.dispatched)
    subst hbranch
    refine ⟨drv, wpaS, ?_⟩
    cases hmessage : f.branch.message env wpaS cmd with
    | some params => exact ⟨params, hready, rfl⟩
    | none =>
      have hoffset := offset_le_length hdispatch (by cases f <;> nofun)
      rw [hrun, FilterCommand.exec_of_not_message hmessage hoffset] at hfails
      exact absurd rfl hfails

/-- The strings that run an operation send its word. -/
theorem RunsFilter.sends_iff {f : FilterCommand} (h : RunsFilter env cmd f) {word : BitVec 32} :
    Sends env cmd (.swCmd true 0x9F000000 word) ↔ word = f.word := by
  rw [Wpa.sends_iff]
  constructor
  · rintro ⟨drv, wpaS, branch, -, hdispatch, hmessage⟩
    have hbranch : branch = f.branch := Option.some.inj (hdispatch.symm.trans h.dispatched)
    subst hbranch
    have hword := FilterCommand.message_eq_some h.parsed hmessage
    exact (TestmodeParams.swCmd.inj hword).2.2
  · rintro rfl
    obtain ⟨drv, wpaS, params, hready, hmessage⟩ := h.message
    refine ⟨drv, wpaS, _, hready, h.dispatched, ?_⟩
    rw [hmessage, FilterCommand.message_eq_some h.parsed hmessage]

/-! ## Words and indices -/

/-- What `strtol` returns is a `long`. -/
theorem strtol_range {s : Text} {base : Nat} :
    -2 ^ 31 ≤ (strtol s base).value ∧ (strtol s base).value < 2 ^ 31 := by
  have hclamp : ∀ z : Int,
      -2 ^ 31 ≤ max (-2 ^ 31) (min z (2 ^ 31 - 1)) ∧ max (-2 ^ 31) (min z (2 ^ 31 - 1)) < 2 ^ 31 := by
    intro z
    omega
  unfold strtol
  dsimp only
  -- a minus, a plus or neither, each with digits or without
  split <;> split <;> first | decide | exact hclamp _

/-- The index, if there is one, is a `long`. -/
def FilterCommand.InRange : FilterCommand → Prop
  | .add index | .remove index => -2 ^ 31 ≤ index ∧ index < 2 ^ 31
  | .stop | .start => True

theorem RunsFilter.inRange {f : FilterCommand} (h : RunsFilter env cmd f) : f.InRange := by
  have hparsed := h.parsed
  cases f with
  | add index | remove index =>
    simp only [FilterCommand.Parses] at hparsed
    rw [hparsed]
    exact strtol_range
  | stop | start => trivial

namespace FilterCommand

/-- The word as the sum of its parts, before it is cut to 32 bits. -/
def sum : FilterCommand → Int
  | .add index => index + 0x00900200
  | .remove index => index + 0x00900300
  | .stop => 0x00900000
  | .start => 0x00900100

theorem word_eq_ofInt {f : FilterCommand} : f.word = BitVec.ofInt 32 f.sum := by
  cases f with
  | add index | remove index =>
    rw [word, sum, BitVec.ofInt_add, BitVec.ofInt_ofNat]
    rfl
  | stop | start => rfl

/-- Two commands have the same word if they are the same or their indices clash. -/
theorem word_eq_iff {f f' : FilterCommand} (hf : f.InRange) (hf' : f'.InRange) :
    f.word = f'.word ↔ f = f' ∨ f.Clash f' ∨ f'.Clash f := by
  have hsum : f.word = f'.word ↔ f.sum % 2 ^ 32 = f'.sum % 2 ^ 32 := by
    rw [word_eq_ofInt, word_eq_ofInt, ← BitVec.toNat_inj, BitVec.toNat_ofInt, BitVec.toNat_ofInt]
    omega
  rw [hsum]
  cases f <;> cases f' <;>
    simp only [InRange] at hf hf' <;>
    simp only [sum, Clash, add.injEq, remove.injEq, reduceCtorEq, or_false, false_or] <;>
    first | decide | omega

end FilterCommand

/-- A word tells the operation and the index among command strings whose indices do not clash. -/
theorem filter_words_unambiguous_iff {cmds : Set Text} :
    WordsUnambiguous env cmds ↔
      ∀ cmd ∈ cmds, ∀ cmd' ∈ cmds, ∀ f f', RunsFilter env cmd f → RunsFilter env cmd' f' →
        ¬f.Clash f' := by
  constructor
  · intro h cmd hcmd cmd' hcmd' f f' hf hf' hclash
    have hword : f.word = f'.word :=
      (FilterCommand.word_eq_iff hf.inRange hf'.inRange).mpr (.inr (.inl hclash))
    have hsame := h cmd hcmd cmd' hcmd' f f' hf hf' f.word (hf.sends_iff.mpr rfl)
      (hf'.sends_iff.mpr hword)
    subst hsame
    cases f <;> exact hclash
  · intro h cmd hcmd cmd' hcmd' f f' hf hf' word hsends hsends'
    have hword : f.word = f'.word := by
      rw [← hf.sends_iff.mp hsends, ← hf'.sends_iff.mp hsends']
    obtain hsame | hclash | hclash := (FilterCommand.word_eq_iff hf.inRange hf'.inRange).mp hword
    · exact hsame
    · exact absurd hclash (h cmd hcmd cmd' hcmd' f f' hf hf')
    · exact absurd hclash (h cmd' hcmd' cmd hcmd f' f hf' hf)

/-- Adding filter 256 sends the word that removes filter 0. -/
theorem add_sends_remove :
    ¬WordsUnambiguous .idle {ascii "rxfilter-add 256", ascii "rxfilter-remove 0"} := by
  have hadd : RunsFilter .idle (ascii "rxfilter-add 256") (.add 256) :=
    ⟨by decide, rfl, fun _ => rfl⟩
  have hremove : RunsFilter .idle (ascii "rxfilter-remove 0") (.remove 0) :=
    ⟨by decide, rfl, fun _ => rfl⟩
  intro h
  have hword : (FilterCommand.add 256).word = (FilterCommand.remove 0).word := by decide
  have hsame := h _ (.inl rfl) _ (.inr rfl) _ _ hadd hremove _ (hadd.sends_iff.mpr rfl)
    (hremove.sends_iff.mpr hword)
  cases hsame

end Wpa
