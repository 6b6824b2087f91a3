-- SUMMARY: Threads that share a state under one lock: their interleavings, serial executions, and how long calls can take.
import GioneeP4.Lib.Machine
import Mathlib.Algebra.Order.BigOperators.Group.Finset
import Mathlib.Logic.Function.Basic
import Mathlib.Tactic.Linarith

/-!
# Threads under a lock

Each thread makes a list of calls. A call waits for the lock, runs its body one
action at a time, and gives the lock back; between two actions of one thread any
other thread may run. Only the lock keeps two bodies apart.

`serializes` says that whatever the schedule, the threads did what the bodies do
one after the other, in the order in which they got the lock. `finishes` says that
a schedule that keeps coming back to every thread lets all calls return.
-/

namespace Mutex

/-! ## Bodies -/

/-- A program over a shared state, by its atomic actions: each updates the state and decides on
    what it found there how to go on. -/
inductive Block (σ α : Type)
  | done (a : α)
  | act (update : σ → σ) (next : σ → Block σ α)

namespace Block

variable {σ α β γ : Type} {s : σ}

def bind : Block σ α → (α → Block σ β) → Block σ β
  | .done a, f => f a
  | .act update next, f => .act update fun s => (next s).bind f

instance : Monad (Block σ) where
  pure := .done
  bind := bind

/-- A step of a state monad as one atomic action. -/
def atomic (m : StateM σ α) : Block σ α := .act (fun s => (m s).2) fun s => .done (m s).1

/-- What a body returns, and the state it leaves, when nothing comes in between. -/
def exec : Block σ α → σ → α × σ
  | .done a, s => (a, s)
  | .act update next, s => (next s).exec (update s)

/-- How many actions a body takes when nothing comes in between. -/
def length : Block σ α → σ → Nat
  | .done _, _ => 0
  | .act update next, s => (next s).length (update s) + 1

@[simp] theorem exec_pure {a : α} : (pure a : Block σ α).exec s = (a, s) := rfl

@[simp] theorem length_pure {a : α} : (pure a : Block σ α).length s = 0 := rfl

@[simp] theorem exec_atomic {m : StateM σ α} : (atomic m).exec s = m s := rfl

@[simp] theorem length_atomic {m : StateM σ α} : (atomic m).length s = 1 := rfl

@[simp] theorem exec_bind {b : Block σ α} {f : α → Block σ β} :
    (b >>= f).exec s = (f (b.exec s).1).exec (b.exec s).2 := by
  induction b generalizing s with
  | done a => rfl
  | act update next ih => exact ih s

@[simp] theorem length_bind {b : Block σ α} {f : α → Block σ β} :
    (b >>= f).length s = b.length s + (f (b.exec s).1).length (b.exec s).2 := by
  induction b generalizing s with
  | done a => exact (Nat.zero_add _).symm
  | act update next ih =>
    have hnext := ih s (s := update s)
    change (next s >>= f).length (update s) + 1 = (next s).length (update s) + 1 + _
    rw [hnext]
    simp only [exec]
    omega

end Block

/-! ## Threads -/

variable {ι κ σ α : Type}

/-- Where a thread stands. -/
inductive Phase (κ σ α : Type)
  | idle
  | waiting (call : κ)
  | inside (call : κ) (rest : Block σ α)

structure Threads (ι κ σ α : Type) where
  shared : σ
  /-- The thread that has the lock. -/
  holder : Option ι
  /-- The calls a thread has yet to make. -/
  todo : ι → List κ
  phase : ι → Phase κ σ α
  /-- The calls that got the lock, in order. -/
  acquired : List (ι × κ)
  /-- The calls that returned, in order, with what they returned. -/
  returned : List (ι × κ × α)

namespace Threads

def start (s : σ) (programs : ι → List κ) : Threads ι κ σ α where
  shared := s
  holder := none
  todo := programs
  phase := fun _ => .idle
  acquired := []
  returned := []

/-- All calls were made and have returned. -/
def Finished (sys : Threads ι κ σ α) : Prop := ∀ i, sys.phase i = .idle ∧ sys.todo i = []

variable [DecidableEq ι]

/-- The scheduler picks a thread, which moves on if it can. -/
def step (body : κ → Block σ α) (sys : Threads ι κ σ α) (i : ι) : Threads ι κ σ α :=
  match sys.phase i with
  | .idle =>
    match sys.todo i with
    | [] => sys
    | call :: calls =>
      { sys with
        todo := Function.update sys.todo i calls
        phase := Function.update sys.phase i (.waiting call) }
  | .waiting call =>
    match sys.holder with
    | some _ => sys
    | none =>
      { sys with
        holder := some i
        phase := Function.update sys.phase i (.inside call (body call))
        acquired := sys.acquired ++ [(i, call)] }
  | .inside call (.act update next) =>
    { sys with
      shared := update sys.shared
      phase := Function.update sys.phase i (.inside call (next sys.shared)) }
  | .inside call (.done a) =>
    { sys with
      holder := none
      phase := Function.update sys.phase i .idle
      returned := sys.returned ++ [(i, call, a)] }

/-- The threads after a schedule. -/
abbrev run (body : κ → Block σ α) (sys : Threads ι κ σ α) (schedule : List ι) :
    Threads ι κ σ α :=
  Machine.after (step body) sys schedule

/-- Everything one step of a thread can do. -/
inductive Moves (body : κ → Block σ α) (i : ι) (sys : Threads ι κ σ α) : Threads ι κ σ α → Prop
  | rests (hphase : sys.phase i = .idle) (htodo : sys.todo i = []) : Moves body i sys sys
  | calls {call : κ} {calls : List κ} (hphase : sys.phase i = .idle)
      (htodo : sys.todo i = call :: calls) :
      Moves body i sys
        { sys with
          todo := Function.update sys.todo i calls
          phase := Function.update sys.phase i (.waiting call) }
  | blocks {call : κ} {j : ι} (hphase : sys.phase i = .waiting call)
      (hholder : sys.holder = some j) : Moves body i sys sys
  | acquires {call : κ} (hphase : sys.phase i = .waiting call) (hholder : sys.holder = none) :
      Moves body i sys
        { sys with
          holder := some i
          phase := Function.update sys.phase i (.inside call (body call))
          acquired := sys.acquired ++ [(i, call)] }
  | acts {call : κ} {update : σ → σ} {next : σ → Block σ α}
      (hphase : sys.phase i = .inside call (.act update next)) :
      Moves body i sys
        { sys with
          shared := update sys.shared
          phase := Function.update sys.phase i (.inside call (next sys.shared)) }
  | leaves {call : κ} {a : α} (hphase : sys.phase i = .inside call (.done a)) :
      Moves body i sys
        { sys with
          holder := none
          phase := Function.update sys.phase i .idle
          returned := sys.returned ++ [(i, call, a)] }

theorem step_moves {body : κ → Block σ α} {sys : Threads ι κ σ α} {i : ι} :
    Moves body i sys (step body sys i) := by
  unfold step
  split
  · split
    · exact .rests ‹_› ‹_›
    · exact .calls ‹_› ‹_›
  · split
    · exact .blocks ‹_› ‹_›
    · exact .acquires ‹_› ‹_›
  · exact .acts ‹_›
  · exact .leaves ‹_›

end Threads

open Threads

/-! ## Serial executions -/

section Serial

variable (body : κ → Block σ α)

/-- One call from start to end. -/
def serial (s : σ) (call : ι × κ) : σ := ((body call.2).exec s).2

/-- What the calls return when they run one after the other. -/
def results (s : σ) (calls : List (ι × κ)) : List (ι × κ × α) :=
  (Machine.steps (serial body) s calls).map fun (t, i, call) => (i, call, ((body call).exec t).1)

variable {body} {s : σ} {made : List (ι × κ)} {i j : ι} {call : κ}

theorem results_concat :
    results body s (made ++ [(i, call)]) = results body s made ++
      [(i, call, ((body call).exec (Machine.after (serial body) s made)).1)] := by
  simp [results]

variable [DecidableEq ι]

/-- The calls of one thread, in order. -/
def callsOf (made : List (ι × κ)) (i : ι) : List κ :=
  (made.filter fun call => call.1 = i).map Prod.snd

theorem callsOf_concat_self : callsOf (made ++ [(i, call)]) i = callsOf made i ++ [call] := by
  simp [callsOf]

theorem callsOf_concat_of_ne (h : j ≠ i) : callsOf (made ++ [(i, call)]) j = callsOf made j := by
  simp [callsOf, Ne.symm h]

theorem mem_callsOf : call ∈ callsOf made i ↔ (i, call) ∈ made := by
  simp [callsOf]

theorem callsOf_map {κ' : Type} {f : κ → κ'} :
    callsOf (made.map fun p => (p.1, f p.2)) i = (callsOf made i).map f := by
  simp [callsOf, List.filter_map, Function.comp_def]

/-- The calls a thread has begun to make but not got the lock for. -/
def Phase.pending : Phase κ σ α → List κ
  | .waiting call => [call]
  | .idle | .inside _ _ => []

/-- The threads did, in the order they got the lock, what their calls do one after the other. -/
structure Serialized (body : κ → Block σ α) (s : σ) (programs : ι → List κ)
    (sys : Threads ι κ σ α) : Prop where
  free : sys.holder = none → sys.shared = Machine.after (serial body) s sys.acquired ∧
    sys.returned = results body s sys.acquired
  /-- The thread that has the lock is in the middle of the last call of the order. -/
  held : ∀ i, sys.holder = some i → ∃ before call rest, sys.acquired = before ++ [(i, call)] ∧
    sys.phase i = .inside call rest ∧ sys.returned = results body s before ∧
    rest.exec sys.shared = (body call).exec (Machine.after (serial body) s before)
  exclusive : ∀ i call rest, sys.phase i = .inside call rest → sys.holder = some i
  order : ∀ i, callsOf sys.acquired i ++ ((sys.phase i).pending ++ sys.todo i) = programs i

variable {programs : ι → List κ} {sys sys' : Threads ι κ σ α}

theorem serialized_start : Serialized body s programs (start s programs) where
  free _ := ⟨rfl, rfl⟩
  held := by simp [start]
  exclusive := by simp [start]
  order _ := rfl

/-- A thread outside its body does not have the lock. -/
theorem Serialized.holder_ne (h : Serialized body s programs sys)
    (hphase : ∀ call rest, sys.phase i ≠ .inside call rest) : sys.holder ≠ some i := by
  intro hholder
  obtain ⟨before, call, rest, -, hinside, -, -⟩ := h.held i hholder
  exact hphase call rest hinside

/-- The call of the thread that has the lock is the last one of the order. -/
theorem Serialized.inside {rest : Block σ α} (h : Serialized body s programs sys)
    (hphase : sys.phase i = .inside call rest) :
    ∃ before, sys.acquired = before ++ [(i, call)] ∧ sys.returned = results body s before ∧
      rest.exec sys.shared = (body call).exec (Machine.after (serial body) s before) := by
  obtain ⟨before, call', rest', hacquired, hinside, hreturned, hexec⟩ :=
    h.held i (h.exclusive i call rest hphase)
  obtain ⟨rfl, rfl⟩ := Phase.inside.inj (hphase.symm.trans hinside)
  exact ⟨before, hacquired, hreturned, hexec⟩

theorem Serialized.calls {calls : List κ} (h : Serialized body s programs sys)
    (hphase : sys.phase i = .idle) (htodo : sys.todo i = call :: calls) :
    Serialized body s programs
      { sys with
        todo := Function.update sys.todo i calls
        phase := Function.update sys.phase i (.waiting call) } where
  free := h.free
  held := by
    intro j hj
    have hne : j ≠ i := by
      rintro rfl
      exact h.holder_ne (by simp [hphase]) hj
    obtain ⟨before, call', rest, hacquired, hinside, hrest⟩ := h.held j hj
    exact ⟨before, call', rest, hacquired, by simpa [hne] using hinside, hrest⟩
  exclusive := by
    intro j call' rest hinside
    by_cases hij : j = i
    · subst hij
      simp at hinside
    · exact h.exclusive j call' rest (by simpa [hij] using hinside)
  order := by
    intro j
    by_cases hij : j = i
    · subst hij
      have horder := h.order j
      rw [hphase, htodo] at horder
      simpa [Phase.pending] using horder
    · simpa [hij] using h.order j

theorem Serialized.acquires (h : Serialized body s programs sys)
    (hphase : sys.phase i = .waiting call) (hholder : sys.holder = none) :
    Serialized body s programs
      { sys with
        holder := some i
        phase := Function.update sys.phase i (.inside call (body call))
        acquired := sys.acquired ++ [(i, call)] } where
  free := by simp
  held := by
    intro j hj
    obtain rfl : i = j := Option.some.inj hj
    obtain ⟨hshared, hreturned⟩ := h.free hholder
    exact ⟨sys.acquired, call, body call, rfl, by simp, hreturned, by rw [hshared]⟩
  exclusive := by
    intro j call' rest hinside
    by_cases hij : j = i
    · rw [hij]
    · -- nobody was inside while the lock was free
      have hother := h.exclusive j call' rest (by simpa [hij] using hinside)
      rw [hholder] at hother
      cases hother
  order := by
    intro j
    by_cases hij : j = i
    · subst hij
      have horder := h.order j
      rw [hphase] at horder
      simpa [Phase.pending, callsOf_concat_self] using horder
    · simpa [hij, callsOf_concat_of_ne] using h.order j

theorem Serialized.acts {update : σ → σ} {next : σ → Block σ α}
    (h : Serialized body s programs sys) (hphase : sys.phase i = .inside call (.act update next)) :
    Serialized body s programs
      { sys with
        shared := update sys.shared
        phase := Function.update sys.phase i (.inside call (next sys.shared)) } := by
  have hholder := h.exclusive i _ _ hphase
  obtain ⟨before, hacquired, hreturned, hexec⟩ := h.inside hphase
  refine ⟨by simp [hholder], ?_, ?_, ?_⟩
  · intro j hj
    obtain rfl : i = j := Option.some.inj (hholder.symm.trans hj)
    exact ⟨before, call, next sys.shared, hacquired, by simp, hreturned, hexec⟩
  · intro j call' rest hinside
    by_cases hij : j = i
    · rw [hij]
      exact hholder
    · exact h.exclusive j call' rest (by simpa [hij] using hinside)
  · intro j
    by_cases hij : j = i
    · subst hij
      have horder := h.order j
      rw [hphase] at horder
      simpa [Phase.pending] using horder
    · simpa [hij] using h.order j

theorem Serialized.leaves {a : α} (h : Serialized body s programs sys)
    (hphase : sys.phase i = .inside call (.done a)) :
    Serialized body s programs
      { sys with
        holder := none
        phase := Function.update sys.phase i .idle
        returned := sys.returned ++ [(i, call, a)] } := by
  have hholder := h.exclusive i _ _ hphase
  obtain ⟨before, hacquired, hreturned, hexec⟩ := h.inside hphase
  have hpair : (a, sys.shared) = (body call).exec (Machine.after (serial body) s before) := hexec
  refine ⟨?_, by simp, ?_, ?_⟩
  · intro _
    constructor
    · rw [hacquired, Machine.after_append]
      exact congrArg Prod.snd hpair
    · rw [hacquired, results_concat, hreturned, ← hpair]
  · intro j call' rest hinside
    by_cases hij : j = i
    · subst hij
      simp at hinside
    · -- the lock was taken by another thread
      have hother := h.exclusive j call' rest (by simpa [hij] using hinside)
      exact absurd (Option.some.inj (hother.symm.trans hholder)) hij
  · intro j
    by_cases hij : j = i
    · subst hij
      have horder := h.order j
      rw [hphase] at horder
      simpa [Phase.pending] using horder
    · simpa [hij] using h.order j

theorem Serialized.moves (h : Serialized body s programs sys) (hmoves : Moves body i sys sys') :
    Serialized body s programs sys' := by
  cases hmoves with
  | rests | blocks => exact h
  | calls hphase htodo => exact h.calls hphase htodo
  | acquires hphase hholder => exact h.acquires hphase hholder
  | acts hphase => exact h.acts hphase
  | leaves hphase => exact h.leaves hphase

/-- Whatever the schedule, the threads did what their calls do one after the other. -/
theorem serializes (schedule : List ι) :
    Serialized body s programs ((start s programs).run body schedule) :=
  Machine.after_invariant serialized_start fun _ _ _ h => h.moves step_moves

/-- The calls that returned are all that got the lock, but for the one that has it. -/
theorem Serialized.returned_eq (h : Serialized body s programs sys) :
    ∃ before, before <+: sys.acquired ∧ sys.acquired.length ≤ before.length + 1 ∧
      sys.returned = results body s before := by
  cases hholder : sys.holder with
  | none => exact ⟨sys.acquired, List.prefix_rfl, Nat.le_succ _, (h.free hholder).2⟩
  | some i =>
    obtain ⟨before, call, rest, hacquired, -, hreturned, -⟩ := h.held i hholder
    refine ⟨before, ?_, ?_, hreturned⟩
    · rw [hacquired]
      exact List.prefix_append _ _
    · rw [hacquired, List.length_append, List.length_singleton]

/-- Nobody has the lock once all calls have returned. -/
theorem Serialized.free_of_finished (h : Serialized body s programs sys) (hfinished : Finished sys) :
    sys.holder = none := by
  by_contra hholder
  obtain ⟨i, hi⟩ := Option.ne_none_iff_exists'.mp hholder
  exact h.holder_ne (by simp [(hfinished i).1]) hi

/-- Two threads are never both in the middle of a body. -/
theorem Serialized.eq_of_inside {call' : κ} {rest rest' : Block σ α}
    (h : Serialized body s programs sys) (hi : sys.phase i = .inside call rest)
    (hj : sys.phase j = .inside call' rest') : i = j :=
  Option.some.inj ((h.exclusive i _ _ hi).symm.trans (h.exclusive j _ _ hj))

/-- A call keeps its place in the order. -/
theorem Threads.Moves.acquired_prefix (hmoves : Moves body i sys sys') :
    sys.acquired <+: sys'.acquired := by
  cases hmoves with
  | acquires hphase hholder => exact List.prefix_append _ _
  | rests | calls | blocks | acts | leaves => exact List.prefix_rfl

theorem acquired_prefix_run (schedule : List ι) :
    sys.acquired <+: (sys.run body schedule).acquired :=
  Machine.after_invariant (P := fun t : Threads ι κ σ α => sys.acquired <+: t.acquired)
    List.prefix_rfl fun _ _ _ h => h.trans step_moves.acquired_prefix

end Serial

/-! ## Fair schedules -/

section Fair

variable [DecidableEq ι] [Fintype ι] {body : κ → Block σ α} {s : σ} {programs : ι → List κ}
variable {sys sys' : Threads ι κ σ α} {i : ι} {c : Nat}

/-- A bound on the steps a call still takes, when a body takes at most `c` actions. -/
def Phase.work (c : Nat) (s : σ) : Phase κ σ α → Nat
  | .idle => 0
  | .waiting _ => c + 2
  | .inside _ rest => rest.length s + 1

/-- The same bound for all calls of a thread. -/
def workOf (c : Nat) (sys : Threads ι κ σ α) (i : ι) : Nat :=
  (sys.todo i).length * (c + 3) + (sys.phase i).work c sys.shared

def work (c : Nat) (sys : Threads ι κ σ α) : Nat := ∑ i, workOf c sys i

/-- The thread has nothing to do, or waits for another one. -/
def Rests (sys : Threads ι κ σ α) (i : ι) : Prop :=
  (sys.phase i = .idle ∧ sys.todo i = []) ∨
    ∃ call j, sys.phase i = .waiting call ∧ sys.holder = some j

omit [DecidableEq ι] in
/-- A step that brings one thread forward and keeps the others. -/
theorem work_lt (hself : workOf c sys' i < workOf c sys i)
    (hothers : ∀ j, j ≠ i → workOf c sys' j = workOf c sys j) : work c sys' < work c sys := by
  apply Finset.sum_lt_sum
  · intro j _
    by_cases hij : j = i
    · rw [hij]
      exact hself.le
    · exact (hothers j hij).le
  · exact ⟨i, Finset.mem_univ i, hself⟩

/-- A step of a thread that does not rest leaves less to do. -/
theorem Threads.Moves.progress (hbound : ∀ call s, (body call).length s ≤ c)
    (h : Serialized body s programs sys) (hmoves : Moves body i sys sys') :
    (sys' = sys ∧ Rests sys i) ∨ work c sys' < work c sys := by
  cases hmoves with
  | rests hphase htodo => exact .inl ⟨rfl, .inl ⟨hphase, htodo⟩⟩
  | blocks hphase hholder => exact .inl ⟨rfl, .inr ⟨_, _, hphase, hholder⟩⟩
  | calls hphase htodo =>
    right
    apply work_lt (i := i)
    · simp only [workOf, hphase, htodo, Function.update_self, List.length_cons, Phase.work]
      linarith
    · intro j hij
      simp [workOf, hij]
  | @acquires call hphase hholder =>
    right
    apply work_lt (i := i)
    · have := hbound call sys.shared
      simp only [workOf, hphase, Function.update_self, Phase.work]
      omega
    · intro j hij
      simp [workOf, hij]
  | @acts call update next hphase =>
    right
    apply work_lt (i := i)
    · simp only [workOf, hphase, Function.update_self, Phase.work, Block.length]
      omega
    · -- the state changed, but nobody else is in the middle of a body
      intro j hij
      have hout : ∀ call rest, sys.phase j ≠ .inside call rest := by
        intro call' rest hinside
        have hj := h.exclusive j call' rest hinside
        exact hij (Option.some.inj (hj.symm.trans (h.exclusive i _ _ hphase)))
      simp only [workOf, Function.update_of_ne hij]
      cases hj : sys.phase j with
      | idle => rfl
      | waiting call' => rfl
      | inside call' rest => exact absurd hj (hout call' rest)
  | leaves hphase =>
    right
    apply work_lt (i := i)
    · simp [workOf, hphase, Phase.work]
    · intro j hij
      simp [workOf, hij]

/-- A schedule changes nothing, or leaves less to do. -/
theorem run_progress (hbound : ∀ call s, (body call).length s ≤ c)
    (h : Serialized body s programs sys) (schedule : List ι) :
    (sys.run body schedule = sys ∧ ∀ i ∈ schedule, Rests sys i) ∨
      work c (sys.run body schedule) < work c sys := by
  induction schedule generalizing sys with
  | nil => exact .inl ⟨rfl, by simp⟩
  | cons i schedule ih =>
    have hmoves : Moves body i sys (step body sys i) := step_moves
    rcases hmoves.progress hbound h with ⟨hsame, hrests⟩ | hless
    · rcases ih h with ⟨hrun, hall⟩ | hless
      · exact .inl ⟨by rw [run, Machine.after_cons, hsame]; exact hrun,
          List.forall_mem_cons.mpr ⟨hrests, hall⟩⟩
      · exact .inr (by rw [run, Machine.after_cons, hsame]; exact hless)
    · rcases ih (h.moves hmoves) with ⟨hrun, -⟩ | hmore
      · exact .inr (by rw [run, Machine.after_cons]; exact (congrArg (work c) hrun).trans_lt hless)
      · exact .inr (by rw [run, Machine.after_cons]; exact hmore.trans hless)

omit [Fintype ι] in
/-- All threads rest only if all have finished: the one that has the lock never rests. -/
theorem Serialized.finished_of_rests (h : Serialized body s programs sys)
    (hrests : ∀ i, Rests sys i) : Finished sys := by
  have hfree : sys.holder = none := by
    by_contra hholder
    obtain ⟨j, hj⟩ := Option.ne_none_iff_exists'.mp hholder
    obtain ⟨before, call, rest, -, hinside, -, -⟩ := h.held j hj
    rcases hrests j with ⟨hidle, -⟩ | ⟨call', k, hwaiting, -⟩
    · rw [hidle] at hinside
      cases hinside
    · rw [hwaiting] at hinside
      cases hinside
  intro i
  rcases hrests i with hdone | ⟨call, j, -, hholder⟩
  · exact hdone
  · rw [hfree] at hholder
    cases hholder

omit [Fintype ι] in
/-- Threads that have finished stay as they are. -/
theorem Threads.Finished.run (h : Finished sys) (schedule : List ι) :
    sys.run body schedule = sys := by
  refine Machine.after_invariant (P := (· = sys)) rfl ?_
  rintro t i - rfl
  simp [step, h i]

/-- Rounds that each come to every thread let all calls return, once there are enough of them. -/
theorem finishes_of_work (hbound : ∀ call s, (body call).length s ≤ c)
    (h : Serialized body s programs sys) {rounds : List (List ι)}
    (hrounds : ∀ round ∈ rounds, ∀ i, i ∈ round) (hlong : work c sys ≤ rounds.length) :
    Finished (sys.run body rounds.flatten) := by
  induction rounds generalizing sys with
  | nil =>
    -- nothing is left to do
    have hzero : work c sys = 0 := Nat.le_zero.mp hlong
    apply h.finished_of_rests
    intro i
    rcases run_progress hbound h [i] with ⟨-, hrests⟩ | hless
    · exact hrests i (List.mem_singleton_self i)
    · omega
  | cons round rounds ih =>
    obtain ⟨hround, hrest⟩ := List.forall_mem_cons.mp hrounds
    rw [List.flatten_cons, run, Machine.after_append]
    have hafter : Serialized body s programs (sys.run body round) :=
      Machine.after_invariant h fun _ _ _ ht => ht.moves step_moves
    rcases run_progress hbound h round with ⟨hsame, hrests⟩ | hless
    · have hfinished : Finished sys := h.finished_of_rests fun i => hrests i (hround i)
      change Finished ((sys.run body round).run body rounds.flatten)
      rw [hsame, hfinished.run]
      exact hfinished
    · apply ih hafter hrest
      rw [List.length_cons] at hlong
      omega

/-- A schedule that keeps coming back to every thread lets all calls return. -/
theorem finishes (hbound : ∀ call s, (body call).length s ≤ c) {rounds : List (List ι)}
    (hrounds : ∀ round ∈ rounds, ∀ i, i ∈ round)
    (hlong : ∑ i, (programs i).length * (c + 3) ≤ rounds.length) :
    Finished ((start s programs).run body rounds.flatten) :=
  finishes_of_work hbound serialized_start hrounds hlong

end Fair

end Mutex
