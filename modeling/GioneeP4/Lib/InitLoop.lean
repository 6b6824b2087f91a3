-- SUMMARY: The loop of init, one command at a time between property writes from outside: mirrored properties, and when the loop is idle.
import GioneeP4.Lib.Init
import Mathlib.Algebra.BigOperators.Group.List.Basic
import Mathlib.Algebra.Order.BigOperators.Group.List
import Mathlib.Algebra.Order.Ring.Nat
import Mathlib.Data.List.Infix
import Mathlib.Data.List.Nodup

/-!
# The loop of init

Init runs one command of the action at hand in each turn of its loop, and takes the
next action from the queue when it has none. Properties are written from outside
between any two turns, so a command may find other values than those that brought
its action onto the queue.
-/

namespace Init

/-- Init between two turns, with the commands left of the action at hand. -/
structure Loop (π κ δ : Type) extends State π κ δ where
  current : List (Command π κ δ)

/-- What happens next: a property is written from outside, or init has a turn. -/
inductive Input (π : Type)
  | set (name : π) (value : String)
  | turn

variable {π κ δ : Type} [DecidableEq π] [DecidableEq κ] [DecidableEq δ]

namespace Loop

/-- Takes an action from the queue when none is at hand. -/
def fetch (s : Loop π κ δ) : Loop π κ δ :=
  match s.current, s.queue with
  | [], a :: queue => ⟨{ s.toState with queue }, a.commands⟩
  | _, _ => s

/-- Runs one command, if there is one. -/
def turn (script : List (Action π κ δ)) (s : Loop π κ δ) : Loop π κ δ :=
  match s.fetch.current with
  | [] => s.fetch
  | c :: rest => ⟨runCommand script s.fetch.toState c, rest⟩

def next (script : List (Action π κ δ)) (s : Loop π κ δ) : Input π → Loop π κ δ
  | .set name value => { s with toState := s.toState.setprop script name value }
  | .turn => s.turn script

/-- Nothing is left to run. -/
structure Idle (s : Loop π κ δ) : Prop where
  current : s.current = []
  queue : s.queue = []

end Loop

variable {script : List (Action π κ δ)} {s : Loop π κ δ} {c : Command π κ δ}
variable {rest : List (Command π κ δ)}

theorem mem_foldl_enqueue {queue actions : List (Action π κ δ)} {a : Action π κ δ} :
    a ∈ actions.foldl enqueue queue ↔ a ∈ queue ∨ a ∈ actions := by
  induction actions generalizing queue with
  | nil => simp
  | cons b actions ih =>
    rw [List.foldl_cons, ih, enqueue]
    split
    · grind
    · simp [or_assoc]

theorem nodup_foldl_enqueue {queue actions : List (Action π κ δ)} (h : queue.Nodup) :
    (actions.foldl enqueue queue).Nodup := by
  induction actions generalizing queue with
  | nil => exact h
  | cons a actions ih =>
    rw [List.foldl_cons]
    apply ih
    rw [enqueue]
    split
    · exact h
    · rename_i ha
      rw [List.nodup_append]
      refine ⟨h, List.nodup_singleton a, ?_⟩
      rintro b hb c hc rfl
      exact ha (List.mem_singleton.mp hc ▸ hb)

omit [DecidableEq κ] [DecidableEq δ] in
theorem triggered_subset {properties : π → Option String} :
    ∀ a ∈ c.triggered script properties, a ∈ script := by
  intro a ha
  cases c with
  | setprop name word =>
    simp only [Command.triggered] at ha
    split at ha
    · exact List.mem_of_mem_filter ha
    · cases ha
  | write file word => cases ha
  | start service => cases ha
  | stop service => cases ha

/-- A turn takes an action without commands from the queue, or runs one command. -/
theorem turn_cases :
    (s.fetch.current = [] ∧ s.turn script = s.fetch) ∨
      ∃ c rest, s.fetch.current = c :: rest ∧
        s.turn script = ⟨runCommand script s.fetch.toState c, rest⟩ := by
  unfold Loop.turn
  cases h : s.fetch.current with
  | nil => exact .inl ⟨rfl, rfl⟩
  | cons c rest => exact .inr ⟨c, rest, rfl, rfl⟩

omit [DecidableEq π] [DecidableEq κ] [DecidableEq δ] in
theorem fetch_of_current (h : s.current ≠ []) : s.fetch = s := by
  unfold Loop.fetch
  cases hcurrent : s.current with
  | nil => exact absurd hcurrent h
  | cons c rest => rfl

omit [DecidableEq π] [DecidableEq κ] [DecidableEq δ] in
/-- An action at hand is left alone, and otherwise the next one of the queue is taken. -/
theorem fetch_cases :
    (s.current ≠ [] ∧ s.fetch = s) ∨ (s.Idle ∧ s.fetch = s) ∨
      ∃ a queue, s.current = [] ∧ s.queue = a :: queue ∧
        s.fetch = ⟨{ s.toState with queue }, a.commands⟩ := by
  by_cases hcurrent : s.current = []
  · unfold Loop.fetch
    simp only [hcurrent]
    cases hqueue : s.queue with
    | nil => exact .inr (.inl ⟨⟨hcurrent, hqueue⟩, rfl⟩)
    | cons a queue => exact .inr (.inr ⟨a, queue, trivial, rfl, rfl⟩)
  · exact .inl ⟨hcurrent, fetch_of_current hcurrent⟩

/-- Idle init stays as it is. -/
theorem turns_of_idle {turns : Nat} (h : s.Idle) :
    Machine.after (Loop.next script) s (List.replicate turns .turn) = s := by
  have hfetch : s.fetch = s := by
    rcases @fetch_cases _ _ _ s with ⟨hcurrent, -⟩ | ⟨-, hfetch⟩ | ⟨a, queue, -, hqueue, -⟩
    · exact absurd h.current hcurrent
    · exact hfetch
    · rw [h.queue] at hqueue
      cases hqueue
  have hturn : s.turn script = s := by
    rcases @turn_cases _ _ _ _ _ _ script s with ⟨-, hturn⟩ | ⟨c, rest, hcurrent, -⟩
    · rw [hturn, hfetch]
    · rw [hfetch, h.current] at hcurrent
      cases hcurrent
  induction turns with
  | zero => rfl
  | succ turns ih => rw [List.replicate_succ, Machine.after_cons, Loop.next, hturn, ih]

/-! ## Commands come from the script -/

/-- What is queued and at hand is of the script, and nothing is queued twice. -/
structure Scripted (script : List (Action π κ δ)) (s : Loop π κ δ) : Prop where
  queue : ∀ a ∈ s.queue, a ∈ script
  nodup : s.queue.Nodup
  current : s.current = [] ∨ ∃ a ∈ script, s.current <:+ a.commands

omit [DecidableEq π] [DecidableEq κ] [DecidableEq δ] in
theorem Scripted.fetch (h : Scripted script s) : Scripted script s.fetch := by
  rcases @fetch_cases _ _ _ s with ⟨-, hfetch⟩ | ⟨-, hfetch⟩ | ⟨a, queue, hcurrent, hqueue, hfetch⟩
  · rwa [hfetch]
  · rwa [hfetch]
  · rw [hfetch]
    have hall := h.queue
    have hnodup := h.nodup
    rw [hqueue] at hall hnodup
    obtain ⟨ha, hrest⟩ := List.forall_mem_cons.mp hall
    exact ⟨hrest, hnodup.of_cons, .inr ⟨a, ha, List.suffix_rfl⟩⟩

/-- Actions of the script may join the queue. -/
theorem Scripted.enqueued {t : State π κ δ} {actions : List (Action π κ δ)}
    (h : Scripted script s) (hqueue : t.queue = actions.foldl enqueue s.queue)
    (hactions : ∀ a ∈ actions, a ∈ script) (hrest : rest <:+ s.current) :
    Scripted script ⟨t, rest⟩ where
  queue := by
    intro a ha
    rw [hqueue] at ha
    rcases mem_foldl_enqueue.mp ha with hold | hnew
    · exact h.queue a hold
    · exact hactions a hnew
  nodup := by
    rw [hqueue]
    exact nodup_foldl_enqueue h.nodup
  current := by
    rcases h.current with hnil | ⟨a, ha, hsuffix⟩
    · rw [hnil] at hrest
      exact .inl (List.suffix_nil.mp hrest)
    · exact .inr ⟨a, ha, hrest.trans hsuffix⟩

theorem Scripted.next (h : Scripted script s) (input : Input π) :
    Scripted script (s.next script input) := by
  cases input with
  | set name value =>
    exact h.enqueued rfl (fun a ha => List.mem_of_mem_filter ha) List.suffix_rfl
  | turn =>
    change Scripted script (s.turn script)
    rcases @turn_cases _ _ _ _ _ _ script s with ⟨-, hturn⟩ | ⟨c, rest, hcurrent, hturn⟩
    · rw [hturn]
      exact h.fetch
    · rw [hturn]
      apply h.fetch.enqueued queue_runCommand triggered_subset
      rw [hcurrent]
      exact List.suffix_cons c rest

/-! ## Mirrored properties -/

section Mirror

variable {source target : π}

/-- The command that copies one property into another. -/
def copy (source target : π) : Command π κ δ := .setprop target (.property source)

def Command.sets (name : π) : Command π κ δ → Bool
  | .setprop name' _ => name' = name
  | .write _ _ | .start _ | .stop _ => false

theorem properties_runCommand {name : π} {t : State π κ δ} (h : c.sets name = false) :
    (runCommand script t c).properties name = t.properties name := by
  cases c with
  | setprop name' word =>
    simp only [runCommand]
    cases word.expand t.properties with
    | none => rfl
    | some value => exact Function.update_of_ne (Ne.symm (of_decide_eq_false h)) ..
  | write file word =>
    simp only [runCommand]
    cases word.expand t.properties <;> rfl
  | start service => rfl
  | stop service => rfl

omit [DecidableEq κ] [DecidableEq δ] in
theorem eq_setprop_of_sets {name : π} (h : c.sets name) : ∃ word, c = .setprop name word := by
  cases c with
  | setprop name' word =>
    obtain rfl := of_decide_eq_true h
    exact ⟨word, rfl⟩
  | write file word => cases h
  | start service => cases h
  | stop service => cases h

/-- Every action that waits for `source` copies it into `target`, and nothing else in the script
    sets `target`. -/
structure Mirrors (script : List (Action π κ δ)) (source target : π) : Prop where
  ne : source ≠ target
  copies : ∀ a ∈ script, a.property = source → copy source target ∈ a.commands
  only : ∀ a ∈ script, ∀ c ∈ a.commands, c.sets target → c = copy source target

/-- A value of `source` that an action waits for has reached `target`, or is going to. -/
structure Reflected (script : List (Action π κ δ)) (source target : π) (s : Loop π κ δ) :
    Prop where
  scripted : Scripted script s
  reaches : ∀ v, s.properties source = some v → (∃ a ∈ script, a.waitsFor source v) →
    s.properties target = some v ∨ copy source target ∈ s.current ∨
      ∃ a ∈ s.queue, copy source target ∈ a.commands

omit [DecidableEq κ] [DecidableEq δ] in
theorem property_of_waitsFor {a : Action π κ δ} {name : π} {v : String}
    (h : a.waitsFor name v = true) : a.property = name := by
  simp only [Action.waitsFor, Bool.and_eq_true, decide_eq_true_eq] at h
  exact h.1

omit [DecidableEq κ] [DecidableEq δ] in
theorem Reflected.fetch (h : Reflected script source target s) :
    Reflected script source target s.fetch := by
  refine ⟨h.scripted.fetch, ?_⟩
  rcases @fetch_cases _ _ _ s with ⟨-, hfetch⟩ | ⟨-, hfetch⟩ | ⟨a, queue, hcurrent, hqueue, hfetch⟩
  · rw [hfetch]
    exact h.reaches
  · rw [hfetch]
    exact h.reaches
  · rw [hfetch]
    intro v hv hwaits
    rcases h.reaches v hv hwaits with hset | hcopy | ⟨b, hb, hcopy⟩
    · exact .inl hset
    · rw [hcurrent] at hcopy
      cases hcopy
    · rw [hqueue] at hb
      rcases List.mem_cons.mp hb with rfl | hb
      · exact .inr (.inl hcopy)
      · exact .inr (.inr ⟨b, hb, hcopy⟩)

/-- Writes of other properties than the mirror, from outside or by a command at hand. -/
theorem Reflected.setprop {name : π} {value : String} (hmirrors : Mirrors script source target)
    (h : Reflected script source target s) (hname : name ≠ target) (hsuffix : rest <:+ s.current)
    (hrest : copy source target ∈ s.current → copy source target ∈ rest) :
    Reflected script source target ⟨s.toState.setprop script name value, rest⟩ := by
  refine ⟨h.scripted.enqueued rfl (fun a ha => List.mem_of_mem_filter ha) hsuffix, ?_⟩
  intro v hv hwaits
  by_cases hsource : name = source
  · -- an action that waits for the value is on the queue now
    subst hsource
    obtain ⟨a, ha, hfires⟩ := hwaits
    have hvalue : value = v := by
      change Function.update s.properties name (some value) name = some v at hv
      rw [Function.update_self] at hv
      exact Option.some.inj hv
    refine .inr (.inr ⟨a, ?_, hmirrors.copies a ha (property_of_waitsFor hfires)⟩)
    exact mem_foldl_enqueue.mpr (.inr (List.mem_filter.mpr ⟨ha, hvalue ▸ hfires⟩))
  · change Function.update s.properties name (some value) source = some v at hv
    rw [Function.update_of_ne (Ne.symm hsource)] at hv
    rcases h.reaches v hv hwaits with hset | hcopy | ⟨b, hb, hcopy⟩
    · left
      change Function.update s.properties name (some value) target = some v
      rwa [Function.update_of_ne (Ne.symm hname)]
    · exact .inr (.inl (hrest hcopy))
    · exact .inr (.inr ⟨b, mem_foldl_enqueue.mpr (.inl hb), hcopy⟩)

/-- The copying command brings the value to the mirror. -/
theorem Reflected.copied (h : Reflected script source target s) (hne : source ≠ target)
    (hsuffix : rest <:+ s.current) :
    Reflected script source target ⟨runCommand script s.toState (copy source target), rest⟩ := by
  refine ⟨h.scripted.enqueued queue_runCommand triggered_subset hsuffix, ?_⟩
  intro v hv _
  left
  simp only [copy, runCommand, Word.expand] at hv ⊢
  cases hsource : s.properties source with
  | none =>
    rw [hsource] at hv
    exact absurd (hsource.symm.trans hv) (by simp)
  | some value =>
    rw [hsource] at hv
    change Function.update s.properties target (some value) source = some v at hv
    rw [Function.update_of_ne hne, hsource] at hv
    change Function.update s.properties target (some value) target = some v
    rw [Function.update_self, ← hv]

/-- A command that sets no property. -/
theorem Reflected.kept {t : State π κ δ} (h : Reflected script source target s)
    (hproperties : t.properties = s.properties) (hqueue : t.queue = s.queue)
    (hsuffix : rest <:+ s.current)
    (hrest : copy source target ∈ s.current → copy source target ∈ rest) :
    Reflected script source target ⟨t, rest⟩ := by
  refine ⟨h.scripted.enqueued (hqueue.trans List.foldl_nil.symm) (by simp) hsuffix, ?_⟩
  intro v hv hwaits
  rw [hproperties] at hv
  rcases h.reaches v hv hwaits with hset | hcopy | ⟨b, hb, hcopy⟩
  · exact .inl (hproperties ▸ hset)
  · exact .inr (.inl (hrest hcopy))
  · exact .inr (.inr ⟨b, hqueue ▸ hb, hcopy⟩)

theorem Reflected.runCommand (hmirrors : Mirrors script source target)
    (h : Reflected script source target s) (hcurrent : s.current = c :: rest) :
    Reflected script source target ⟨Init.runCommand script s.toState c, rest⟩ := by
  have hsuffix : rest <:+ s.current := hcurrent ▸ List.suffix_cons c rest
  by_cases hcopy : c = copy source target
  · rw [hcopy]
    exact h.copied hmirrors.ne hsuffix
  · have hrest : copy source target ∈ s.current → copy source target ∈ rest := by
      intro hmem
      rw [hcurrent] at hmem
      exact (List.mem_cons.mp hmem).resolve_left (Ne.symm hcopy)
    obtain ⟨a, ha, hcommand⟩ : ∃ a ∈ script, c ∈ a.commands := by
      rcases h.scripted.current with hnil | ⟨a, ha, hof⟩
      · rw [hcurrent] at hnil
        cases hnil
      · exact ⟨a, ha, hof.subset (hcurrent ▸ List.mem_cons_self ..)⟩
    cases c with
    | setprop name word =>
      have hname : name ≠ target := by
        rintro rfl
        exact hcopy (hmirrors.only a ha _ hcommand (decide_eq_true rfl))
      simp only [Init.runCommand]
      cases word.expand s.properties with
      | none => exact h.kept rfl rfl hsuffix hrest
      | some value => exact h.setprop hmirrors hname hsuffix hrest
    | write file word =>
      simp only [Init.runCommand]
      cases word.expand s.properties <;> exact h.kept rfl rfl hsuffix hrest
    | start service => exact h.kept rfl rfl hsuffix hrest
    | stop service => exact h.kept rfl rfl hsuffix hrest

/-- The input is a turn of init, or a write of another property than the mirror. -/
def Input.Avoids (target : π) : Input π → Prop
  | .set name _ => name ≠ target
  | .turn => True

theorem Reflected.next {input : Input π} (hmirrors : Mirrors script source target)
    (h : Reflected script source target s) (hinput : input.Avoids target) :
    Reflected script source target (s.next script input) := by
  cases input with
  | set name value => exact h.setprop hmirrors hinput List.suffix_rfl id
  | turn =>
    change Reflected script source target (s.turn script)
    rcases @turn_cases _ _ _ _ _ _ script s with ⟨-, hturn⟩ | ⟨c, rest, hcurrent, hturn⟩
    · rw [hturn]
      exact h.fetch
    · rw [hturn]
      exact h.fetch.runCommand hmirrors hcurrent

/-- Along every run in which nobody else sets the mirror. -/
theorem Reflected.run {inputs : List (Input π)} (hmirrors : Mirrors script source target)
    (h : Reflected script source target s) (hinputs : ∀ input ∈ inputs, input.Avoids target) :
    Reflected script source target (Machine.after (Loop.next script) s inputs) :=
  Machine.after_invariant h fun _ input hinput ht => ht.next hmirrors (hinputs input hinput)

omit [DecidableEq κ] [DecidableEq δ] in
/-- Once init is idle the mirror shows the value. -/
theorem Reflected.of_idle {v : String} (h : Reflected script source target s) (hidle : s.Idle)
    (hv : s.properties source = some v) (hwaits : ∃ a ∈ script, a.waitsFor source v) :
    s.properties target = some v := by
  rcases h.reaches v hv hwaits with hset | hcopy | ⟨a, ha, -⟩
  · exact hset
  · rw [hidle.current] at hcopy
    cases hcopy
  · rw [hidle.queue] at ha
    cases ha

end Mirror

/-! ## When the loop is idle -/

section Cost

variable (cost : Action π κ δ → Nat) (fire : Command π κ δ → Nat)

/-- Bounds on the turns that actions and commands take, with all they trigger. -/
structure Costs (script : List (Action π κ δ)) : Prop where
  action : ∀ a ∈ script, (a.commands.map fun c => fire c + 1).sum < cost a
  command : ∀ a ∈ script, ∀ c ∈ a.commands, ∀ properties,
    ((c.triggered script properties).map cost).sum ≤ fire c

/-- A bound on the turns that are left. -/
def Loop.remaining (s : Loop π κ δ) : Nat :=
  (s.current.map fun c => fire c + 1).sum + (s.queue.map cost).sum

variable {cost fire}

omit [DecidableEq π] [DecidableEq κ] [DecidableEq δ] in
theorem remaining_of_idle (h : s.Idle) : s.remaining cost fire = 0 := by
  rw [Loop.remaining, h.current, h.queue]
  rfl

theorem sum_foldl_enqueue {queue actions : List (Action π κ δ)} :
    ((actions.foldl enqueue queue).map cost).sum ≤ (queue.map cost).sum + (actions.map cost).sum := by
  induction actions generalizing queue with
  | nil => simp
  | cons a actions ih =>
    have hone : ((enqueue queue a).map cost).sum ≤ (queue.map cost).sum + cost a := by
      rw [enqueue]
      split <;> simp
    have hrest := @ih (enqueue queue a)
    rw [List.foldl_cons, List.map_cons, List.sum_cons]
    omega

omit [DecidableEq κ] [DecidableEq δ] in
/-- Taking an action from the queue costs a turn less than it had. -/
theorem remaining_fetch (hcosts : Costs cost fire script) (h : Scripted script s) :
    (s.fetch = s ∧ (s.current ≠ [] ∨ s.Idle)) ∨ s.fetch.remaining cost fire < s.remaining cost fire := by
  rcases @fetch_cases _ _ _ s with ⟨hcurrent, hfetch⟩ | ⟨hidle, hfetch⟩ |
    ⟨a, queue, hcurrent, hqueue, hfetch⟩
  · exact .inl ⟨hfetch, .inl hcurrent⟩
  · exact .inl ⟨hfetch, .inr hidle⟩
  · right
    have ha : a ∈ script := h.queue a (hqueue ▸ List.mem_cons_self ..)
    have hless := hcosts.action a ha
    simp only [hfetch, Loop.remaining, hcurrent, hqueue, List.map_nil, List.sum_nil, List.map_cons,
      List.sum_cons]
    omega

/-- A turn leaves less to do, unless nothing was left. -/
theorem remaining_turn (hcosts : Costs cost fire script) (h : Scripted script s) :
    (s.Idle ∧ s.turn script = s) ∨ (s.turn script).remaining cost fire < s.remaining cost fire := by
  rcases @turn_cases _ _ _ _ _ _ script s with ⟨hnil, hturn⟩ | ⟨c, rest, hcurrent, hturn⟩
  · rw [hturn]
    rcases remaining_fetch hcosts h with ⟨hfetch, hcurrent | hidle⟩ | hless
    · rw [hfetch] at hnil
      exact absurd hnil hcurrent
    · exact .inl ⟨hidle, hfetch⟩
    · exact .inr hless
  · right
    obtain ⟨a, ha, hsuffix⟩ : ∃ a ∈ script, s.fetch.current <:+ a.commands := by
      refine h.fetch.current.resolve_left ?_
      rw [hcurrent]
      exact List.cons_ne_nil c rest
    have hc : c ∈ a.commands := hsuffix.subset (hcurrent ▸ List.mem_cons_self ..)
    have hfire := hcosts.command a ha c hc s.fetch.properties
    have hqueue : ((runCommand script s.fetch.toState c).queue.map cost).sum ≤
        (s.fetch.queue.map cost).sum + fire c := by
      rw [queue_runCommand]
      exact sum_foldl_enqueue.trans (Nat.add_le_add_left hfire _)
    have hle : s.fetch.remaining cost fire ≤ s.remaining cost fire := by
      rcases remaining_fetch hcosts h with ⟨hfetch, -⟩ | hless
      · rw [hfetch]
      · exact hless.le
    refine lt_of_lt_of_le ?_ hle
    simp only [hturn, Loop.remaining, hcurrent, List.map_cons, List.sum_cons]
    omega

/-- Left alone, init is idle after as many turns as it has left to do. -/
theorem idle_of_turns {turns : Nat} (hcosts : Costs cost fire script) (h : Scripted script s)
    (hturns : s.remaining cost fire ≤ turns) :
    (Machine.after (Loop.next script) s (List.replicate turns .turn)).Idle := by
  induction turns generalizing s with
  | zero =>
    rcases remaining_turn hcosts h with ⟨hidle, -⟩ | hless
    · exact hidle
    · omega
  | succ turns ih =>
    rw [List.replicate_succ, Machine.after_cons]
    apply ih (h.next .turn)
    change (s.turn script).remaining cost fire ≤ turns
    rcases remaining_turn hcosts h with ⟨hidle, hsame⟩ | hless
    · rw [hsame, remaining_of_idle hidle]
      exact Nat.zero_le turns
    · omega

omit [DecidableEq κ] [DecidableEq δ] in
/-- What is left to do is never more than all actions, and one at hand. -/
theorem Scripted.remaining_le (hcosts : Costs cost fire script) (h : Scripted script s) :
    s.remaining cost fire ≤ 2 * (script.map cost).sum := by
  have hqueue : (s.queue.map cost).sum ≤ (script.map cost).sum := by
    obtain ⟨actions, hperm, hsublist⟩ := List.subperm_of_subset h.nodup h.queue
    rw [← (hperm.map cost).sum_eq]
    exact (hsublist.map cost).sum_le_sum fun _ _ => Nat.zero_le _
  have hcurrent : (s.current.map fun c => fire c + 1).sum ≤ (script.map cost).sum := by
    rcases h.current with hnil | ⟨a, ha, hsuffix⟩
    · rw [hnil]
      exact Nat.zero_le _
    · have hsub : (s.current.map fun c => fire c + 1).sum ≤
          (a.commands.map fun c => fire c + 1).sum :=
        (hsuffix.sublist.map _).sum_le_sum (fun _ _ => Nat.zero_le _)
      have hle : cost a ≤ (script.map cost).sum :=
        List.single_le_sum (fun _ _ => Nat.zero_le _) _ (List.mem_map_of_mem ha)
      have := hcosts.action a ha
      omega
  rw [Loop.remaining]
  omega

end Cost

/-! ## Writes that wait for the mirror -/

section Handshake

variable {source target : π} {t : State π κ δ} {a : Action π κ δ} {v : String}

/-- The command sets no property. -/
def Command.Silent : Command π κ δ → Prop
  | .setprop _ _ => False
  | .write _ _ | .start _ | .stop _ => True

instance : DecidablePred (@Command.Silent π κ δ)
  | .setprop _ _ => inferInstanceAs (Decidable False)
  | .write _ _ | .start _ | .stop _ => inferInstanceAs (Decidable True)

/-- One write of a property, with all that init does about it. -/
def respond (script : List (Action π κ δ)) (source : π) (s : State π κ δ) (v : String) :
    State π κ δ :=
  settle script (s.setprop script source v)

/-- The action is the only one that waits for the value, and copies it into the mirror at its end.
    Nothing waits for the mirror. -/
structure Acknowledges (script : List (Action π κ δ)) (source target : π) (v : String)
    (a : Action π κ δ) : Prop where
  fired : script.filter (·.waitsFor source v) = [a]
  ends : ∃ before, a.commands = before ++ [copy source target] ∧ ∀ c ∈ before, c.Silent
  unheard : ∀ b ∈ script, b.property ≠ target

/-- Between two inputs: init has dealt with all writes, or is on its way through the action of the
    last one. `t` is where it is going. -/
inductive Follows (script : List (Action π κ δ)) (source target : π) (s : Loop π κ δ)
    (t : State π κ δ) : Prop
  | settled (hcurrent : s.current = []) (hstate : s.toState = t) (hqueue : t.queue = [])
  | behind {before pending : List (Command π κ δ)} {v : String}
      (hpending : (s.current = [] ∧ ∃ a, s.queue = [a] ∧ a.commands = pending) ∨
        (s.current = pending ∧ s.queue = []))
      (hends : pending = before ++ [copy source target]) (hsilent : ∀ c ∈ before, c.Silent)
      (hresult : runCommands script s.toState.cleared pending = t) (hqueue : t.queue = [])
      (hsource : s.properties source = some v) (htarget : s.properties target ≠ some v)

theorem properties_runCommand_of_silent (h : c.Silent) :
    (runCommand script t c).properties = t.properties := by
  funext name
  apply properties_runCommand
  cases c with
  | setprop name word => exact absurd h id
  | write file word => rfl
  | start service => rfl
  | stop service => rfl

omit [DecidableEq κ] [DecidableEq δ] in
@[simp] theorem sets_copy : (copy source target : Command π κ δ).sets target = true :=
  decide_eq_true rfl

omit [DecidableEq κ] [DecidableEq δ] in
theorem triggered_of_silent (h : c.Silent) {properties : π → Option String} :
    c.triggered script properties = [] := by
  cases c with
  | setprop name word => exact absurd h id
  | write file word => rfl
  | start service => rfl
  | stop service => rfl

omit [DecidableEq κ] [DecidableEq δ] in
/-- Nothing joins the queue when the mirror changes. -/
theorem triggered_of_unheard (hunheard : ∀ b ∈ script, b.property ≠ target) (h : c.sets target)
    {properties : π → Option String} : c.triggered script properties = [] := by
  obtain ⟨word, rfl⟩ := eq_setprop_of_sets h
  simp only [Command.triggered]
  cases word.expand properties with
  | none => rfl
  | some value =>
    rw [List.filter_eq_nil_iff]
    exact fun b hb hwaits => hunheard b hb (property_of_waitsFor hwaits)

theorem queue_runCommand_of_silent (h : c.Silent) : (runCommand script t c).queue = t.queue := by
  rw [queue_runCommand, triggered_of_silent h, List.foldl_nil]

theorem queue_runCommands_of_silent {before : List (Command π κ δ)}
    (h : ∀ c ∈ before, c.Silent) : (runCommands script t before).queue = t.queue :=
  Machine.after_invariant (P := fun t' : State π κ δ => t'.queue = t.queue) rfl
    fun _ _ hc ht => (queue_runCommand_of_silent (h _ hc)).trans ht

theorem queue_runCommands_of_ends {before : List (Command π κ δ)}
    (hunheard : ∀ b ∈ script, b.property ≠ target) (hsilent : ∀ c ∈ before, c.Silent) :
    (runCommands script t (before ++ [copy source target])).queue = t.queue := by
  rw [runCommands, Machine.after_append, Machine.after_cons, Machine.after_nil, queue_runCommand,
    triggered_of_unheard hunheard sets_copy,
    List.foldl_nil]
  exact queue_runCommands_of_silent hsilent

/-- A value that is acknowledged is dealt with by one action. -/
theorem respond_eq (ha : Acknowledges script source target v a) (hqueue : t.queue = []) :
    respond script source t v =
      runCommands script (t.setprop script source v).cleared a.commands := by
  obtain ⟨before, hends, hsilent⟩ := ha.ends
  have hfired : (t.setprop script source v).queue = [a] := by
    simp only [State.setprop, hqueue, ha.fired]
    rfl
  have hmem : a ∈ script := List.mem_of_mem_filter (ha.fired ▸ List.mem_singleton_self a)
  obtain ⟨rounds, hrounds⟩ : ∃ rounds, script.length = rounds + 1 :=
    ⟨script.length - 1, by have := List.length_pos_of_mem hmem; omega⟩
  rw [respond, settle, hrounds, drain_of_queue hfired]
  apply drain_of_idle
  rw [hends]
  exact queue_runCommands_of_ends ha.unheard hsilent

/-- A write that waits for the mirror: it shows the last value, and the new one is another. -/
def Polite (source target : π) (values : String → Prop) (s : Loop π κ δ) : Input π → Prop
  | .set name v => name = source ∧ values v ∧ s.properties target = s.properties source ∧
      s.properties source ≠ some v
  | .turn => True

instance {values : String → Prop} [DecidablePred values] :
    DecidablePred (Polite source target values s)
  | .set name v => inferInstanceAs (Decidable (name = source ∧ values v ∧
      s.properties target = s.properties source ∧ s.properties source ≠ some v))
  | .turn => inferInstanceAs (Decidable True)

/-- The values written from outside. -/
def writes (inputs : List (Input π)) : List String :=
  inputs.filterMap fun
    | .set _ v => some v
    | .turn => none

/-- Init moves along where it is going. -/
theorem Follows.turn (h : Follows script source target s t) :
    Follows script source target (s.turn script) t := by
  cases h with
  | settled hcurrent hstate hqueue =>
    have hidle : s.turn script = s := by
      rw [← hstate] at hqueue
      unfold Loop.turn Loop.fetch
      simp only [hcurrent, hqueue]
    rw [hidle]
    exact .settled hcurrent hstate hqueue
  | @behind before pending v hpending hends hsilent hresult hqueue hsource htarget =>
    -- the action is at hand now, and its first command is run
    have hfetch : s.fetch = ⟨s.toState.cleared, pending⟩ := by
      rcases hpending with ⟨hcurrent, a, haction, rfl⟩ | ⟨rfl, hnone⟩
      · unfold Loop.fetch
        simp only [hcurrent, haction]
        rfl
      · have hkept : s.fetch = s := by
          apply fetch_of_current
          rw [hends]
          exact List.append_ne_nil_of_right_ne_nil _ (List.cons_ne_nil _ _)
        rw [hkept]
        obtain ⟨⟨properties, files, running, queue⟩, current⟩ := s
        cases hnone
        rfl
    rcases before with _ | ⟨c, before⟩
    · -- the copy is the last command
      have hturn : s.turn script = ⟨t, []⟩ := by
        rw [hends] at hfetch hresult
        unfold Loop.turn
        rw [hfetch, ← hresult]
        rfl
      rw [hturn]
      exact .settled rfl rfl hqueue
    · obtain ⟨hc, hrest⟩ := List.forall_mem_cons.mp hsilent
      have hproperties : (runCommand script s.toState.cleared c).properties = s.properties :=
        properties_runCommand_of_silent hc
      have hkept : (runCommand script s.toState.cleared c).queue = [] :=
        queue_runCommand_of_silent hc
      have hturn : s.turn script =
          ⟨runCommand script s.toState.cleared c, before ++ [copy source target]⟩ := by
        unfold Loop.turn
        rw [hfetch, hends]
        rfl
      have hcleared : (runCommand script s.toState.cleared c).cleared =
          runCommand script s.toState.cleared c := by
        generalize runCommand script s.toState.cleared c = u at hkept
        cases u
        cases hkept
        rfl
      rw [hturn]
      refine .behind (.inr ⟨rfl, hkept⟩) rfl hrest ?_ hqueue (hproperties ▸ hsource)
        (hproperties ▸ htarget)
      rw [hcleared, ← hresult, hends]
      rfl

/-- A write that finds the mirror up to date finds init idle. -/
theorem Follows.of_mirror (h : Follows script source target s t)
    (hmirror : s.properties target = s.properties source) : s = ⟨t, []⟩ ∧ t.queue = [] := by
  cases h with
  | settled hcurrent hstate hqueue =>
    obtain ⟨state, current⟩ := s
    cases hcurrent
    cases hstate
    exact ⟨rfl, hqueue⟩
  | behind hpending hends hsilent hresult hqueue hsource htarget =>
    exact absurd (hmirror.trans hsource) htarget

theorem Follows.of_idle
    (h : Follows script source target s t) (hidle : s.Idle) : s = ⟨t, []⟩ := by
  cases h with
  | settled hcurrent hstate hqueue =>
    obtain ⟨state, current⟩ := s
    cases hcurrent
    cases hstate
    rfl
  | behind hpending hends hsilent hresult hqueue hsource htarget =>
    rcases hpending with ⟨-, a, haction, -⟩ | ⟨hcurrent, -⟩
    · rw [hidle.queue] at haction
      cases haction
    · rw [hidle.current, hends] at hcurrent
      exact absurd hcurrent.symm (List.append_ne_nil_of_right_ne_nil _ (List.cons_ne_nil _ _))

/-- A polite write sends init on its way. -/
theorem Follows.set (ha : Acknowledges script source target v a) (hne : source ≠ target)
    (h : Follows script source target s t)
    (hmirror : s.properties target = s.properties source) (hnew : s.properties source ≠ some v) :
    Follows script source target (s.next script (.set source v)) (respond script source t v) := by
  obtain ⟨rfl, hqueue⟩ := h.of_mirror hmirror
  obtain ⟨before, hends, hsilent⟩ := ha.ends
  have hfired : (t.setprop script source v).queue = [a] := by
    simp only [State.setprop, hqueue, ha.fired]
    rfl
  have htarget : (t.setprop script source v).properties target ≠ some v := by
    change Function.update t.properties source (some v) target ≠ some v
    rw [Function.update_of_ne (Ne.symm hne), hmirror]
    exact hnew
  refine .behind (.inl ⟨rfl, a, hfired, rfl⟩) hends hsilent ?_ ?_ (Function.update_self ..) htarget
  · exact (respond_eq ha hqueue).symm
  · rw [respond_eq ha hqueue, hends]
    exact queue_runCommands_of_ends ha.unheard hsilent

/-- The loop follows the writes, each with all that init does about it, as long as they are
    polite. -/
theorem Follows.run {values : String → Prop} {inputs : List (Input π)} (hne : source ≠ target)
    (hvalues : ∀ v, values v → ∃ a, Acknowledges script source target v a)
    (h : Follows script source target s t)
    (hpolite : ∀ p ∈ Machine.steps (Loop.next script) s inputs,
      Polite source target values p.1 p.2) :
    Follows script source target (Machine.after (Loop.next script) s inputs)
      (Machine.after (respond script source) t (writes inputs)) := by
  induction inputs generalizing s t with
  | nil => exact h
  | cons input inputs ih =>
    rw [Machine.steps, List.forall_mem_cons] at hpolite
    cases input with
    | turn => exact ih h.turn hpolite.2
    | set name v =>
      obtain ⟨⟨rfl, hv, hmirror, hnew⟩, hrest⟩ := hpolite
      obtain ⟨a, ha⟩ := hvalues v hv
      exact ih (h.set ha hne hmirror hnew) hrest

end Handshake

end Init
