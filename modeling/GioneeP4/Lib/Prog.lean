-- SUMMARY: Programs that may fail and keep what they did to their state: run equations and the rules of postconditions for both exits and of frames.
import Mathlib.Logic.Basic

/-!
# Programs that may fail

A program reads and writes a state and either returns a value or fails; a failure
keeps the state it was reached in. `exec` runs a program, `Ensures` says what
holds at its two exits, `Frames` what a run leaves alone, and the rules below take
a program apart.
-/

/-- Programs over a state `σ` that may fail with an `ε`. -/
abbrev Prog (ε σ : Type) := ExceptT ε (StateM σ)

namespace Prog

variable {ε σ α β : Type} {s : σ}

/-- The outcome of a program and the state it leaves, failed or not. -/
def exec (m : Prog ε σ α) (s : σ) : Except ε α × σ := (ExceptT.run m).run s

/-! ## Run equations -/

@[simp] theorem exec_pure {a : α} : exec (pure a : Prog ε σ α) s = (.ok a, s) := rfl

@[simp] theorem exec_get : exec (get : Prog ε σ σ) s = (.ok s, s) := rfl

@[simp] theorem exec_modify {f : σ → σ} :
    exec (modify f : Prog ε σ PUnit) s = (.ok (), f s) := rfl

@[simp] theorem exec_bind {m : Prog ε σ α} {f : α → Prog ε σ β} :
    exec (m >>= f) s =
      match exec m s with
      | (.ok a, t) => exec (f a) t
      | (.error e, t) => (.error e, t) := by
  simp only [exec, ExceptT.run_bind, StateT.run_bind]
  rcases h : StateT.run (ExceptT.run m) s with ⟨_ | a, t⟩ <;> rfl

/-- A step that succeeds hands its value on. -/
theorem exec_bind_of_ok {m : Prog ε σ α} {f : α → Prog ε σ β} {a : α} {t : σ}
    (h : exec m s = (.ok a, t)) : exec (m >>= f) s = exec (f a) t := by
  rw [exec_bind, h]

/-- A step that fails is the end of what follows it. -/
theorem exec_bind_of_error {m : Prog ε σ α} {f : α → Prog ε σ β} {e : ε} {t : σ}
    (h : exec m s = (.error e, t)) : exec (m >>= f) s = (.error e, t) := by
  rw [exec_bind, h]

@[simp] theorem exec_map {m : Prog ε σ α} {f : α → β} :
    exec (f <$> m) s =
      match exec m s with
      | (.ok a, t) => (.ok (f a), t)
      | (.error e, t) => (.error e, t) := by
  simp only [exec, ExceptT.run_map, StateT.run_map]
  rcases h : StateT.run (ExceptT.run m) s with ⟨_ | a, t⟩ <;> rfl

/-- An outcome that does not depend on the state. -/
@[simp] theorem exec_liftExcept {r : Except ε α} : exec (liftM r : Prog ε σ α) s = (r, s) := by
  cases r <;> rfl

/-! ## Postconditions -/

/-- From `s` the program returns a value and state in `Q`, or fails with one in `E`. -/
def Ensures (m : Prog ε σ α) (s : σ) (Q : α → σ → Prop) (E : ε → σ → Prop) : Prop :=
  match exec m s with
  | (.ok a, t) => Q a t
  | (.error e, t) => E e t

variable {Q Q' : α → σ → Prop} {E E' : ε → σ → Prop}

theorem ensures_pure {a : α} (h : Q a s) : Ensures (pure a) s Q E := h

theorem ensures_throw {e : ε} (h : E e s) : Ensures (throw e) s Q E := h

theorem ensures_get {Q : σ → σ → Prop} (h : Q s s) : Ensures get s Q E := h

theorem ensures_modify {f : σ → σ} {Q : PUnit → σ → Prop} (h : Q () (f s)) :
    Ensures (modify f) s Q E := h

theorem ensures_bind {m : Prog ε σ α} {f : α → Prog ε σ β} {R : β → σ → Prop}
    (h : Ensures m s (fun a t => Ensures (f a) t R E) E) : Ensures (m >>= f) s R E := by
  unfold Ensures at h ⊢
  rw [exec_bind]
  rcases hexec : exec m s with ⟨_ | a, t⟩ <;> rw [hexec] at h <;> exact h

/-- A step whose outcome is known hands its value on. -/
theorem ensures_bind_of_ok {m : Prog ε σ α} {f : α → Prog ε σ β} {R : β → σ → Prop} {a : α}
    {t : σ} (h : exec m s = (.ok a, t)) (hf : Ensures (f a) t R E) : Ensures (m >>= f) s R E := by
  unfold Ensures
  rw [exec_bind_of_ok h]
  exact hf

theorem ensures_mono {m : Prog ε σ α} (h : Ensures m s Q E) (hQ : ∀ a t, Q a t → Q' a t)
    (hE : ∀ e t, E e t → E' e t) : Ensures m s Q' E' := by
  unfold Ensures at h ⊢
  rcases hexec : exec m s with ⟨e | a, t⟩ <;> rw [hexec] at h
  · exact hE e t h
  · exact hQ a t h

/-- What a program ensures holds of what it returns. -/
theorem Ensures.of_ok {m : Prog ε σ α} {a : α} {t : σ} (h : Ensures m s Q E)
    (hexec : exec m s = (.ok a, t)) : Q a t := by
  unfold Ensures at h
  rw [hexec] at h
  exact h

/-- What a program ensures holds of what it fails with. -/
theorem Ensures.of_error {m : Prog ε σ α} {e : ε} {t : σ} (h : Ensures m s Q E)
    (hexec : exec m s = (.error e, t)) : E e t := by
  unfold Ensures at h
  rw [hexec] at h
  exact h

/-! ## Postconditions from every state -/

/-- From every state the program returns a value in `Q`, or fails with an `E`. -/
def Always (m : Prog ε σ α) (Q : α → Prop) (E : ε → Prop) : Prop :=
  ∀ s, Ensures m s (fun a _ => Q a) fun e _ => E e

section Always

variable {P : α → Prop} {E : ε → Prop} {R : β → Prop}

theorem always_pure {a : α} (h : P a) : Always (pure a : Prog ε σ α) P E := fun _ => h

theorem always_throw {e : ε} (h : E e) : Always (throw e : Prog ε σ α) P E := fun _ => h

theorem always_get : Always (get : Prog ε σ σ) (fun _ => True) E := fun _ => trivial

theorem always_modify {f : σ → σ} : Always (modify f : Prog ε σ PUnit) (fun _ => True) E :=
  fun _ => trivial

theorem always_bind {m : Prog ε σ α} {f : α → Prog ε σ β} (hm : Always m P E)
    (hf : ∀ a, P a → Always (f a) R E) : Always (m >>= f) R E := fun s =>
  ensures_bind (ensures_mono (hm s) (fun a t ha => hf a ha t) fun _ _ h => h)

theorem always_ite {c : Prop} [Decidable c] {m₁ m₂ : Prog ε σ α} (h₁ : Always m₁ P E)
    (h₂ : Always m₂ P E) : Always (if c then m₁ else m₂) P E := by
  split
  · exact h₁
  · exact h₂

theorem always_mono {m : Prog ε σ α} {P' : α → Prop} {E' : ε → Prop} (h : Always m P E)
    (hP : ∀ a, P a → P' a) (hE : ∀ e, E e → E' e) : Always m P' E' := fun s =>
  ensures_mono (h s) (fun a _ => hP a) fun e _ => hE e

/-- Every program meets the postcondition that asks for nothing. -/
theorem always_true {m : Prog ε σ α} : Always m (fun _ => True) fun _ => True := by
  intro s
  unfold Ensures
  split <;> trivial

/-- A postcondition on failures alone is about the failures that can be reached. -/
theorem always_true_iff {m : Prog ε σ α} :
    Always m (fun _ => True) E ↔ ∀ s e t, exec m s = (.error e, t) → E e := by
  constructor
  · intro h s e t hexec
    exact (h s).of_error hexec
  · intro h s
    unfold Ensures
    split
    · trivial
    · exact h s _ _ ‹_›

end Always

/-! ## Frames -/

/-- The program leaves a part of the state as it was, failed or not. -/
def Frames {γ : Type} (part : σ → γ) (m : Prog ε σ α) : Prop := ∀ s, part (exec m s).2 = part s

section Frames

variable {γ : Type} {part : σ → γ}

theorem frames_pure {a : α} : Frames part (pure a : Prog ε σ α) := fun _ => rfl

theorem frames_throw {e : ε} : Frames part (throw e : Prog ε σ α) := fun _ => rfl

theorem frames_get : Frames part (get : Prog ε σ σ) := fun _ => rfl

theorem frames_modify {f : σ → σ} (h : ∀ s, part (f s) = part s) :
    Frames part (modify f : Prog ε σ PUnit) := h

theorem frames_bind {m : Prog ε σ α} {f : α → Prog ε σ β} (hm : Frames part m)
    (hf : ∀ a, Frames part (f a)) : Frames part (m >>= f) := by
  intro s
  rcases hexec : exec m s with ⟨e | a, t⟩
  · rw [exec_bind_of_error hexec, ← hm s, hexec]
  · rw [exec_bind_of_ok hexec, hf a t, ← hm s, hexec]

theorem frames_ite {c : Prop} [Decidable c] {m₁ m₂ : Prog ε σ α} (h₁ : Frames part m₁)
    (h₂ : Frames part m₂) : Frames part (if c then m₁ else m₂) := by
  split
  · exact h₁
  · exact h₂

/-- A program that only computes an outcome leaves every part alone. -/
theorem frames_of_exec {m : Prog ε σ α} {r : Except ε α} (h : ∀ s, exec m s = (r, s)) :
    Frames part m := by
  intro s
  rw [h]

end Frames

end Prog
