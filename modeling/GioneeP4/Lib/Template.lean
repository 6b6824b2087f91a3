-- SUMMARY: Texts with holes printed to a bounded buffer, and when what is printed does not depend on some of the holes.
import GioneeP4.Lib.Printing

/-!
# Templates

A template is a series of constant texts and cells, and a filling gives the text
of every cell. Some cells are covered: all fillings of a family agree on them.
What a buffer shows then tells two fillings apart exactly when it reaches the
first cell that is not covered.
-/

namespace Printing

open CText

/-! ## What a fresh buffer shows -/

variable {t u : Text} {n : Nat}

theorem drop_fresh {k : Nat} : (fresh n).drop k = fresh (n - k) := List.drop_replicate ..

/-- A text printed to a fresh buffer: what fits of it, the NUL, and nothing behind. -/
theorem snprintf_fresh (h : 0 < n) :
    snprintf (fresh n) 0 t =
      (t.take (n - 1) ++ [0]).map some ++ fresh (n - (min t.length (n - 1) + 1)) := by
  have hlen : (fresh n).length = n := List.length_replicate ..
  rw [snprintf, if_pos (by omega), Words.overwrite, hlen, drop_fresh]
  simp only [List.take_zero, List.nil_append, List.length_map, List.length_append,
    List.length_take, List.length_singleton, Nat.sub_zero, Nat.zero_add]
  rw [Nat.min_comm]

/-- Printing behind a text that fits is printing both at once. -/
theorem snprintf_snprintf (h : t.length < n) :
    snprintf (snprintf (fresh n) 0 t) t.length u = snprintf (fresh n) 0 (t ++ u) := by
  have hlen : (snprintf (fresh n) 0 t).length = n := by
    rw [length_snprintf]
    exact List.length_replicate ..
  have hwhole : t.take (n - 1) = t := List.take_of_length_le (by omega)
  have hboth : (t ++ u).take (n - 1) = t ++ u.take (n - t.length - 1) := by
    rw [List.take_append, hwhole, Nat.sub_right_comm]
  rw [snprintf, if_pos (by omega), hlen, Words.overwrite, snprintf_fresh (by omega),
    snprintf_fresh (by omega), hwhole, hboth]
  have hmin : min t.length (n - 1) = t.length := by omega
  have hprefix : ((t ++ [0]).map some ++ fresh (n - (t.length + 1))).take t.length =
      t.map some := by
    rw [List.map_append, List.append_assoc, List.take_left' (List.length_map ..)]
  have hrest : ((t ++ [0]).map some ++ fresh (n - (t.length + 1))).drop
      (t.length + ((u.take (n - t.length - 1) ++ [0]).map some).length) =
        fresh (n - (min (t ++ u).length (n - 1) + 1)) := by
    rw [List.drop_append, List.drop_of_length_le, List.nil_append, drop_fresh]
    · congr 1
      simp only [List.length_map, List.length_append, List.length_take, List.length_singleton]
      omega
    · simp only [List.length_map, List.length_append, List.length_singleton]
      omega
  rw [hmin, hprefix, hrest]
  simp only [List.map_append, List.append_assoc]

/-- What does not fit is cut off: texts that start alike are printed alike. -/
theorem snprintf_of_cut {buf : Buffer} {pos : Nat} {c : Text}
    (h : buf.length ≤ pos + c.length + 1) :
    snprintf buf pos (c ++ t) = snprintf buf pos (c ++ u) := by
  have hroom : buf.length - pos - 1 ≤ c.length := by omega
  rw [snprintf, snprintf, List.take_append_of_le_length hroom, List.take_append_of_le_length hroom]

@[simp] theorem length_fresh : (fresh n).length = n := List.length_replicate ..

/-- A text that does not fit is the end of what is printed. -/
theorem snprintf_cut_flatten {ts : List Text} (h : n ≤ t.length + 1) :
    snprintf (fresh n) 0 t = snprintf (fresh n) 0 (t ++ ts.flatten) := by
  have hcut : (fresh n).length ≤ 0 + t.length + 1 := by
    rw [length_fresh]
    omega
  simpa using snprintf_of_cut (t := []) (u := ts.flatten) hcut

theorem printAll_buf_behind {ts : List Text} (h : t.length < n) :
    (printAll (snprintf (fresh n) 0 t) t.length ts).buf = snprintf (fresh n) 0 (t ++ ts.flatten) := by
  induction ts generalizing t with
  | nil => simp [printAll]
  | cons u ts ih =>
    rw [printAll, length_snprintf, length_fresh, List.flatten_cons, ← List.append_assoc,
      snprintf_snprintf h, ← List.length_append]
    split
    · apply snprintf_cut_flatten
      rw [List.length_append]
      omega
    · apply ih
      rw [List.length_append]
      omega

/-- A series of texts leaves in a fresh buffer what printing them at once would. -/
theorem printAll_buf {ts : List Text} (h : ts ≠ []) :
    (printAll (fresh n) 0 ts).buf = snprintf (fresh n) 0 ts.flatten := by
  cases ts with
  | nil => exact absurd rfl h
  | cons u ts =>
    rw [printAll, length_fresh, List.flatten_cons, Nat.zero_add]
    split
    · exact snprintf_cut_flatten (by omega)
    · exact printAll_buf_behind (by omega)

/-- What a fresh buffer shows of a series of texts, byte by byte. -/
theorem getElem?_printAll {ts : List Text} {i : Nat} (hi : i + 1 < n)
    (hlen : i < ts.flatten.length) :
    (printAll (fresh n) 0 ts).buf[i]? = (ts.flatten[i]?).map some := by
  have hne : ts ≠ [] := by
    rintro rfl
    exact absurd hlen (Nat.not_lt_zero i)
  rw [printAll_buf hne, snprintf_fresh (by omega), List.map_append, List.append_assoc,
    List.getElem?_append_left, List.getElem?_map, List.getElem?_take_of_lt (by omega)]
  rw [List.length_map, List.length_take]
  omega

/-! ## Templates -/

/-- A constant text, or a cell that a filling gives the text of. -/
inductive Piece (κ : Type)
  | text (t : Text)
  | cell (k : κ)

/-- The texts of one call of `snprintf`, one behind the other. -/
abbrev Line (κ : Type) := List (Piece κ)

section Templates

variable {κ : Type}

def Piece.render (f : κ → Text) : Piece κ → Text
  | .text t => t
  | .cell k => f k

def render (f : κ → Text) (line : Line κ) : Text := line.flatMap (Piece.render f)

/-- The text before the first cell that is not covered, `none` when all are covered. -/
def beforeHole (covered : κ → Bool) (f : κ → Text) : Line κ → Option Text
  | [] => none
  | .text t :: ps => (beforeHole covered f ps).map (t ++ ·)
  | .cell k :: ps =>
      if covered k then (beforeHole covered f ps).map (f k ++ ·) else some []

variable {covered : κ → Bool} {f g : κ → Text} {ps : Line κ} {c : Text}

@[simp] theorem render_nil : render f [] = [] := rfl

@[simp] theorem render_cons {p : Piece κ} : render f (p :: ps) = p.render f ++ render f ps :=
  List.flatMap_cons ..

theorem render_append {ps qs : Line κ} : render f (ps ++ qs) = render f ps ++ render f qs :=
  List.flatMap_append ..

theorem render_flatten {lines : List (Line κ)} :
    render f lines.flatten = (lines.map (render f)).flatten := by
  induction lines with
  | nil => rfl
  | cons line lines ih =>
    rw [List.flatten_cons, List.map_cons, List.flatten_cons, ← ih, render_append]

/-- What is before the first hole is made of covered cells only. -/
theorem beforeHole_congr (hagree : ∀ k, covered k = true → f k = g k) :
    beforeHole covered f ps = beforeHole covered g ps := by
  induction ps with
  | nil => rfl
  | cons p ps ih =>
    cases p with
    | text t => rw [beforeHole, beforeHole, ih]
    | cell k =>
      rw [beforeHole, beforeHole, ih]
      split
      · rw [hagree k ‹_›]
      · rfl

/-- Without a hole, fillings that agree on the covered cells give the same text. -/
theorem render_of_covered (hagree : ∀ k, covered k = true → f k = g k)
    (h : beforeHole covered f ps = none) : render f ps = render g ps := by
  induction ps with
  | nil => rfl
  | cons p ps ih =>
    cases p with
    | text t =>
      rw [render_cons, render_cons, ih (Option.map_eq_none_iff.mp h)]
      rfl
    | cell k =>
      unfold beforeHole at h
      split at h
      · rw [render_cons, render_cons, ih (Option.map_eq_none_iff.mp h)]
        exact congrArg (· ++ render g ps) (hagree k ‹_›)
      · cases h

/-- Fillings that agree on the covered cells give the same text up to the first hole. -/
theorem render_of_hole (h : beforeHole covered f ps = some c) :
    ∃ k rest, .cell k :: rest <:+ ps ∧ covered k = false ∧
      ∀ g, (∀ k, covered k = true → f k = g k) → render g ps = c ++ render g (.cell k :: rest) := by
  induction ps generalizing c with
  | nil => cases h
  | cons p ps ih =>
    cases p with
    | text t =>
      obtain ⟨c', hc', rfl⟩ := Option.map_eq_some_iff.mp h
      obtain ⟨k, rest, hsuffix, hk, hrender⟩ := ih hc'
      refine ⟨k, rest, hsuffix.trans (List.suffix_cons ..), hk, fun g hagree => ?_⟩
      rw [render_cons, hrender g hagree, List.append_assoc]
      rfl
    | cell k₀ =>
      unfold beforeHole at h
      split at h
      · obtain ⟨c', hc', rfl⟩ := Option.map_eq_some_iff.mp h
        obtain ⟨k, rest, hsuffix, hk, hrender⟩ := ih hc'
        refine ⟨k, rest, hsuffix.trans (List.suffix_cons ..), hk, fun g hagree => ?_⟩
        rw [render_cons, hrender g hagree, List.append_assoc, hagree k₀ ‹_›]
        rfl
      · cases h
        refine ⟨k₀, ps, List.suffix_refl _, Bool.eq_false_iff.mpr ‹_›, fun g _ => rfl⟩

/-! ## Printing a template -/

theorem beforeHole_append {qs : Line κ} :
    beforeHole covered f (ps ++ qs) =
      (beforeHole covered f ps).or ((beforeHole covered f qs).map (render f ps ++ ·)) := by
  induction ps with
  | nil =>
    rw [List.nil_append, beforeHole, Option.none_or]
    exact Option.map_id'.symm
  | cons p ps ih =>
    cases p with
    | text t =>
      simp only [List.cons_append, beforeHole, ih, render_cons, Piece.render, Option.map_or,
        Option.map_map, Function.comp_def, List.append_assoc]
    | cell k =>
      simp only [List.cons_append, beforeHole]
      split
      · simp only [ih, render_cons, Piece.render, Option.map_or, Option.map_map,
          Function.comp_def, List.append_assoc]
      · rfl

/-- Every line ends in a piece that is not empty. -/
def Shown (f : κ → Text) (lines : List (Line κ)) : Prop :=
  ∀ line ∈ lines, ∀ p ∈ line.getLast?, p.render f ≠ []

theorem render_suffix_ne_nil {line : Line κ} (hlast : ∀ p ∈ line.getLast?, p.render f ≠ [])
    (hsuffix : ps <:+ line) (hne : ps ≠ []) : render f ps ≠ [] := by
  obtain ⟨before, rfl⟩ := hsuffix
  obtain ⟨qs, p, rfl⟩ := (List.eq_nil_or_concat ps).resolve_left hne
  have hp : p.render f ≠ [] := hlast p (by simp)
  rw [List.concat_eq_append, render_append, render_cons, render_nil, List.append_nil]
  exact List.append_ne_nil_of_right_ne_nil _ hp

/-- Where the first hole is out of sight, fillings that agree on the covered cells print alike. -/
theorem printAll_eq_of_hidden {lines : List (Line κ)} {buf : Buffer} {pos : Nat}
    (hagree : ∀ k, covered k = true → f k = g k) (hf : Shown f lines) (hg : Shown g lines)
    (hhidden : ∀ c, beforeHole covered f lines.flatten = some c →
      buf.length ≤ pos + c.length + 1) :
    printAll buf pos (lines.map (render f)) = printAll buf pos (lines.map (render g)) := by
  induction lines generalizing buf pos with
  | nil => rfl
  | cons line lines ih =>
    rw [List.flatten_cons, beforeHole_append] at hhidden
    rw [List.map_cons, List.map_cons, printAll, printAll]
    cases hhole : beforeHole covered f line with
    | none =>
      rw [hhole, Option.none_or] at hhidden
      rw [render_of_covered hagree hhole]
      split
      · rfl
      · apply ih (fun l hl => hf l (List.mem_cons_of_mem _ hl))
          fun l hl => hg l (List.mem_cons_of_mem _ hl)
        intro c hc
        have hbound := hhidden (render f line ++ c) (by rw [hc]; rfl)
        rw [render_of_covered hagree hhole, List.length_append] at hbound
        rw [length_snprintf]
        omega
    | some c =>
      -- the line with the first hole is cut off before it, whatever is in the hole
      have hbound := hhidden c (by rw [hhole]; rfl)
      obtain ⟨k, rest, hsuffix, -, hrender⟩ := render_of_hole hhole
      have hfx := render_suffix_ne_nil (hf line (List.mem_cons_self ..)) hsuffix
        (List.cons_ne_nil _ _)
      have hgx := render_suffix_ne_nil (hg line (List.mem_cons_self ..)) hsuffix
        (List.cons_ne_nil _ _)
      rw [hrender f fun _ _ => rfl, hrender g hagree]
      have hlong : ∀ x : Text, x ≠ [] → (c ++ x).length ≥ buf.length - pos := by
        intro x hx
        have hpos := List.length_pos_of_ne_nil hx
        rw [List.length_append]
        omega
      rw [if_pos (hlong _ hfx), if_pos (hlong _ hgx)]
      congr 1
      exact snprintf_of_cut hbound

/-- The texts start with different bytes. -/
def StartsApart (t u : Text) : Prop := ∃ a b, t.head? = some a ∧ u.head? = some b ∧ a ≠ b

/-- Where the first hole is in sight, fillings that differ in its first byte print differently. -/
theorem printAll_ne_of_hole {lines : List (Line κ)}
    (hole : beforeHole covered f lines.flatten = some c) (hsight : c.length + 1 < n)
    (hagree : ∀ k, covered k = true → f k = g k)
    (hdiffers : ∀ k, .cell k ∈ lines.flatten → covered k = false → StartsApart (f k) (g k)) :
    (printAll (fresh n) 0 (lines.map (render f))).buf ≠
      (printAll (fresh n) 0 (lines.map (render g))).buf := by
  obtain ⟨k, rest, hsuffix, hk, hrender⟩ := render_of_hole hole
  have hmem : .cell k ∈ lines.flatten := hsuffix.subset (List.mem_cons_self ..)
  obtain ⟨a, b, hfk, hgk, hab⟩ := hdiffers k hmem hk
  have hbyte : ∀ (h : κ → Text) (x : Byte), (∀ k, covered k = true → f k = h k) →
      (h k).head? = some x →
        (printAll (fresh n) 0 (lines.map (render h))).buf[c.length]? = some (some x) := by
    intro h x hfh hhead
    obtain ⟨r, hhk⟩ := List.head?_eq_some_iff.mp hhead
    have hflat : (lines.map (render h)).flatten = c ++ x :: (r ++ render h rest) := by
      rw [← render_flatten, hrender h hfh, render_cons, Piece.render, hhk]
      rfl
    rw [getElem?_printAll hsight, hflat, List.getElem?_append_right le_rfl, Nat.sub_self]
    · rfl
    · rw [hflat, List.length_append, List.length_cons]
      omega
  intro heq
  have hfa := hbyte f a (fun _ _ => rfl) hfk
  have hgb := hbyte g b hagree hgk
  rw [heq, hgb] at hfa
  exact hab (Option.some.inj (Option.some.inj hfa)).symm

/-- A family of fillings prints one output exactly when the first hole is out of sight. -/
theorem printed_alike_iff {μ : Type} {fill : μ → κ → Text} {lines : List (Line κ)} {low high : μ}
    (out : Printed → Int)
    (hcovered : ∀ m m' k, covered k = true → fill m k = fill m' k)
    (hshown : ∀ m, Shown (fill m) lines)
    (hapart : ∀ k, .cell k ∈ lines.flatten → covered k = false →
      StartsApart (fill low k) (fill high k)) :
    (∀ m m', let printed (m : μ) := printAll (fresh n) 0 (lines.map (render (fill m)))
        out (printed m) = out (printed m') ∧ (printed m).buf = (printed m').buf) ↔
      ∀ c, beforeHole covered (fill low) lines.flatten = some c → n ≤ c.length + 1 := by
  constructor
  · intro halike c hole
    by_contra hsight
    exact printAll_ne_of_hole hole (by omega) (hcovered low high) hapart (halike low high).2
  · intro hhidden m m'
    have heq : printAll (fresh n) 0 (lines.map (render (fill m))) =
        printAll (fresh n) 0 (lines.map (render (fill m'))) := by
      apply printAll_eq_of_hidden (hcovered m m') (hshown m) (hshown m')
      intro c hc
      rw [beforeHole_congr (hcovered m low)] at hc
      have hbound := hhidden c hc
      rw [length_fresh]
      omega
    simp only [heq, and_self]

end Templates

end Printing
