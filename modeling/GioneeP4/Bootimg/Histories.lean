-- SUMMARY: Ramdisks that are repacked again and again: the headers peel off one by one, the last signature first.
import GioneeP4.Bootimg.Header
import GioneeP4.Lib.Machine

/-!
# Histories of repacking

Nothing keeps the script from running twice on one file. Each run puts another header
before what is there, so the file tells the whole history of its signatures, and the
ramdisk is still at its end.
-/

namespace Bootimg

open Prog CText ByteFiles Words

variable {content : Text}

/-- The signature and the file of one run. -/
abbrev Job := Text × Path

/-- The files after one run, whether or not it dies. -/
def repack (env : Env) (files : Files) (job : Job) : Files := (exec (repackBoot env job.1 job.2) files).2

/-- The signatures of the runs on a file. -/
def signatures (path : Path) (jobs : List Job) : List Text :=
  (jobs.filter (·.2 = path)).map Prod.fst

/-- A ramdisk behind a header for each signature, the last one in front. -/
def wrapped (host : Endian) (content : Text) (signatures : List Text) : Text :=
  signatures.foldl (fun file signature => newRamdisk host signature file) content

/-- Takes headers off a file. -/
def peel : Nat → Text → List Header × Text
  | 0, file => ([], file)
  | n + 1, file =>
      let (headers, rest) := peel n (file.drop 512)
      (unpackHeader file :: headers, rest)

/-- The headers for signatures, each with the length of what it was put before. -/
def headers (length : Nat) : List Text → List Header
  | [] => []
  | signature :: earlier => ⟨magic, length + 512 * earlier.length, signature⟩ :: headers length earlier

/-! ## One run -/

section Run

variable {env : Env} {files : Files} {job : Job} {path : Path}

/-- A run puts a header before its file, if that can be read and written. -/
theorem repack_eq :
    repack env files job =
      match files job.2 with
      | none => files
      | some content =>
          if env.writable job.2 then
            Function.update files job.2 (some (newRamdisk env.host job.1 content))
          else files := by
  cases hfile : files job.2 with
  | none =>
    rw [repack, repackBoot, exec_bind_of_ok exec_get]
    simp only [hfile]
    rfl
  | some content =>
    by_cases hwritable : env.writable job.2 = true
    · simp only [if_pos hwritable]
      rw [repack, exec_repackBoot hfile hwritable]
    · simp only [if_neg hwritable]
      apply repackBoot_died
      rw [repackBoot, exec_bind_of_ok exec_get]
      simp only [hfile, if_neg hwritable]
      rfl

/-- A run on another file leaves a file alone. -/
theorem repack_of_ne (h : job.2 ≠ path) : repack env files job path = files path := by
  rw [repack_eq]
  cases files job.2 with
  | none => rfl
  | some content =>
    simp only
    split
    · exact Function.update_of_ne (Ne.symm h) ..
    · rfl

/-- A file that is missing, or that cannot be written, stays as it is. -/
theorem repack_of_dead (h : files path = none ∨ env.writable path = false) :
    repack env files job path = files path := by
  by_cases hpath : job.2 = path
  · subst hpath
    rw [repack_eq]
    rcases h with hmissing | hfixed
    · simp only [hmissing]
    · cases hfile : files job.2 with
      | none => exact hfile
      | some content =>
        simp only [hfixed, Bool.false_eq_true, if_false]
        exact hfile
  · exact repack_of_ne hpath

theorem repack_of_eq (hfile : files path = some content) (hwritable : env.writable path = true)
    (h : job.2 = path) :
    repack env files job path = some (newRamdisk env.host job.1 content) := by
  subst h
  rw [repack_eq, hfile]
  simp only [if_pos hwritable]
  exact Function.update_self ..

end Run

/-! ## Many runs -/

section Runs

variable {env : Env} {files : Files} {jobs : List Job} {path : Path} {names : List Text}

/-- A file is a register of the runs on it. -/
theorem repacked_eq (hfile : files path = some content) (hwritable : env.writable path = true) :
    Machine.after (repack env) files jobs path =
      some (wrapped env.host content (signatures path jobs)) := by
  induction jobs generalizing files content with
  | nil => exact hfile
  | cons job jobs ih =>
    rw [Machine.after_cons]
    by_cases hpath : job.2 = path
    · rw [ih (repack_of_eq hfile hwritable hpath)]
      simp [signatures, wrapped, hpath]
    · rw [ih ((repack_of_ne hpath).trans hfile)]
      simp [signatures, wrapped, hpath]

theorem repacked_of_dead (h : files path = none ∨ env.writable path = false) :
    Machine.after (repack env) files jobs path = files path := by
  induction jobs generalizing files with
  | nil => rfl
  | cons job jobs ih =>
    have hsame : repack env files job path = files path := repack_of_dead h
    rw [Machine.after_cons, ih (hsame ▸ h), hsame]

theorem length_wrapped :
    (wrapped .little content names).length = content.length + 512 * names.length := by
  induction names using List.reverseRecOn with
  | nil => rfl
  | append_singleton names name ih =>
    rw [wrapped, List.foldl_concat, ← wrapped, newRamdisk_eq, List.length_append, length_genHeader,
      ih, List.length_append, List.length_singleton]
    omega

/-- A signature that its field tells. -/
def Tellable (name : Text) : Prop := name.length ≤ 32 ∧ name.getLast? ≠ some 0

/-- The headers come off in the order opposite to that of the runs. -/
theorem peel_wrapped (hnames : ∀ name ∈ names, Tellable name)
    (hsize : content.length + 512 * names.length < 2 ^ 32) :
    peel names.length (wrapped .little content names) =
      (headers content.length names.reverse, content) := by
  induction names using List.reverseRecOn with
  | nil => rfl
  | append_singleton names name ih =>
    rw [List.length_append, List.length_singleton] at hsize ⊢
    obtain ⟨hlength, hlast⟩ := hnames name (List.mem_append_right _ (List.mem_singleton_self name))
    have hinner := ih (fun name' hname => hnames name' (List.mem_append_left _ hname)) (by omega)
    have hheader : HasHeader name (wrapped .little content names)
        (newRamdisk .little name (wrapped .little content names)) := by
      apply hasHeader_newRamdisk
      rw [length_wrapped]
      omega
    rw [wrapped, List.foldl_concat, ← wrapped, peel, hheader.payload, hinner,
      hheader.decodes hlength hlast, length_wrapped, List.reverse_append, List.reverse_singleton,
      List.singleton_append, headers, List.length_reverse]

end Runs

/-- Any number of runs on any files can be read back from each file whose headers tell its
    signatures and its length: the signatures, the last one first, with the lengths at the time, and
    the ramdisk it was. Files that are missing or cannot be written stay as they are. -/
theorem repacking_unwinds (writable : Path → Bool) (files : Files) (jobs : List Job) (path : Path) :
    (∀ content, files path = some content → writable path = true →
      (∀ name ∈ signatures path jobs, Tellable name) →
      content.length + 512 * (signatures path jobs).length < 2 ^ 32 →
      ∃ file, Machine.after (repack ⟨.little, writable⟩) files jobs path = some file ∧
        peel (signatures path jobs).length file =
          (headers content.length (signatures path jobs).reverse, content)) ∧
      (files path = none ∨ writable path = false →
        Machine.after (repack ⟨.little, writable⟩) files jobs path = files path) := by
  constructor
  · intro content hfile hwritable hnames hsize
    exact ⟨_, repacked_eq hfile hwritable, peel_wrapped hnames hsize⟩
  · exact fun h => repacked_of_dead h

/-- The name that `bootimg.mk` passes for a ramdisk in the working directory. -/
def ramdiskImg : Path := ⟨ascii "ramdisk.img", by decide, by decide⟩

/-- One run for the system, and one for the recovery. -/
theorem repacking_unwinds_twice :
    ∃ file, Machine.after (repack ⟨.little, fun _ => true⟩) (fun _ => some [1, 2, 3])
        [(ascii "ROOTFS", ramdiskImg), (ascii "RECOVERY", ramdiskImg)] ramdiskImg = some file ∧
      peel 2 file = ([⟨magic, 515, ascii "RECOVERY"⟩, ⟨magic, 3, ascii "ROOTFS"⟩], [1, 2, 3]) := by
  have hunwinds := (repacking_unwinds (fun _ => true) (fun _ => some [1, 2, 3])
    [(ascii "ROOTFS", ramdiskImg), (ascii "RECOVERY", ramdiskImg)] ramdiskImg).1 [1, 2, 3] rfl rfl
  have hnames : signatures ramdiskImg [(ascii "ROOTFS", ramdiskImg), (ascii "RECOVERY", ramdiskImg)] =
      [ascii "ROOTFS", ascii "RECOVERY"] := by
    simp [signatures]
  rw [hnames] at hunwinds
  exact hunwinds (by simp [Tellable]; decide) (by decide)

end Bootimg
