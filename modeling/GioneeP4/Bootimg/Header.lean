-- SUMMARY: The header of a repacked ramdisk: what it decodes to, and that it tells the signature and the ramdisk.
import GioneeP4.Bootimg.Pack
import Mathlib.Data.Set.Function

/-!
# The ramdisk header

The header is 512 bytes: a magic number, the length of the ramdisk, the signature
in a field of 32, and filler. Reading the fields back gives what was packed.
-/

namespace Bootimg

open Prog CText ByteFiles Words

variable {host : Endian} {signature content : Text}

/-! ## Decoding -/

/-- The first bytes of a header. -/
def magic : Text := [0x88, 0x16, 0x88, 0x58]

/-- The fields of a header. -/
structure Header where
  magic : Text
  size : Nat
  name : Text
  deriving DecidableEq

/-- The header at the start of a file: four bytes, a little-endian number of 32 bits, and a
    NUL-padded field of 32 bytes. -/
def unpackHeader (file : Text) : Header where
  magic := window file 0 4
  size := (ofLeBytes (window file 4 4)).toNat
  name := strip 0 (window file 8 32)

/-- A file is a ramdisk behind a header that tells its length and a signature. -/
structure HasHeader (signature ramdisk file : Text) : Prop where
  length : file.length = 512 + ramdisk.length
  startsWith : magic <+: file
  payload : file.drop 512 = ramdisk
  decodes : signature.length ≤ 32 → signature.getLast? ≠ some 0 →
    unpackHeader file = ⟨magic, ramdisk.length, signature⟩
  longName : 32 < signature.length → window file 8 32 = signature.take 32

/-! ## Repacking -/

theorem foldl_append {s : Option Text} {ls : List Text} (h : ls ≠ []) :
    ls.foldl append s = some (s.getD [] ++ ls.flatten) := by
  induction ls generalizing s with
  | nil => exact absurd rfl h
  | cons l ls ih =>
    rw [List.foldl_cons, append]
    cases ls with
    | nil => rw [List.foldl_nil, List.flatten_cons, List.flatten_nil, List.append_nil]
    | cons l' ls =>
      rw [ih (List.cons_ne_nil _ _), Option.getD_some, List.append_assoc, ← List.flatten_cons]

/-- Reading by lines gives the content, whatever its bytes, and nothing defined for an empty
    file. -/
theorem readRamdisk_eq : readRamdisk content = if content = [] then none else some content := by
  split
  · rename_i hempty
    rw [hempty]
    rfl
  · rename_i hne
    rw [readRamdisk, foldl_append (mt lines_eq_nil_iff.mp hne), flatten_lines]
    rfl

/-- The file is the header for the length of the ramdisk, and the ramdisk. -/
theorem newRamdisk_eq :
    newRamdisk host signature content =
      genHeader host signature (some content.length) ++ content := by
  rw [newRamdisk, readRamdisk_eq]
  split
  · rename_i hempty
    rw [hempty]
    rfl
  · rfl

theorem length_packL {value : Option Nat} : (packL host value).length = 4 := by
  cases host <;> rfl

/-- The header has its length whatever the signature. -/
theorem length_genHeader {size : Option Nat} : (genHeader host signature size).length = 512 := by
  simp only [genHeader, packA, List.length_append, length_pad, length_packL]

theorem genHeader_little {size : Nat} :
    genHeader .little signature (some size) = magic ++ (leBytes (BitVec.ofNat 32 size) ++
      (pad 0 32 signature ++ pad 0 472 (List.replicate 472 0xff))) := by
  rw [genHeader, packA, packA, packA, List.append_assoc, List.append_assoc]
  rfl

theorem hasHeader_newRamdisk (hsize : content.length < 2 ^ 32) :
    HasHeader signature content (newRamdisk .little signature content) := by
  have hfile : newRamdisk .little signature content =
      magic ++ (leBytes (BitVec.ofNat 32 content.length) ++
        (pad 0 32 signature ++ (pad 0 472 (List.replicate 472 0xff) ++ content))) := by
    rw [newRamdisk_eq, genHeader_little]
    simp only [List.append_assoc]
  have hmagic : window (newRamdisk .little signature content) 0 4 = magic := by
    rw [hfile]
    rfl
  have hbytes : window (newRamdisk .little signature content) 4 4 =
      leBytes (BitVec.ofNat 32 content.length) := by
    rw [hfile]
    exact window_append rfl length_leBytes
  have hname : window (newRamdisk .little signature content) 8 32 = pad 0 32 signature := by
    rw [hfile, ← List.append_assoc]
    exact window_append rfl length_pad
  constructor
  case length => rw [newRamdisk_eq, List.length_append, length_genHeader]
  case startsWith =>
    rw [hfile]
    exact List.prefix_append _ _
  case payload => rw [newRamdisk_eq, List.drop_left' length_genHeader]
  case decodes =>
    intro hle hlast
    rw [unpackHeader, hmagic, hbytes, hname, ofLeBytes_leBytes, strip_pad hle hlast,
      BitVec.toNat_ofNat, Nat.mod_eq_of_lt hsize]
  case longName =>
    intro hlong
    rw [hname, pad_of_le_length hlong.le]

/-- A signature that its field tells, and a ramdisk whose length fits in its field. -/
def Storable (input : Text × Text) : Prop :=
  input.1.length ≤ 32 ∧ input.1.getLast? ≠ some 0 ∧ input.2.length < 2 ^ 32

/-- A file has a header for one signature and one ramdisk only. -/
theorem HasHeader.unique {input input' : Text × Text} {file : Text}
    (h : HasHeader input.1 input.2 file) (h' : HasHeader input'.1 input'.2 file)
    (hs : Storable input) (hs' : Storable input') : input = input' := by
  have hsame := (h.decodes hs.1 hs.2.1).symm.trans (h'.decodes hs'.1 hs'.2.1)
  exact Prod.ext (congrArg Header.name hsame) (h.payload.symm.trans h'.payload)

/-- The script puts a header before a ramdisk from which both can be told. -/
structure RoundTrips (env : Env) : Prop where
  writes : ∀ (signature ramdisk : Text) (path : Path) (files : Files),
    files path = some ramdisk → env.writable path = true →
      exec (repackBoot env signature path) files =
        (.ok (), Function.update files path (some (newRamdisk env.host signature ramdisk)))
  header : ∀ signature ramdisk : Text, ramdisk.length < 2 ^ 32 →
    HasHeader signature ramdisk (newRamdisk env.host signature ramdisk)
  injective : Set.InjOn (fun input => newRamdisk env.host input.1 input.2) {input | Storable input}

theorem exec_repackBoot {env : Env} {path : Path} {files : Files} (h : files path = some content)
    (hwritable : env.writable path = true) :
    exec (repackBoot env signature path) files =
      (.ok (), Function.update files path (some (newRamdisk env.host signature content))) := by
  rw [repackBoot, exec_bind_of_ok exec_get]
  simp only [h, hwritable, if_true, exec_modify]

/-- A script that ends early leaves the files as they were. -/
theorem repackBoot_died {env : Env} {path : Path} {files : Files} {e : Died}
    (h : (exec (repackBoot env signature path) files).1 = .error e) :
    (exec (repackBoot env signature path) files).2 = files := by
  rw [repackBoot, exec_bind_of_ok exec_get] at h ⊢
  cases hfile : files path with
  | none => rfl
  | some content =>
    simp only [hfile] at h ⊢
    split at h
    · cases h
    · rw [if_neg ‹_›]
      rfl

/-- On a little-endian host the header of a repacked ramdisk round-trips. -/
theorem ramdisk_header_round_trips {writable : Path → Bool} : RoundTrips ⟨.little, writable⟩ := by
  constructor
  case writes =>
    intro signature ramdisk path files h hwritable
    exact exec_repackBoot h hwritable
  case header =>
    intro signature ramdisk hsize
    exact hasHeader_newRamdisk hsize
  case injective =>
    intro input hs input' hs' heq
    have h := @hasHeader_newRamdisk input.1 input.2 hs.2.2
    have h' := @hasHeader_newRamdisk input'.1 input'.2 hs'.2.2
    have hfile : newRamdisk .little input.1 input.2 = newRamdisk .little input'.1 input'.2 := heq
    rw [← hfile] at h'
    exact h.unique h' hs hs'

end Bootimg
