-- SUMMARY: The script that puts a header before a ramdisk: the file read by lines, the packed header, and both written back.
import GioneeP4.Lib.ByteFiles
import GioneeP4.Lib.CText
import GioneeP4.Lib.Prog
import GioneeP4.Lib.Words
import Mathlib.Logic.Function.Basic

/-!
# The ramdisk script

Embeds `pack.pl`, which `bootimg.mk` runs with a signature and the name of a
ramdisk. Warnings are left out. What is printed to an open file arrives there.
-/

namespace Bootimg

open Prog CText ByteFiles Words

/-! ## Files -/

/-- A letter, a digit, or one of `.`, `/` and `_`. -/
def isPathByte (c : Byte) : Bool :=
  (48 ≤ c && c ≤ 57) || (65 ≤ c && c ≤ 90) || (97 ≤ c && c ≤ 122) || (ascii "./_").contains c

/-- A name that `open` takes as it stands: there is no blank, mode or pipe at its ends. -/
def Plain (name : Text) : Prop :=
  name.head?.any isPathByte = true ∧ name.getLast?.any isPathByte = true

abbrev Path := { name : Text // Plain name }

/-- The contents of the files that can be read. -/
abbrev Files := Path → Option Text

/-- The order of the bytes of a number. -/
inductive Endian
  | little | big

structure Env where
  host : Endian
  /-- The files that can be opened for writing. -/
  writable : Path → Bool

/-- The ends of the script other than its last line. -/
inductive Died
  /-- `could not open ramdisk file 'ramdisk'` -/
  | openRamdisk
  /-- The `or die` of `print`, which fails on a file that is not open. -/
  | printRamdisk

/-! ## The header -/

/-- The format `a` of `pack`, for a width. -/
def packA (n : Nat) (t : Text) : Text := pad 0 n t

/-- The format `L` of `pack`; an undefined value counts as 0. -/
def packL (host : Endian) (value : Option Nat) : Text :=
  let bytes := leBytes (BitVec.ofNat 32 (value.getD 0))
  match host with
  | .little => bytes
  | .big => bytes.reverse

def genHeader (host : Endian) (headerType : Text) (length : Option Nat) : Text :=
  packA 4 [0x88, 0x16, 0x88, 0x58] ++ packL host length ++ packA 32 headerType ++
    packA 472 (List.replicate 472 0xff)

/-! ## Repacking -/

/-- The operator `.=`; an undefined value counts as empty. -/
def append (s : Option Text) (t : Text) : Option Text := some (s.getD [] ++ t)

/-- What the loop over `<RAMDISKFILE>` leaves in `$ramdisk`, which starts undefined. -/
def readRamdisk (content : Text) : Option Text := (lines 10 content).foldl append none

/-- `$newramdisk`, for the content of the file. -/
def newRamdisk (host : Endian) (signature content : Text) : Text :=
  let ramdisk := readRamdisk content
  let sizeRamdisk := ramdisk.map List.length
  let header := genHeader host signature sizeRamdisk
  header ++ ramdisk.getD []

def repackBoot (env : Env) (signature : Text) (ramdiskFile : Path) : Prog Died Files Unit := do
  let some content := (← get) ramdiskFile | throw .openRamdisk
  if env.writable ramdiskFile then
    modify fun files =>
      Function.update files ramdiskFile (some (newRamdisk env.host signature content))
  else
    throw .printRamdisk

end Bootimg
