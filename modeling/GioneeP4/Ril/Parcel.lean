-- SUMMARY: The Parcel of an incoming message: its bytes and a cursor, with the reads and the in-place write of the RIL class.
import GioneeP4.Lib.Words
import GioneeP4.Ril.Java

/-!
# Parcels

An incoming parcel is a byte list with a cursor. Reading an `int` past the end
gives 0 and leaves the cursor; `writeInt` overwrites the four bytes at the cursor.
-/

namespace Ril

open Words

structure Parcel where
  data : List (BitVec 8)
  dataPosition : Nat
  deriving DecidableEq

namespace Parcel

/-- `readInt`: the value, and the parcel with its cursor moved. -/
def readInt (p : Parcel) : JInt × Parcel :=
  if p.dataPosition + 4 ≤ p.data.length then
    (wordAt p.data p.dataPosition, { p with dataPosition := p.dataPosition + 4 })
  else (0, p)

def writeInt (p : Parcel) (value : JInt) : Parcel where
  data := overwrite p.data p.dataPosition (leBytes value)
  dataPosition := p.dataPosition + 4

def setDataPosition (p : Parcel) (position : Nat) : Parcel := { p with dataPosition := position }

/-- The bytes from the cursor to the end. -/
def dataAvail (p : Parcel) : Nat := p.data.length - p.dataPosition

@[simp] theorem setDataPosition_data {p : Parcel} {n : Nat} : (p.setDataPosition n).data = p.data :=
  rfl

@[simp] theorem setDataPosition_dataPosition {p : Parcel} {n : Nat} :
    (p.setDataPosition n).dataPosition = n := rfl

@[simp] theorem writeInt_data {p : Parcel} {x : JInt} :
    (p.writeInt x).data = overwrite p.data p.dataPosition (leBytes x) := rfl

@[simp] theorem readInt_data {p : Parcel} : p.readInt.2.data = p.data := by
  unfold readInt
  split <;> rfl

/-- Moving the cursor back to where it was gives the parcel back. -/
theorem setDataPosition_eq {p q : Parcel} (h : q.data = p.data) :
    q.setDataPosition p.dataPosition = p := by
  cases p with
  | mk data position => cases h; rfl

/-- The `int` at the cursor is the word there, 0 when the parcel ends before it does. -/
theorem readInt_fst {p : Parcel} : p.readInt.1 = wordAt p.data p.dataPosition := by
  unfold readInt
  split
  · rfl
  · rename_i hshort
    exact (wordAt_of_short (by omega)).symm

/-- A parcel whose next `int` is not 0 holds its four bytes. -/
theorem room_of_readInt_ne_zero {p : Parcel} (h : p.readInt.1 ≠ 0) :
    p.dataPosition + 4 ≤ p.data.length := by
  unfold readInt at h
  split at h
  · assumption
  · exact absurd rfl h

end Parcel

/-- What is written to the parcel of an outgoing request after its header. -/
inductive Datum
  | int (value : JInt)
  | string (value : Option JString)
  deriving DecidableEq

end Ril
