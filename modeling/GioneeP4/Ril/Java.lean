-- SUMMARY: The Java values the RIL class computes with: int, String, Throwable, Object, Integer.parseInt and the system properties.
import Mathlib.Algebra.Group.Nat.Defs
import Mathlib.Data.List.Basic

/-!
# Java values of the RIL class

An `int` is a 32-bit word, a `String` is a list of UTF-16 code units, and a
reference that may be null is an `Option`. A computation that may throw returns
an `Except Throwable`.
-/

namespace Ril

abbrev JInt := BitVec 32

abbrev JString := List UInt16

/-- The string a literal of the source spells. -/
def literal (s : String) : JString := s.toList.map fun c => c.val.toUInt16

inductive Throwable
  | runtimeException (message : String)
  | nullPointerException
  | arrayIndexOutOfBoundsException (index : Nat)
  | stringIndexOutOfBoundsException
  | numberFormatException (text : Option JString)
  | classCastException
  /-- Whatever else an inherited decoder throws. -/
  | other (kind : Nat)
  deriving DecidableEq

/-- The objects a decoder may return. -/
inductive Obj
  | null
  | int (value : JInt)
  | ints (values : List JInt)
  | strings (values : List (Option JString))
  /-- A response object this class hands on without looking inside. -/
  | other (kind : Nat)
  deriving DecidableEq

/-- The cast `(String[]) ret`; the result is null when `ret` is. -/
def Obj.toStringArray : Obj → Except Throwable (Option (List (Option JString)))
  | .null => .ok none
  | .strings values => .ok (some values)
  | .int _ | .ints _ | .other _ => .error .classCastException

/-- The element access `array[i]` of an array reference that may be null. -/
def element (array : Option (List (Option JString))) (i : Nat) : Except Throwable (Option JString) :=
  match array with
  | none => .error .nullPointerException
  | some values =>
      match values[i]? with
      | none => .error (.arrayIndexOutOfBoundsException i)
      | some value => .ok value

/-! ## `Integer.parseInt` -/

/-- The zeros of the decimal digit ranges among the UTF-16 code units. -/
def digitZeros : List Nat :=
  [0x0030, 0x0660, 0x06F0, 0x07C0, 0x0966, 0x09E6, 0x0A66, 0x0AE6, 0x0B66, 0x0BE6, 0x0C66, 0x0CE6,
    0x0D66, 0x0DE6, 0x0E50, 0x0ED0, 0x0F20, 0x1040, 0x1090, 0x17E0, 0x1810, 0x1946, 0x19D0, 0x1A80,
    0x1A90, 0x1B50, 0x1BB0, 0x1C40, 0x1C50, 0xA620, 0xA8D0, 0xA900, 0xA9D0, 0xA9F0, 0xAA50, 0xABF0,
    0xFF10]

/-- `Character.digit(c, 10)`, `none` for -1. -/
def characterDigit (c : UInt16) : Option Nat :=
  (digitZeros.find? fun first => first ≤ c.toNat ∧ c.toNat < first + 10).map (c.toNat - ·)

/-- The number a non-empty run of decimal digits spells. -/
def digitsValue (digits : JString) : Option Nat :=
  if digits = [] then none
  else digits.foldlM (fun acc c => (characterDigit c).map (10 * acc + ·)) 0

/-- `Integer.parseInt`: an optional sign, then digits, within the range of an `int`. -/
def parseInt (s : Option JString) : Except Throwable JInt :=
  match s with
  | none => .error (.numberFormatException none)
  | some text =>
      let magnitude (negative : Bool) (digits : JString) : Except Throwable JInt :=
        match digitsValue digits with
        | none => .error (.numberFormatException s)
        | some n =>
            if negative then
              if n ≤ 2 ^ 31 then .ok (-BitVec.ofNat 32 n) else .error (.numberFormatException s)
            else
              if n < 2 ^ 31 then .ok (BitVec.ofNat 32 n) else .error (.numberFormatException s)
      match text with
      | 45 :: digits => magnitude true digits   -- '-'
      | 43 :: digits => magnitude false digits  -- '+'
      | digits => magnitude false digits

/-- `Character.digit(c, 16)`, `none` for -1: decimal digits, and the letters of both widths. -/
def characterDigit16 (c : UInt16) : Option Nat :=
  (characterDigit c).or
    (([0x0041, 0x0061, 0xFF21, 0xFF41].find? fun first =>
      first ≤ c.toNat ∧ c.toNat < first + 6).map (c.toNat - · + 10))

/-- The number a non-empty run of hexadecimal digits spells. -/
def digitsValue16 (digits : JString) : Option Nat :=
  if digits = [] then none
  else digits.foldlM (fun acc c => (characterDigit16 c).map (16 * acc + ·)) 0

/-- `Integer.parseInt(s, 16)` -/
def parseInt16 (s : JString) : Except Throwable JInt :=
  let magnitude (negative : Bool) (digits : JString) : Except Throwable JInt :=
    match digitsValue16 digits with
    | none => .error (.numberFormatException (some s))
    | some n =>
        if negative then
          if n ≤ 2 ^ 31 then .ok (-BitVec.ofNat 32 n) else .error (.numberFormatException (some s))
        else
          if n < 2 ^ 31 then .ok (BitVec.ofNat 32 n) else .error (.numberFormatException (some s))
  match s with
  | 45 :: digits => magnitude true digits   -- '-'
  | 43 :: digits => magnitude false digits  -- '+'
  | digits => magnitude false digits

/-! ## Strings -/

/-- `s.substring(beginIndex, endIndex)` -/
def substring (s : JString) (beginIndex endIndex : Nat) : Except Throwable JString :=
  if beginIndex ≤ endIndex ∧ endIndex ≤ s.length then
    .ok ((s.take endIndex).drop beginIndex)
  else .error .stringIndexOutOfBoundsException

/-- `s.concat(arg)` of a reference that may be null. -/
def concat (s : Option JString) (arg : JString) : Except Throwable JString :=
  match s with
  | none => .error .nullPointerException
  | some text => .ok (text ++ arg)

/-- `"" + s` -/
def stringOf (s : Option JString) : JString := s.getD (literal "null")

/-! ## System properties -/

/-- The system properties as `SystemProperties.get` reads them, empty when unset. -/
abbrev Properties := JString → JString

/-- `SystemProperties.getBoolean`. -/
def Properties.getBoolean (props : Properties) (key : JString) (default : Bool) : Bool :=
  let value := props key
  if value ∈ ["n", "no", "0", "false", "off"].map literal then false
  else if value ∈ ["y", "yes", "1", "true", "on"].map literal then true
  else default

end Ril
