-- SUMMARY: The operator decoders responseOperator and responseOperatorInfos, with the decoding of encoded names.
import GioneeP4.Ril.Requests

/-!
# Operator names

`responseOperator` decodes the registered operator and `responseOperatorInfos` the
list of a network search. Both turn a name encoded in hexadecimal into text and
look up a name that is missing. Logging is left out.
-/

namespace Ril

open Prog

/-- An entry of the list; the states are those of `OperatorInfo`. -/
structure OperatorInfo (State : Type) where
  operatorAlphaLong : Option JString
  operatorAlphaShort : Option JString
  operatorNumeric : Option JString
  state : State
  deriving DecidableEq

/-- What the operator decoders call. -/
structure Platform (State : Type) where
  /-- `p.readStringArray()` -/
  readStringArray : Parcel → Except Throwable (Option (List (Option JString)))
  /-- `new String(bytes, "UTF-16")`, `none` when the encoding is not supported. -/
  utf16 : List (BitVec 8) → Option JString
  unOptimizedOperatorReplace : Option JString → Option JString
  /-- `UiccController.getInstance()`, and its `getIccRecords`. -/
  iccRecords : Except Throwable Unit
  /-- The state that the constructor of `OperatorInfo` makes of a string. -/
  rilStateToState : Option JString → Except Throwable State
  /-- The number a property value spells for `SystemProperties.getInt`. -/
  intOf : JString → Option JInt

variable {State : Type} (env : Env) (platform : Platform State)

/-! ## Encoded names -/

def hexCharToInt (c : UInt16) : Except Throwable JInt :=
  if 48 ≤ c.toNat ∧ c.toNat ≤ 57 then .ok (BitVec.ofNat 32 (c.toNat - 48))
  else if 65 ≤ c.toNat ∧ c.toNat ≤ 70 then .ok (BitVec.ofNat 32 (c.toNat - 65 + 10))
  else if 97 ≤ c.toNat ∧ c.toNat ≤ 102 then .ok (BitVec.ofNat 32 (c.toNat - 97 + 10))
  else .error (.runtimeException
    ("invalid hex char '" ++ (String.singleton (Char.ofNat c.toNat) ++ "'")))

/-- The loop of `hexStringToBytes`. -/
def hexBytes : JString → Except Throwable (List (BitVec 8))
  | [] => .ok []
  | [c] => do
    let _ ← hexCharToInt c
    throw .stringIndexOutOfBoundsException  -- `s.charAt(i+1)`
  | c :: d :: rest => do
    let high ← hexCharToInt c
    let low ← hexCharToInt d
    let bytes ← hexBytes rest
    return (high <<< 4 ||| low).setWidth 8 :: bytes

def hexStringToBytes (s : Option JString) : Except Throwable (Option (List (BitVec 8))) :=
  match s with
  | none => .ok none
  | some text => (hexBytes text).map some

/-- `new String(hexStringToBytes(name.substring(4)), "UTF-16")`; the name stays as it is when the
    encoding is not supported. -/
def decodeUcs2 (name : JString) : Except Throwable JString := do
  match ← hexStringToBytes (some (name.drop 4)) with
  | none => throw .nullPointerException
  | some bytes => return (platform.utf16 bytes).getD name

/-! ## The registered operator -/

/-- `responseOperator` after the array is read. -/
def operatorOf (response : Option (List (Option JString))) :
    Except Throwable (Option (List (Option JString))) := do
  let response ←
    match ← element response 0 with
    | some name =>
        if (literal "uCs2").isPrefixOf name then do
          let decoded ← decodeUcs2 platform name
          pure (response.map (·.set 0 (some decoded)))
        else pure response
    | none => pure response
  match ← element response 0 with
  | some name => do
      let numeric ← element response 2
      if name = [] ∨ some name = numeric then
        let temp := platform.unOptimizedOperatorReplace numeric
        return (response.map (·.set 0 temp)).map (·.set 1 temp)
      else return response
  | none => return response

def responseOperator (p : Parcel) : Except Throwable (Option (List (Option JString))) := do
  operatorOf platform (← platform.readStringArray p)

/-! ## The list of operators -/

/-- `SystemProperties.getInt` -/
def Properties.getInt (props : Properties) (key : JString) (default : JInt) : JInt :=
  (platform.intOf (props key)).getD default

/-- `SystemProperties.set` -/
def Properties.set (props : Properties) (key value : JString) : Properties :=
  Function.update props key value

def lacProperty : JString := literal "gsm.cops.lac"

/-- The capability of the baseband of a SIM. -/
def basebandCapability (mSimId : JInt) (props : Properties) : JInt :=
  let property_name := literal "gsm.baseband.capability"
  let property_name :=
    if 0 < mSimId.toInt then property_name ++ literal (toString (mSimId + 1).toInt)
    else property_name
  props.getInt platform property_name 3

def LacValid (lacStr : JString) (length : Nat) : Prop :=
  lacStr.length > 0 ∧ lacStr.length % 4 = 0 ∧ lacStr.length / 4 = length / 5

instance {lacStr : JString} {length : Nat} : Decidable (LacValid lacStr length) :=
  inferInstanceAs (Decidable (_ ∧ _ ∧ _))

section Round

variable (mSimId : JInt) (props : Properties) (lacStr : JString) (lacValid : Bool)

/-! ### The loop of `responseOperatorInfos`, block by block -/

/-- The long name at an index, decoded in place. -/
def decodeLongName (strings : List (Option JString)) (i : Nat) :
    Except Throwable (List (Option JString)) := do
  match ← element (some strings) i with
  | some name =>
      if (literal "uCs2").isPrefixOf name then
        let decoded ← decodeUcs2 platform name
        return strings.set i (some decoded)
      else return strings
  | none => return strings

/-- The part of a valid LAC string that belongs to a name; the next `lacIndex`. -/
def readLac (strings : List (Option JString)) (lacIndex i : Nat) : Except Throwable Nat := do
  match ← element (some strings) i with
  | some _ =>
      if lacValid then
        platform.iccRecords
        let lac ← substring lacStr lacIndex (lacIndex + 4)
        -- `lac != ""` compares references, and a substring is never the literal
        let _lacValue ← parseInt16 lac
        return lacIndex + 4
      else return lacIndex
  | none => return lacIndex

/-- Both names at an index, looked up if the long one is missing. -/
def replaceNames (strings : List (Option JString)) (i : Nat) :
    Except Throwable (List (Option JString)) := do
  match ← element (some strings) i with
  | some name =>
      let numeric ← element (some strings) (i + 2)
      if name = [] ∨ some name = numeric then
        let temp := platform.unOptimizedOperatorReplace numeric
        return (strings.set i temp).set (i + 1) temp
      else return strings
  | none => return strings

/-- The access technology behind both names. -/
def appendTechnology (strings : List (Option JString)) (i : Nat) :
    Except Throwable (List (Option JString)) := do
  if 3 < (basebandCapability platform mSimId props).toInt then
    let long ← concat (← element (some strings) i)
      (literal " " ++ stringOf (← element (some strings) (i + 4)))
    let strings := strings.set i (some long)
    let short ← concat (← element (some strings) (i + 1))
      (literal " " ++ stringOf (← element (some strings) (i + 4)))
    return strings.set (i + 1) (some short)
  else return strings

/-- The entry for the strings at an index. -/
def operatorInfo (strings : List (Option JString)) (i : Nat) :
    Except Throwable (OperatorInfo State) := do
  let long ← element (some strings) i
  let short ← element (some strings) (i + 1)
  let numeric ← element (some strings) (i + 2)
  let state ← platform.rilStateToState (← element (some strings) (i + 3))
  return ⟨long, short, numeric, state⟩

/-- One round, over `strings`, `lacIndex` and `ret`. -/
def operatorInfosStep (scan : List (Option JString) × Nat × List (OperatorInfo State)) (i : Nat) :
    Except Throwable (List (Option JString) × Nat × List (OperatorInfo State)) := do
  let (strings, lacIndex, ret) := scan
  let strings ← decodeLongName platform strings i
  let lacIndex ← readLac platform lacStr lacValid strings lacIndex i
  let strings ← replaceNames platform strings i
  let strings ← appendTechnology platform mSimId props strings i
  let info ← operatorInfo platform strings i
  return (strings, lacIndex, ret ++ [info])

end Round

/-- `responseOperatorInfos` after the strings are read. -/
def operatorInfosOf (mSimId : JInt) (strings : Option (List (Option JString))) :
    Prog Throwable Properties (List (OperatorInfo State)) := do
  let some strings := strings | throw .nullPointerException
  if strings.length % 5 ≠ 0 then
    throw (.runtimeException ("RIL_REQUEST_QUERY_AVAILABLE_NETWORKS: invalid response. Got " ++
      toString strings.length ++ " strings, expected multible of 5"))
  let lacStr := (← get) lacProperty
  let lacValid := decide (LacValid lacStr strings.length)
  modify fun props => props.set lacProperty []
  let props ← get
  let (_, _, ret) ← liftM ((List.range' 0 (strings.length / 5) 5).foldlM
    (operatorInfosStep platform mSimId props lacStr lacValid) (strings, 0, []))
  return ret

def responseOperatorInfos (mSimId : JInt) (p : Parcel) :
    Prog Throwable Properties (List (OperatorInfo State)) := do
  let (strings, _) ← liftM (env.decoders .responseStrings p)
  let strings ← liftM strings.toStringArray
  operatorInfosOf platform mSimId strings

end Ril
