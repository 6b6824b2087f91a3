-- SUMMARY: The loop of hexStringToBytes over its array, and hexadecimal decoding as the inverse of encoding.
import GioneeP4.Lib.DigitPairs
import GioneeP4.Lib.Outcome
import GioneeP4.Ril.Operators

/-!
# Hexadecimal strings

`hexStringToBytes` allocates half the length of the string and fills it two
characters at a time. A last character without a partner is an access behind the
end of the string, before anything is stored for it.
-/

namespace Ril

open DigitPairs Outcome

/-! ## The loop -/

/-- `s.charAt(i)` -/
def charAt (s : JString) (i : Nat) : Except Throwable UInt16 :=
  match s[i]? with
  | none => .error .stringIndexOutOfBoundsException
  | some c => .ok c

/-- `ret[i] = value` -/
def storeByte (ret : List (BitVec 8)) (i : Nat) (value : BitVec 8) :
    Except Throwable (List (BitVec 8)) :=
  if i < ret.length then .ok (ret.set i value) else .error (.arrayIndexOutOfBoundsException i)

/-- One round of the loop of `hexStringToBytes`. -/
def hexRound (s : JString) (ret : List (BitVec 8)) (i : Nat) : Except Throwable (List (BitVec 8)) := do
  let high ← hexCharToInt (← charAt s i)
  let low ← hexCharToInt (← charAt s (i + 1))
  storeByte ret (i / 2) ((high <<< 4 ||| low).setWidth 8)

/-- `for (int i=0 ; i <len ; i+=2)`, over the array `new byte[len/2]`. -/
def hexLoop (s : JString) : Except Throwable (List (BitVec 8)) :=
  (List.range' 0 ((s.length + 1) / 2) 2).foldlM (hexRound s) (List.replicate (s.length / 2) 0)

theorem charAt_append {front rest : JString} {c : UInt16} {i : Nat} (h : rest[i]? = some c) :
    charAt (front ++ rest) (front.length + i) = .ok c := by
  rw [charAt, List.getElem?_append_right (Nat.le_add_right ..), Nat.add_sub_cancel_left, h]

/-- A round reads two characters and stores one byte. -/
theorem hexRound_pair {front rest : JString} {c d : UInt16} {done left : List (BitVec 8)}
    {b : BitVec 8} (hfront : front.length = 2 * done.length) :
    hexRound (front ++ c :: d :: rest) (done ++ b :: left) front.length = (do
      let high ← hexCharToInt c
      let low ← hexCharToInt d
      return done ++ (high <<< 4 ||| low).setWidth 8 :: left) := by
  have hc : charAt (front ++ c :: d :: rest) front.length = .ok c := @charAt_append _ _ _ 0 rfl
  have hd : charAt (front ++ c :: d :: rest) (front.length + 1) = .ok d := charAt_append rfl
  have hindex : front.length / 2 = done.length := by omega
  have hstore : ∀ value, storeByte (done ++ b :: left) done.length value =
      .ok (done ++ value :: left) := by
    intro value
    rw [storeByte, if_pos (by simp), List.set_append_right _ _ le_rfl, Nat.sub_self,
      List.set_cons_zero]
  simp only [hexRound, hc, hd, ok_bind, hindex, hstore]
  rfl

/-- A last character without a partner stops the loop. -/
theorem hexRound_last {front : JString} {c : UInt16} {done : List (BitVec 8)} :
    hexRound (front ++ [c]) done front.length = (do
      let _ ← hexCharToInt c
      throw .stringIndexOutOfBoundsException) := by
  have hc : charAt (front ++ [c]) front.length = .ok c := @charAt_append _ _ _ 0 rfl
  have hbehind : charAt (front ++ [c]) (front.length + 1) =
      .error .stringIndexOutOfBoundsException := by
    rw [charAt, List.getElem?_eq_none (by simp)]
  simp only [hexRound, hc, hbehind, ok_bind, error_bind]
  rfl

/-- From an even index on, the loop stores the bytes of the rest behind those already there. -/
theorem hexLoop_from {front rest : JString} {done : List (BitVec 8)}
    (hfront : front.length = 2 * done.length) :
    (List.range' front.length ((rest.length + 1) / 2) 2).foldlM (hexRound (front ++ rest))
        (done ++ List.replicate (rest.length / 2) 0) =
      (hexBytes rest).map (done ++ ·) := by
  induction rest using hexBytes.induct generalizing front done with
  | case1 => rfl
  | case2 c =>
    have hrounds : ([c].length + 1) / 2 = 1 := by simp
    rw [hrounds, List.range'_one, List.foldlM_cons, hexRound_last, hexBytes]
    cases hexCharToInt c <;> rfl
  | case3 c d rest ih =>
    have hrounds : ((c :: d :: rest).length + 1) / 2 = (rest.length + 1) / 2 + 1 := by
      simp only [List.length_cons]
      omega
    have hbytes : (c :: d :: rest).length / 2 = rest.length / 2 + 1 := by
      simp only [List.length_cons]
      omega
    rw [hrounds, hbytes, List.range'_succ, List.replicate_succ, List.foldlM_cons,
      hexRound_pair hfront, hexBytes]
    cases hexCharToInt c with
    | error e => rfl
    | ok high =>
      cases hexCharToInt d with
      | error e => rfl
      | ok low =>
        have hfront' : (front ++ [c, d]).length =
            2 * (done ++ [(high <<< 4 ||| low).setWidth 8]).length := by
          simp only [List.length_append, List.length_cons, List.length_nil]
          omega
        have hrest := ih hfront'
        simp only [List.append_assoc, List.cons_append, List.nil_append, List.length_append,
          List.length_cons, List.length_nil] at hrest
        simp only [ok_bind]
        change List.foldlM _ _ _ = _
        rw [hrest]
        cases hexBytes rest with
        | error e => rfl
        | ok bytes => simp [Except.map, pure, Except.pure]

/-- Two characters at a time is what the loop does with its array. -/
theorem hexStringToBytes_eq_hexLoop {s : JString} :
    hexStringToBytes (some s) = (hexLoop s).map some := by
  have hloop := @hexLoop_from [] s [] rfl
  simp only [List.length_nil, List.nil_append] at hloop
  rw [hexStringToBytes, hexLoop, hloop]
  cases hexBytes s <;> rfl

/-! ## Digits -/

/-- The digit that a character is read as. -/
def hexValue (c : UInt16) : Option (BitVec 4) :=
  match hexCharToInt c with
  | .ok value => some (value.setWidth 4)
  | .error _ => none

/-- A byte is its two halves. -/
def nibbles : BitVec 4 × BitVec 4 ≃ BitVec 8 where
  toFun halves := halves.1 ++ halves.2
  invFun b := (b.extractLsb' 4 4, b.extractLsb' 0 4)
  left_inv halves := by
    obtain ⟨high, low⟩ := halves
    have hlow : (high ++ low).extractLsb' 0 4 = low := by
      rw [BitVec.extractLsb'_append_eq_of_add_le (by decide)]
      exact BitVec.extractLsb'_eq_self
    exact Prod.ext BitVec.extractLsb'_append_eq_left hlow
  right_inv b := by
    have hbyte := @BitVec.extractLsb'_append_extractLsb'_eq_extractLsb' 8 4 0 4 4 b rfl
    exact hbyte.trans BitVec.extractLsb'_eq_self

/-- The letter case of digits. -/
inductive Letters
  | upper | lower

def Letters.first : Letters → Nat
  | .upper => 65
  | .lower => 97

/-- The character for a digit. -/
def hexDigit (letters : Letters) (digit : BitVec 4) : UInt16 :=
  if digit.toNat < 10 then UInt16.ofNat (48 + digit.toNat)
  else UInt16.ofNat (letters.first + (digit.toNat - 10))

/-- Two digits for each byte. -/
def hexString (letters : Letters) (bytes : List (BitVec 8)) : JString :=
  encode (hexDigit letters) nibbles bytes

def toLowerCase (c : UInt16) : UInt16 := if 65 ≤ c ∧ c ≤ 90 then c + 32 else c

/-- The strings are the same up to letter case. -/
def EqualsIgnoreCase (s t : JString) : Prop := s.map toLowerCase = t.map toLowerCase

/-- The characters `0`-`9`, `A`-`F` and `a`-`f`. -/
def hexDigits : JString := literal "0123456789ABCDEFabcdef"

theorem lt_of_hexCharToInt {c : UInt16} {v : JInt} (h : hexCharToInt c = .ok v) : v.toNat < 16 := by
  unfold hexCharToInt at h
  split at h
  · cases h
    simp only [BitVec.toNat_ofNat]
    omega
  · split at h
    · cases h
      simp only [BitVec.toNat_ofNat]
      omega
    · split at h
      · cases h
        simp only [BitVec.toNat_ofNat]
        omega
      · cases h

/-- A digit is read from one of its characters only. -/
theorem mem_hexDigits {c : UInt16} {v : JInt} (h : hexCharToInt c = .ok v) : c ∈ hexDigits := by
  have hcode : c.toNat ∈ hexDigits.map UInt16.toNat := by
    change c.toNat ∈ [48, 49, 50, 51, 52, 53, 54, 55, 56, 57, 65, 66, 67, 68, 69, 70, 97, 98, 99,
      100, 101, 102]
    simp only [List.mem_cons, List.not_mem_nil, or_false]
    unfold hexCharToInt at h
    split at h
    · omega
    · split at h
      · omega
      · split at h
        · omega
        · cases h
  obtain ⟨d, hd, heq⟩ := List.mem_map.mp hcode
  rwa [← UInt16.toNat_inj.mp heq]

theorem hexCharToInt_eq_ok {c : UInt16} {v : JInt} :
    hexCharToInt c = .ok v ↔ ∃ n, hexValue c = some n ∧ v = n.setWidth 32 := by
  unfold hexValue
  cases h : hexCharToInt c with
  | error e => simp
  | ok u =>
    have hlt := lt_of_hexCharToInt h
    have hwidth : (u.setWidth 4).setWidth 32 = u := by
      apply BitVec.eq_of_toNat_eq
      simp only [BitVec.toNat_setWidth]
      omega
    simp only [Except.ok.injEq, Option.some.injEq, exists_eq_left', hwidth]
    exact eq_comm

theorem mem_hexDigits_iff {c : UInt16} : c ∈ hexDigits ↔ ∃ n, hexValue c = some n := by
  constructor
  · intro h
    have hall : hexDigits.all (fun c => (hexValue c).isSome) = true := by decide
    exact Option.isSome_iff_exists.mp (List.all_eq_true.mp hall c h)
  · rintro ⟨n, hn⟩
    exact mem_hexDigits (hexCharToInt_eq_ok.mpr ⟨n, hn, rfl⟩)

theorem hexValue_hexDigit {letters : Letters} {n : BitVec 4} :
    hexValue (hexDigit letters n) = some n := by
  cases letters <;> revert n <;> decide

theorem toLowerCase_hexDigit {letters : Letters} {c : UInt16} {n : BitVec 4}
    (h : hexValue c = some n) : toLowerCase (hexDigit letters n) = toLowerCase c := by
  have hall : hexDigits.all (fun c => (hexValue c).all fun n =>
      toLowerCase (hexDigit letters n) = toLowerCase c) = true := by
    cases letters <;> decide
  have hdigit := List.all_eq_true.mp hall c (mem_hexDigits_iff.mpr ⟨n, h⟩)
  rw [h] at hdigit
  exact of_decide_eq_true hdigit

/-! ## Decoding -/

/-- The byte put together from two digits. -/
theorem setWidth_halves {high low : BitVec 4} :
    ((high.setWidth 32 : JInt) <<< 4 ||| low.setWidth 32).setWidth 8 = nibbles (high, low) := by
  revert high low
  decide

theorem hexBytes_eq_ok_iff {s : JString} {bytes : List (BitVec 8)} :
    hexBytes s = .ok bytes ↔ decode hexValue nibbles s = some bytes := by
  induction s using hexBytes.induct generalizing bytes with
  | case1 => simp [hexBytes, decode]
  | case2 c => simp [hexBytes, decode, bind_eq_ok]
  | case3 c d rest ih =>
    rw [decode_cons_cons_eq_some, hexBytes]
    simp only [bind_eq_ok, hexCharToInt_eq_ok, ih]
    constructor
    · rintro ⟨_, ⟨high, hhigh, rfl⟩, _, ⟨low, hlow, rfl⟩, values, hrest, hbytes⟩
      cases hbytes
      exact ⟨high, low, values, hhigh, hlow, hrest, by rw [setWidth_halves]⟩
    · rintro ⟨high, low, values, hhigh, hlow, hrest, rfl⟩
      refine ⟨_, ⟨high, hhigh, rfl⟩, _, ⟨low, hlow, rfl⟩, values, hrest, ?_⟩
      rw [setWidth_halves]
      rfl

/-- A decoder that is the exact inverse of encoding in hexadecimal. -/
structure InvertsHexString (decoder : JString → Except Throwable (Option (List (BitVec 8)))) :
    Prop where
  returns_iff : ∀ s, (∃ ret, decoder s = .ok ret) ↔ s.length % 2 = 0 ∧ ∀ c ∈ s, c ∈ hexDigits
  encodes : ∀ s ret, decoder s = .ok ret → ∃ bytes, ret = some bytes ∧
    bytes.length = s.length / 2 ∧ ∀ letters, EqualsIgnoreCase (hexString letters bytes) s
  decodes : ∀ letters bytes, decoder (hexString letters bytes) = .ok (some bytes)

theorem hexStringToBytes_eq_ok {s : JString} {ret : Option (List (BitVec 8))} :
    hexStringToBytes (some s) = .ok ret ↔
      ∃ bytes, decode hexValue nibbles s = some bytes ∧ some bytes = ret := by
  simp only [hexStringToBytes, map_eq_ok, hexBytes_eq_ok_iff]

theorem hexStringToBytes_inverts : InvertsHexString fun s => hexStringToBytes (some s) := by
  constructor
  case returns_iff =>
    intro s
    simp only [hexStringToBytes_eq_ok, mem_hexDigits_iff]
    rw [← @exists_decode_iff _ _ _ hexValue nibbles s]
    constructor
    · rintro ⟨_, bytes, hbytes, -⟩
      exact ⟨bytes, hbytes⟩
    · rintro ⟨bytes, hbytes⟩
      exact ⟨_, bytes, hbytes, rfl⟩
  case encodes =>
    intro s ret h
    obtain ⟨bytes, hbytes, rfl⟩ := hexStringToBytes_eq_ok.mp h
    refine ⟨bytes, rfl, ?_, fun letters => ?_⟩
    · have hlength := length_of_decode hbytes
      omega
    · exact map_encode_of_decode (fun _ _ => toLowerCase_hexDigit) hbytes
  case decodes =>
    intro letters bytes
    exact hexStringToBytes_eq_ok.mpr ⟨bytes, decode_encode (fun _ => hexValue_hexDigit), rfl⟩

end Ril
