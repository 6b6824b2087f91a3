-- SUMMARY: The operator decoders group by group: what each makes of the five strings of an operator, and the loop as a walk over the groups.
import GioneeP4.Lib.Stride
import GioneeP4.Ril.Operators

/-!
# Operators group by group

Both decoders make the same names of an operator. The loop over the array of a
network search visits its groups of five strings in order. It ends without an
exception when each group can be read on its own and, if there is a valid LAC
string, the parts of it that are read are hexadecimal.
-/

namespace Ril

open Prog Outcome Stride

variable {State : Type} (platform : Platform State)

/-! ## The names of an operator -/

/-- The long name, decoded if it is encoded. -/
def longName (long : Option JString) : Except Throwable (Option JString) :=
  match long with
  | some name =>
      if (literal "uCs2").isPrefixOf name then (decodeUcs2 platform name).map some
      else .ok (some name)
  | none => .ok none

/-- The long name is missing, but not null. -/
def LooksUp (long numeric : Option JString) : Prop :=
  ∃ name, long = some name ∧ (name = [] ∨ some name = numeric)

instance {long numeric : Option JString} : Decidable (LooksUp long numeric) :=
  match long with
  | none => .isFalse (by rintro ⟨name, h, -⟩; cases h)
  | some name => decidable_of_iff (name = [] ∨ some name = numeric) (by simp [LooksUp])

/-- Both names, looked up if the long one is missing. -/
def replaced (long short numeric : Option JString) : Option JString × Option JString :=
  if LooksUp long numeric then
    (platform.unOptimizedOperatorReplace numeric, platform.unOptimizedOperatorReplace numeric)
  else (long, short)

/-- What `responseOperator` makes of the first two elements of an array of three. -/
def norm (long short numeric : Option JString) :
    Except Throwable (Option JString × Option JString) := do
  let response ← operatorOf platform (some [long, short, numeric])
  return (← element response 0, ← element response 1)

variable {platform} {long short numeric : Option JString} {rest : List (Option JString)}

theorem looksUp_some {name : JString} :
    LooksUp (some name) numeric ↔ name = [] ∨ some name = numeric := by
  simp [LooksUp]

@[simp] theorem element_zero {x : Option JString} :
    element (some (x :: rest)) 0 = .ok x := rfl

@[simp] theorem element_two {x y z : Option JString} :
    element (some (x :: y :: z :: rest)) 2 = .ok z := rfl

theorem operatorOf_eq :
    operatorOf platform (some (long :: short :: numeric :: rest)) =
      (longName platform long).map fun long =>
        some ((replaced platform long short numeric).1 ::
          (replaced platform long short numeric).2 :: numeric :: rest) := by
  have hreplaced : ∀ name : JString,
      replaced platform (some name) short numeric =
        if name = [] ∨ some name = numeric then
          (platform.unOptimizedOperatorReplace numeric, platform.unOptimizedOperatorReplace numeric)
        else (some name, short) := by
    intro name
    simp only [replaced, looksUp_some]
  cases long with
  | none => rfl
  | some name =>
    simp only [operatorOf, longName, element_zero, ok_bind]
    split
    · cases decodeUcs2 platform name with
      | error e => rfl
      | ok decoded =>
        simp only [ok_bind, Except.map, Option.map_some, List.set_cons_zero, hreplaced]
        simp only [pure, Except.pure, ok_bind, element_zero, element_two]
        split <;> rfl
    · simp only [Except.map, hreplaced]
      simp only [pure, Except.pure, ok_bind, element_zero, element_two]
      split <;> rfl

theorem norm_eq : norm platform long short numeric =
    (longName platform long).map fun long => replaced platform long short numeric := by
  rw [norm, operatorOf_eq]
  cases longName platform long <;> rfl

/-- A name needs a third element. -/
theorem operatorOf_short {name : JString} {response : List (Option JString)}
    {r : Option (List (Option JString))} (hshort : response.length ≤ 1) :
    operatorOf platform (some (some name :: response)) ≠ .ok r := by
  intro h
  have hthird : ∀ (decoded : JString) (k : Option JString → Except Throwable _),
      element (some (some decoded :: response)) 2 >>= k ≠ .ok r := by
    intro decoded k
    have hnone : (some decoded :: response)[2]? = none := by
      rw [List.getElem?_eq_none_iff, List.length_cons]
      omega
    rw [element, hnone]
    exact nofun
  simp only [operatorOf, element_zero, ok_bind] at h
  split at h
  · obtain ⟨decoded, -, h⟩ := bind_eq_ok.mp h
    exact hthird decoded _ h
  · exact hthird name _ h

/-- `responseOperator` keeps the length of the array and everything behind the names. -/
theorem operatorOf_frame {response : List (Option JString)} {r : Option (List (Option JString))}
    (h : operatorOf platform (some response) = .ok r) :
    ∃ response', r = some response' ∧ response'.length = response.length ∧
      ∀ j, 2 ≤ j → response'[j]? = response[j]? := by
  match response with
  | [] => cases h
  | long :: short :: numeric :: rest =>
    rw [operatorOf_eq] at h
    obtain ⟨long', -, rfl⟩ := map_eq_ok.mp h
    refine ⟨_, rfl, rfl, fun j hj => ?_⟩
    obtain ⟨k, rfl⟩ := Nat.exists_eq_add_of_le' hj
    rfl
  | [none] | [none, _] =>
    cases h
    exact ⟨_, rfl, rfl, fun _ _ => rfl⟩
  | [some name] | [some name, _] =>
    exact absurd h (operatorOf_short (by simp))

/-! ## The strings of one operator -/

/-- The five strings of an operator. -/
structure Group where
  long : Option JString
  short : Option JString
  numeric : Option JString
  state : Option JString
  technology : Option JString
  deriving DecidableEq

def Group.flat (g : Group) : List (Option JString) :=
  [g.long, g.short, g.numeric, g.state, g.technology]

def groupsOf : List (Option JString) → List Group
  | long :: short :: numeric :: state :: technology :: rest =>
      ⟨long, short, numeric, state, technology⟩ :: groupsOf rest
  | _ => []

/-- An array of whole groups is its groups in a row. -/
theorem flat_groupsOf {strings : List (Option JString)} (h : strings.length % 5 = 0) :
    (groupsOf strings).flatMap Group.flat = strings ∧
      (groupsOf strings).length = strings.length / 5 := by
  induction strings using groupsOf.induct with
  | case1 long short numeric state technology rest ih =>
    simp only [List.length_cons, Nat.add_assoc] at h ⊢
    obtain ⟨hflat, hlength⟩ := ih (by omega)
    rw [groupsOf, List.flatMap_cons, hflat, List.length_cons, hlength]
    refine ⟨rfl, by omega⟩
  | case2 strings hshort =>
    match strings with
    | [] => exact ⟨rfl, rfl⟩
    | [_] | [_, _] | [_, _, _] | [_, _, _, _] => simp at h
    | long :: short :: numeric :: state :: technology :: rest =>
      exact absurd rfl (hshort long short numeric state technology rest)

section Visit

variable (platform) (mSimId : JInt) (props : Properties) (lacStr : JString) (lacValid : Bool)

/-- Reading the LAC of an operator, if it has a long name and the LAC string is valid. -/
def lacOf (long : Option JString) (lacIndex : Nat) : Except Throwable Nat :=
  if long.isSome ∧ lacValid then do
    platform.iccRecords
    let lac ← substring lacStr lacIndex (lacIndex + 4)
    let _ ← parseInt16 lac
    return lacIndex + 4
  else return lacIndex

/-- A name with the access technology behind it, where the baseband asks for it. -/
def withTechnology (technology name : Option JString) : Except Throwable (Option JString) :=
  if 3 < (basebandCapability platform mSimId props).toInt then
    (concat name (literal " " ++ stringOf technology)).map some
  else .ok name

/-- One round of the loop on the group it is at. -/
def visit (g : Group) (carried : Nat × List (OperatorInfo State)) :
    Except Throwable (Group × Nat × List (OperatorInfo State)) := do
  let long ← longName platform g.long
  let lacIndex ← lacOf platform lacStr lacValid long carried.1
  let names := replaced platform long g.short g.numeric
  let long ← withTechnology platform mSimId props g.technology names.1
  let short ← withTechnology platform mSimId props g.technology names.2
  let state ← platform.rilStateToState g.state
  return (⟨long, short, g.numeric, g.state, g.technology⟩, lacIndex,
    carried.2 ++ [⟨long, short, g.numeric, state⟩])

end Visit

section Round

variable {mSimId : JInt} {props : Properties} {lacStr : JString} {lacValid : Bool}
variable {done xs : List (Option JString)} {g : Group} {lacIndex : Nat}

theorem element_append {k : Nat} {x : Option JString} (h : xs[k]? = some x) :
    element (some (done ++ xs)) (done.length + k) = .ok x := by
  rw [element, List.getElem?_append_right (Nat.le_add_right ..), Nat.add_sub_cancel_left, h]

theorem element_append_cons {x : Option JString} :
    element (some (done ++ x :: xs)) done.length = .ok x := element_append (k := 0) rfl

theorem set_append {k : Nat} {x : Option JString} :
    (done ++ xs).set (done.length + k) x = done ++ xs.set k x := by
  rw [List.set_append_right _ _ (Nat.le_add_right ..), Nat.add_sub_cancel_left]

theorem set_append_cons {x y : Option JString} :
    (done ++ x :: xs).set done.length y = done ++ y :: xs := set_append (k := 0)

theorem decodeLongName_eq :
    decodeLongName platform (done ++ long :: xs) done.length =
      (longName platform long).map fun long => done ++ long :: xs := by
  rw [decodeLongName, element_append_cons, ok_bind]
  cases long with
  | none => rfl
  | some name =>
    simp only [longName, set_append_cons]
    split
    · cases decodeUcs2 platform name <;> rfl
    · rfl

theorem readLac_eq :
    readLac platform lacStr lacValid (done ++ long :: xs) lacIndex done.length =
      lacOf platform lacStr lacValid long lacIndex := by
  rw [readLac, element_append_cons, ok_bind]
  cases long with
  | none => rfl
  | some name => cases lacValid <;> rfl

theorem replaceNames_eq :
    replaceNames platform (done ++ long :: short :: numeric :: xs) done.length =
      .ok (done ++ (replaced platform long short numeric).1 ::
        (replaced platform long short numeric).2 :: numeric :: xs) := by
  rw [replaceNames, element_append_cons, ok_bind]
  cases long with
  | none => rfl
  | some name =>
    have hnumeric : element (some (done ++ some name :: short :: numeric :: xs)) (done.length + 2) =
        .ok numeric := element_append rfl
    simp only [hnumeric, ok_bind, replaced, looksUp_some, set_append_cons, set_append]
    split <;> rfl

theorem appendTechnology_eq {technology state : Option JString} :
    appendTechnology platform mSimId props
        (done ++ long :: short :: numeric :: state :: technology :: xs) done.length = do
      let long ← withTechnology platform mSimId props technology long
      let short ← withTechnology platform mSimId props technology short
      return done ++ long :: short :: numeric :: state :: technology :: xs := by
  have htechnology : ∀ long, element
      (some (done ++ long :: short :: numeric :: state :: technology :: xs)) (done.length + 4) =
        .ok technology := fun _ => element_append rfl
  have hshort : ∀ long, element
      (some (done ++ long :: short :: numeric :: state :: technology :: xs)) (done.length + 1) =
        .ok short := fun _ => element_append rfl
  simp only [appendTechnology, withTechnology]
  split
  · simp only [element_append_cons, ok_bind, htechnology]
    cases long with
    | none => rfl
    | some name =>
      simp only [concat, Except.map, ok_bind, set_append_cons, hshort, htechnology, set_append]
      cases short <;> rfl
  · rfl

theorem operatorInfo_eq {technology state : Option JString} :
    operatorInfo platform (done ++ long :: short :: numeric :: state :: technology :: xs)
        done.length =
      (platform.rilStateToState state).map fun state => ⟨long, short, numeric, state⟩ := by
  have hat : ∀ {k : Nat} {x : Option JString},
      (long :: short :: numeric :: state :: technology :: xs)[k]? = some x →
        element (some (done ++ long :: short :: numeric :: state :: technology :: xs))
          (done.length + k) = .ok x := element_append
  simp only [operatorInfo, element_append_cons, hat (k := 1) rfl, hat (k := 2) rfl,
    hat (k := 3) rfl, ok_bind]
  cases platform.rilStateToState state <;> rfl

/-- A round of the loop visits the group it is at. -/
theorem operatorInfosStep_eq {carried : Nat × List (OperatorInfo State)} :
    operatorInfosStep platform mSimId props lacStr lacValid (done ++ (g.flat ++ xs), carried)
        done.length =
      (visit platform mSimId props lacStr lacValid g carried).map fun p =>
        (done ++ (p.1.flat ++ xs), p.2) := by
  simp only [operatorInfosStep, visit, Group.flat, List.cons_append, List.nil_append,
    decodeLongName_eq]
  cases longName platform g.long with
  | error e => rfl
  | ok long =>
    simp only [Except.map, ok_bind, readLac_eq]
    cases lacOf platform lacStr lacValid long carried.1 with
    | error e => rfl
    | ok lacIndex =>
      simp only [ok_bind, replaceNames_eq, appendTechnology_eq]
      cases withTechnology platform mSimId props g.technology
          (replaced platform long g.short g.numeric).1 with
      | error e => rfl
      | ok long' =>
        cases withTechnology platform mSimId props g.technology
            (replaced platform long g.short g.numeric).2 with
        | error e => rfl
        | ok short' =>
          simp only [ok_bind, pure, Except.pure, operatorInfo_eq]
          cases platform.rilStateToState g.state <;> rfl

end Round

/-! ## The list of all operators -/

section List

variable (platform) (mSimId : JInt) (props : Properties) (lacStr : JString)

/-- The entry of a group, without any LAC. -/
def infoOf (g : Group) : Except Throwable (OperatorInfo State) := do
  let names ← norm platform g.long g.short g.numeric
  let long ← withTechnology platform mSimId props g.technology names.1
  let short ← withTechnology platform mSimId props g.technology names.2
  let state ← platform.rilStateToState g.state
  return ⟨long, short, g.numeric, state⟩

/-- The part of the LAC string at an index is read without an exception. -/
def LacReadable (lacIndex : Nat) : Prop :=
  platform.iccRecords = .ok () ∧ ∃ lac value,
    substring lacStr lacIndex (lacIndex + 4) = .ok lac ∧ parseInt16 lac = .ok value

/-- The operators with a long name. -/
def named (groups : List Group) : Nat := (groups.filter (·.long.isSome)).length

variable {platform mSimId props lacStr} {lacValid : Bool} {g : Group} {groups : List Group}
variable {lacIndex : Nat} {ret : List (OperatorInfo State)}

theorem lacOf_eq_ok {next : Nat} :
    lacOf platform lacStr lacValid long lacIndex = .ok next ↔
      if long.isSome ∧ lacValid then LacReadable platform lacStr lacIndex ∧ next = lacIndex + 4
      else next = lacIndex := by
  rw [lacOf]
  split
  · constructor
    · intro h
      obtain ⟨⟨⟩, hrecords, h⟩ := bind_eq_ok.mp h
      obtain ⟨lac, hlac, h⟩ := bind_eq_ok.mp h
      obtain ⟨value, hvalue, h⟩ := bind_eq_ok.mp h
      cases h
      exact ⟨⟨hrecords, lac, value, hlac, hvalue⟩, rfl⟩
    · rintro ⟨⟨hrecords, lac, value, hlac, hvalue⟩, rfl⟩
      simp only [hrecords, hlac, hvalue, ok_bind]
      rfl
  · constructor
    · intro h
      cases h
      rfl
    · rintro rfl
      rfl

/-- Decoding does not change whether there is a name. -/
theorem isSome_of_longName {long' : Option JString} (h : longName platform long = .ok long') :
    long'.isSome = long.isSome := by
  cases long with
  | none =>
    cases h
    rfl
  | some name =>
    rw [longName] at h
    split at h
    · obtain ⟨decoded, -, rfl⟩ := map_eq_ok.mp h
      rfl
    · cases h
      rfl

/-- A visit adds the entry of the group, and reads the LAC of an operator with a long name. -/
theorem visit_eq_ok {g' : Group} {next : Nat} {ret' : List (OperatorInfo State)} :
    visit platform mSimId props lacStr lacValid g (lacIndex, ret) = .ok (g', next, ret') ↔
      ∃ info, infoOf platform mSimId props g = .ok info ∧ ret' = ret ++ [info] ∧
        g' = ⟨info.operatorAlphaLong, info.operatorAlphaShort, g.numeric, g.state, g.technology⟩ ∧
        if g.long.isSome ∧ lacValid then LacReadable platform lacStr lacIndex ∧ next = lacIndex + 4
        else next = lacIndex := by
  simp only [visit, infoOf, norm_eq]
  constructor
  · intro h
    obtain ⟨long, hlong, h⟩ := bind_eq_ok.mp h
    obtain ⟨next', hlac, h⟩ := bind_eq_ok.mp h
    obtain ⟨long', hlong', h⟩ := bind_eq_ok.mp h
    obtain ⟨short', hshort', h⟩ := bind_eq_ok.mp h
    obtain ⟨state, hstate, h⟩ := bind_eq_ok.mp h
    cases h
    rw [lacOf_eq_ok, isSome_of_longName hlong] at hlac
    refine ⟨⟨long', short', g.numeric, state⟩, ?_, rfl, rfl, hlac⟩
    simp only [hlong, Except.map, ok_bind, hlong', hshort', hstate]
    rfl
  · rintro ⟨info, h, rfl, rfl, hlac⟩
    obtain ⟨names, hnames, h⟩ := bind_eq_ok.mp h
    obtain ⟨long, hlong, rfl⟩ := map_eq_ok.mp hnames
    obtain ⟨long', hlong', h⟩ := bind_eq_ok.mp h
    obtain ⟨short', hshort', h⟩ := bind_eq_ok.mp h
    obtain ⟨state, hstate, h⟩ := bind_eq_ok.mp h
    cases h
    rw [← isSome_of_longName hlong, ← lacOf_eq_ok] at hlac
    simp only [hlong, hlac, hlong', hshort', hstate, ok_bind]
    rfl

theorem named_cons :
    named (g :: groups) = if g.long.isSome then named groups + 1 else named groups := by
  rw [named, List.filter_cons]
  split <;> rfl

/-- The LACs from an index on are those of the first operator with a long name, and of the rest. -/
theorem lacReadable_cons :
    (∀ j < named (g :: groups), LacReadable platform lacStr (lacIndex + 4 * j)) ↔
      if g.long.isSome then LacReadable platform lacStr lacIndex ∧
        ∀ j < named groups, LacReadable platform lacStr (lacIndex + 4 + 4 * j)
      else ∀ j < named groups, LacReadable platform lacStr (lacIndex + 4 * j) := by
  rw [named_cons]
  split
  · have hnext : ∀ j, lacIndex + 4 * (j + 1) = lacIndex + 4 + 4 * j := by
      intro j
      omega
    simp only [Nat.forall_lt_succ_left, hnext, Nat.mul_zero, Nat.add_zero]
  · rfl

/-- The walk ends when every group has an entry and the LACs of those with a long name are read. -/
theorem walk_visit_eq_ok {ret' : List (OperatorInfo State)} :
    (∃ groups' next, Stride.walk (visit platform mSimId props lacStr lacValid) groups
        (lacIndex, ret) = .ok (groups', next, ret')) ↔
      ∃ infos, Results (infoOf platform mSimId props) groups infos ∧
        ret' = ret ++ infos ∧
          (lacValid → ∀ j < named groups, LacReadable platform lacStr (lacIndex + 4 * j)) := by
  induction groups generalizing lacIndex ret with
  | nil =>
    constructor
    · rintro ⟨groups', next, h⟩
      obtain ⟨-, ht⟩ := walk_nil_eq_ok.mp h
      cases ht
      exact ⟨[], .nil, (List.append_nil _).symm, fun _ j hj => absurd hj (Nat.not_lt_zero j)⟩
    · rintro ⟨infos, hinfos, rfl, -⟩
      cases hinfos
      exact ⟨[], lacIndex, by rw [List.append_nil]; rfl⟩
  | cons g groups ih =>
    constructor
    · rintro ⟨groups', next, h⟩
      obtain ⟨g', ⟨lacIndex', ret₁⟩, rest, hvisit, hwalk, -⟩ := walk_cons_eq_ok.mp h
      obtain ⟨info, hinfo, rfl, -, hlac⟩ := visit_eq_ok.mp hvisit
      obtain ⟨infos, hinfos, rfl, hlacs⟩ := ih.mp ⟨rest, next, hwalk⟩
      refine ⟨info :: infos, .cons hinfo hinfos, by simp, fun hvalid => ?_⟩
      rw [lacReadable_cons]
      specialize hlacs hvalid
      split
      · rename_i hnamed
        rw [if_pos ⟨hnamed, hvalid⟩] at hlac
        obtain ⟨hread, rfl⟩ := hlac
        exact ⟨hread, hlacs⟩
      · rename_i hnamed
        rw [if_neg fun h => hnamed h.1] at hlac
        exact hlac ▸ hlacs
    · rintro ⟨infos, hinfos, rfl, hlacs⟩
      cases hinfos with
      | @cons _ info _ infos hinfo hinfos =>
      rw [lacReadable_cons] at hlacs
      obtain ⟨lacIndex', hlac, hrest⟩ : ∃ lacIndex',
          (if g.long.isSome ∧ lacValid then
            LacReadable platform lacStr lacIndex ∧ lacIndex' = lacIndex + 4
          else lacIndex' = lacIndex) ∧
            (lacValid → ∀ j < named groups, LacReadable platform lacStr (lacIndex' + 4 * j)) := by
        by_cases hnamed : g.long.isSome ∧ lacValid
        · rw [if_pos hnamed.1] at hlacs
          obtain ⟨hread, hrest⟩ := hlacs hnamed.2
          exact ⟨lacIndex + 4, by rw [if_pos hnamed]; exact ⟨hread, rfl⟩, fun _ => hrest⟩
        · refine ⟨lacIndex, by rw [if_neg hnamed], fun hvalid => ?_⟩
          have hlong : ¬g.long.isSome := fun h => hnamed ⟨h, hvalid⟩
          rw [if_neg hlong] at hlacs
          exact hlacs hvalid
      obtain ⟨rest, next, hwalk⟩ := ih.mpr ⟨infos, hinfos, List.append_cons ret info infos, hrest⟩
      exact ⟨_, next, walk_cons_eq_ok.mpr
        ⟨_, _, rest, visit_eq_ok.mpr ⟨info, hinfo, rfl, rfl, hlac⟩, hwalk, rfl⟩⟩

/-- What the decoder of a network search returns: an entry for each group, unless the parts of a
    valid LAC string stand in the way. -/
structure Delivers (platform : Platform State) (mSimId : JInt) (props : Properties)
    (strings : List (Option JString)) (infos : List (OperatorInfo State)) : Prop where
  whole : strings.length % 5 = 0
  entries : Results (infoOf platform mSimId props) (groupsOf strings) infos
  lacs : LacValid (props lacProperty) strings.length →
    ∀ j < named (groupsOf strings), LacReadable platform (props lacProperty) (4 * j)

/-- The property of the capability is not the one of the LACs. -/
theorem basebandCapability_set {lac : JString} :
    basebandCapability platform mSimId (props.set lacProperty lac) =
      basebandCapability platform mSimId props := by
  have hprefix : (literal "gsm.baseband.capability").take 5 ≠ lacProperty.take 5 := by decide
  have hname : ∀ suffix, literal "gsm.baseband.capability" ++ suffix ≠ lacProperty := by
    intro suffix hsame
    rw [← hsame, List.take_append_of_le_length (by decide)] at hprefix
    exact hprefix rfl
  simp only [basebandCapability, Properties.getInt, Properties.set]
  split
  · rw [Function.update_of_ne (hname _)]
  · rw [Function.update_of_ne fun hsame => hname [] (by rw [List.append_nil, hsame])]

theorem infoOf_set {lac : JString} :
    infoOf platform mSimId (props.set lacProperty lac) = infoOf platform mSimId props := by
  funext g
  simp only [infoOf, withTechnology, basebandCapability_set]

/-- The loop over an array of whole groups, from its first index on. -/
theorem loop_eq_walk {strings : List (Option JString)} (h : strings.length % 5 = 0)
    {lacValid : Bool} :
    (List.range' 0 (strings.length / 5) 5).foldlM
        (operatorInfosStep platform mSimId props lacStr lacValid) (strings, 0, []) =
      (Stride.walk (visit platform mSimId props lacStr lacValid) (groupsOf strings) (0, [])).map
        fun p => (p.1.flatMap Group.flat, p.2) := by
  obtain ⟨hflat, hlength⟩ := flat_groupsOf h
  have hwidth : ∀ g : Group, g.flat.length = 5 := fun _ => rfl
  have hloop : (List.range' ([] : List (Option JString)).length (groupsOf strings).length 5).foldlM
      (operatorInfosStep platform mSimId props lacStr lacValid)
        ([] ++ (groupsOf strings).flatMap Group.flat, 0, []) =
      (Stride.walk (visit platform mSimId props lacStr lacValid) (groupsOf strings) (0, [])).map
        fun p => ([] ++ p.1.flatMap Group.flat, p.2) :=
    foldlM_strides hwidth fun _ _ _ _ => operatorInfosStep_eq
  simpa only [List.length_nil, List.nil_append, hflat, hlength] using hloop

variable {strings : List (Option JString)} {infos : List (OperatorInfo State)}

/-- On whole groups the LAC property is cleared, and the entries are those of the loop. -/
theorem exec_operatorInfosOf (h : strings.length % 5 = 0) :
    exec (operatorInfosOf platform mSimId (some strings)) props =
      ((Stride.walk (visit platform mSimId (props.set lacProperty []) (props lacProperty)
        (decide (LacValid (props lacProperty) strings.length))) (groupsOf strings) (0, [])).map
          fun p => p.2.2, props.set lacProperty []) := by
  simp only [operatorInfosOf, h, ne_eq, not_true_eq_false, if_false, exec_bind, exec_get,
    exec_modify, exec_liftExcept, loop_eq_walk h]
  cases Stride.walk (visit platform mSimId (props.set lacProperty []) (props lacProperty)
    (decide (LacValid (props lacProperty) strings.length))) (groupsOf strings) (0, []) <;> rfl

theorem operatorInfosOf_eq_ok :
    (exec (operatorInfosOf platform mSimId (some strings)) props).1 = .ok infos ↔
      Delivers platform mSimId props strings infos := by
  by_cases hwhole : strings.length % 5 = 0
  · rw [exec_operatorInfosOf hwhole, map_eq_ok]
    have hwalk := @walk_visit_eq_ok _ platform mSimId (props.set lacProperty []) (props lacProperty)
      (decide (LacValid (props lacProperty) strings.length)) (groupsOf strings) 0 [] infos
    simp only [infoOf_set, List.nil_append, decide_eq_true_eq, Nat.zero_add] at hwalk
    constructor
    · rintro ⟨⟨groups', next, ret⟩, h, rfl⟩
      obtain ⟨infos, hentries, rfl, hlacs⟩ := hwalk.mp ⟨groups', next, h⟩
      exact ⟨hwhole, hentries, hlacs⟩
    · intro h
      obtain ⟨groups', next, h⟩ := hwalk.mpr ⟨infos, h.entries, rfl, h.lacs⟩
      exact ⟨_, h, rfl⟩
  · constructor
    · intro h
      simp only [operatorInfosOf, ne_eq, hwhole, not_false_eq_true, if_true] at h
      cases h
    · intro h
      exact absurd h.whole hwhole

theorem responseOperatorInfos_eq_ok {env : Env} {p : Parcel} :
    (exec (responseOperatorInfos env platform mSimId p) props).1 = .ok infos ↔
      ∃ strings cursor, env.decoders .responseStrings p = .ok (.strings strings, cursor) ∧
        Delivers platform mSimId props strings infos := by
  simp only [← operatorInfosOf_eq_ok]
  cases hstrings : env.decoders .responseStrings p with
  | error e => simp [responseOperatorInfos, hstrings]
  | ok decoded =>
    obtain ⟨ret, cursor⟩ := decoded
    cases ret with
    | strings values => simp [responseOperatorInfos, hstrings, Obj.toStringArray]
    | null =>
      simp only [responseOperatorInfos, hstrings, Obj.toStringArray, exec_bind, exec_liftExcept]
      exact ⟨nofun, nofun⟩
    | int value | ints values | other kind =>
      simp [responseOperatorInfos, hstrings, Obj.toStringArray]

end List

end Ril
