-- SUMMARY: The list of operators: that it agrees with the registered operator, what the LAC property does to it, and which lists are delivered.
import GioneeP4.Ril.HexStrings
import GioneeP4.Ril.OperatorScan

/-!
# The list of operators

Without LACs the list holds, operator by operator, the names `responseOperator` makes
of the same strings. A LAC string of matching length is still read, and stops the
list where it is not hexadecimal. A baseband of a capability above 3 stops it where
a name is missing.
-/

namespace Ril

open Prog Outcome

variable {State : Type}

/-! ## Which operators can be read -/

section Readable

variable (platform : Platform State) (mSimId : JInt) (props : Properties)

/-- Neither name is null once a missing long name is looked up. -/
def NamesPresent (g : Group) : Prop :=
  ∀ long, longName platform g.long = .ok long →
    long.isSome ∧
      if LooksUp long g.numeric then (platform.unOptimizedOperatorReplace g.numeric).isSome
      else g.short.isSome

/-- The names of an operator decode, its state is valid, and no name that is missing is needed. -/
structure Readable (g : Group) : Prop where
  decodes : ∃ long, longName platform g.long = .ok long
  state : ∃ state, platform.rilStateToState g.state = .ok state
  names : 3 < (basebandCapability platform mSimId props).toInt → NamesPresent platform g

/-- A name as it is shown for the capability of the baseband. -/
def shown (technology name : Option JString) : Option JString :=
  if 3 < (basebandCapability platform mSimId props).toInt then
    name.map (· ++ (literal " " ++ stringOf technology))
  else name

/-- The entry holds the names `responseOperator` makes, as they are shown. -/
def Shows (g : Group) (info : OperatorInfo State) : Prop :=
  ∃ long short state, norm platform g.long g.short g.numeric = .ok (long, short) ∧
    platform.rilStateToState g.state = .ok state ∧
      info = ⟨shown platform mSimId props g.technology long,
        shown platform mSimId props g.technology short, g.numeric, state⟩

variable {platform mSimId props} {g : Group} {info : OperatorInfo State}

theorem withTechnology_eq_ok {technology name name' : Option JString} :
    withTechnology platform mSimId props technology name = .ok name' ↔
      (3 < (basebandCapability platform mSimId props).toInt → name.isSome) ∧
        name' = shown platform mSimId props technology name := by
  rw [withTechnology, shown]
  split
  · rename_i hcapability
    cases name with
    | none =>
      constructor
      · intro h
        cases h
      · intro h
        exact absurd (h.1 hcapability) Bool.false_ne_true
    | some text =>
      constructor
      · intro h
        cases h
        exact ⟨fun _ => rfl, rfl⟩
      · rintro ⟨-, rfl⟩
        rfl
  · rename_i hcapability
    constructor
    · intro h
      cases h
      exact ⟨fun h => absurd h hcapability, rfl⟩
    · rintro ⟨-, rfl⟩
      rfl

/-- What `responseOperator` makes of the names is null exactly where a name is missing. -/
theorem namesPresent_iff {names : Option JString × Option JString}
    (h : norm platform g.long g.short g.numeric = .ok names) :
    NamesPresent platform g ↔ names.1.isSome ∧ names.2.isSome := by
  rw [norm_eq] at h
  obtain ⟨long, hlong, rfl⟩ := map_eq_ok.mp h
  have hnames : NamesPresent platform g ↔ long.isSome ∧
      if LooksUp long g.numeric then (platform.unOptimizedOperatorReplace g.numeric).isSome
      else g.short.isSome := by
    constructor
    · exact fun hnames => hnames long hlong
    · intro hnames long' hlong'
      obtain rfl := Except.ok.inj (hlong.symm.trans hlong')
      exact hnames
  rw [hnames, replaced]
  split
  · rename_i hlooksUp
    obtain ⟨name, rfl, -⟩ := hlooksUp
    simp
  · rfl

/-- An operator has an entry if its names and state are read and the names it needs are there. -/
theorem infoOf_eq_ok : infoOf platform mSimId props g = .ok info ↔
    Shows platform mSimId props g info ∧
      (3 < (basebandCapability platform mSimId props).toInt → NamesPresent platform g) := by
  rw [infoOf]
  constructor
  · intro h
    obtain ⟨names, hnames, h⟩ := bind_eq_ok.mp h
    obtain ⟨long, hlong, h⟩ := bind_eq_ok.mp h
    obtain ⟨short, hshort, h⟩ := bind_eq_ok.mp h
    obtain ⟨state, hstate, h⟩ := bind_eq_ok.mp h
    cases h
    obtain ⟨hlongPresent, rfl⟩ := withTechnology_eq_ok.mp hlong
    obtain ⟨hshortPresent, rfl⟩ := withTechnology_eq_ok.mp hshort
    refine ⟨⟨names.1, names.2, state, hnames, hstate, rfl⟩, fun hcapability => ?_⟩
    exact (namesPresent_iff hnames).mpr ⟨hlongPresent hcapability, hshortPresent hcapability⟩
  · rintro ⟨⟨long, short, state, hnames, hstate, rfl⟩, hpresent⟩
    have hboth : 3 < (basebandCapability platform mSimId props).toInt →
        long.isSome ∧ short.isSome := fun hcapability =>
      (namesPresent_iff hnames).mp (hpresent hcapability)
    have hlong : withTechnology platform mSimId props g.technology long =
        .ok (shown platform mSimId props g.technology long) :=
      withTechnology_eq_ok.mpr ⟨fun hcapability => (hboth hcapability).1, rfl⟩
    have hshort : withTechnology platform mSimId props g.technology short =
        .ok (shown platform mSimId props g.technology short) :=
      withTechnology_eq_ok.mpr ⟨fun hcapability => (hboth hcapability).2, rfl⟩
    simp only [hnames, ok_bind, hlong, hshort, hstate]
    rfl

theorem readable_iff :
    Readable platform mSimId props g ↔ ∃ info, infoOf platform mSimId props g = .ok info := by
  simp only [infoOf_eq_ok]
  constructor
  · rintro ⟨⟨long, hlong⟩, ⟨state, hstate⟩, hnames⟩
    exact ⟨_, ⟨_, _, state, by rw [norm_eq, hlong]; rfl, hstate, rfl⟩, hnames⟩
  · rintro ⟨info, ⟨long, short, state, hnames, hstate, -⟩, hpresent⟩
    rw [norm_eq] at hnames
    obtain ⟨decoded, hdecoded, -⟩ := map_eq_ok.mp hnames
    exact ⟨⟨decoded, hdecoded⟩, ⟨state, hstate⟩, hpresent⟩

end Readable

/-! ## Outcomes -/

section Outcome

variable (env : Env) (platform : Platform State) (mSimId : JInt) (props : Properties) (p : Parcel)

/-- What `responseOperatorInfos` returns or throws. -/
abbrev infosOutcome : Except Throwable (List (OperatorInfo State)) :=
  (exec (responseOperatorInfos env platform mSimId p) props).1

/-- The parcel holds whole groups of strings, each of which can be read. -/
def ListReadable : Prop :=
  ∃ strings cursor, env.decoders .responseStrings p = .ok (.strings strings, cursor) ∧
    strings.length % 5 = 0 ∧ ∀ g ∈ groupsOf strings, Readable platform mSimId props g

/-- The LAC string has the length that makes it valid, and a part of it that belongs to a long name
    is not read. -/
def LacRejected (lac : JString) : Prop :=
  ∃ strings cursor, env.decoders .responseStrings p = .ok (.strings strings, cursor) ∧
    LacValid lac strings.length ∧
      ∃ j < named (groupsOf strings), ¬LacReadable platform lac (4 * j)

variable {env platform mSimId props p} {strings : List (Option JString)} {cursor : Nat}
variable {infos : List (OperatorInfo State)}

theorem infosOutcome_eq_ok
    (hstrings : env.decoders .responseStrings p = .ok (.strings strings, cursor)) :
    infosOutcome env platform mSimId props p = .ok infos ↔
      Delivers platform mSimId props strings infos := by
  rw [responseOperatorInfos_eq_ok]
  constructor
  · rintro ⟨strings', cursor', hstrings', h⟩
    cases hstrings.symm.trans hstrings'
    exact h
  · exact fun h => ⟨strings, cursor, hstrings, h⟩

theorem exists_infos_iff : (∃ infos, infosOutcome env platform mSimId props p = .ok infos) ↔
    ListReadable env platform mSimId props p ∧
      ¬LacRejected env platform p (props lacProperty) := by
  constructor
  · rintro ⟨infos, h⟩
    obtain ⟨strings, cursor, hstrings, h⟩ := responseOperatorInfos_eq_ok.mp h
    refine ⟨⟨strings, cursor, hstrings, h.whole, fun g hg => ?_⟩, ?_⟩
    · exact readable_iff.mpr (exists_results_iff.mp ⟨infos, h.entries⟩ g hg)
    · rintro ⟨strings', cursor', hstrings', hvalid, j, hj, hunread⟩
      cases hstrings.symm.trans hstrings'
      exact hunread (h.lacs hvalid j hj)
  · rintro ⟨⟨strings, cursor, hstrings, hwhole, hreadable⟩, hlac⟩
    obtain ⟨infos, hentries⟩ := exists_results_iff.mpr fun g hg => readable_iff.mp (hreadable g hg)
    refine ⟨infos, (infosOutcome_eq_ok hstrings).mpr ⟨hwhole, hentries, fun hvalid j hj => ?_⟩⟩
    by_contra hunread
    exact hlac ⟨strings, cursor, hstrings, hvalid, j, hj, hunread⟩

end Outcome

/-! ## A platform -/

/-- A string in a parcel: its length, its code units and a terminator, to a multiple of four. -/
def stringBytes : Option JString → List (BitVec 8)
  | none => Words.leBytes (-1)
  | some s =>
      Words.leBytes (BitVec.ofNat 32 s.length) ++
        (s ++ (if s.length % 2 = 0 then [0, 0] else [0])).flatMap fun c : UInt16 =>
          [c.toBitVec.setWidth 8, (c.toBitVec >>> 8).setWidth 8]

/-- The parcel that holds an array of strings. -/
def parcelOf (strings : List (Option JString)) : Parcel :=
  ⟨Words.leBytes (BitVec.ofNat 32 strings.length) ++ strings.flatMap stringBytes, 0⟩

/-- The decoders on the parcel of an array. -/
def Env.reading (strings : List (Option JString)) : Env :=
  { Env.sample none with
    decoders := fun _ p => .ok (.strings strings, p.data.length) }

/-- Code units, high byte first. -/
def bigEndian : List (BitVec 8) → JString
  | high :: low :: rest => (high.toNat * 256 + low.toNat).toUInt16 :: bigEndian rest
  | _ => []

/-- A platform without names to look up, on the parcel of an array. -/
def Platform.reading (strings : List (Option JString)) : Platform JString where
  readStringArray _ := .ok (some strings)
  utf16 bytes := some (bigEndian bytes)
  unOptimizedOperatorReplace numeric := numeric
  iccRecords := .ok ()
  rilStateToState
    | none => .error .nullPointerException
    | some state =>
        if (["unknown", "available", "current", "forbidden"].map literal).contains state then
          .ok state
        else .error (.other 0)
  intOf value := (parseInt (some value)).toOption

/-- An operator with an encoded long name. -/
def encodedOperator (short : Option JString) : List (Option JString) :=
  [some (literal "uCs20041"), short, some (literal "00101"), some (literal "available"),
    some (literal "3")]

/-- An operator whose names are looked up, by an empty long name. -/
def unnamedOperator : List (Option JString) :=
  [some [], none, some (literal "00102"), some (literal "current"), some (literal "2")]

/-- An encoded operator before one without names. -/
def twoOperators : List (Option JString) := encodedOperator (some (literal "B")) ++ unnamedOperator

/-- The group of the first. -/
def encodedGroup : Group :=
  ⟨some (literal "uCs20041"), some (literal "B"), some (literal "00101"),
    some (literal "available"), some (literal "3")⟩

/-- The group of the second. -/
def unnamedGroup : Group :=
  ⟨some [], none, some (literal "00102"), some (literal "current"), some (literal "2")⟩

theorem groupsOf_twoOperators : groupsOf twoOperators = [encodedGroup, unnamedGroup] := rfl

theorem norm_encodedGroup {strings : List (Option JString)} :
    norm (.reading strings) encodedGroup.long encodedGroup.short encodedGroup.numeric =
      .ok (some (literal "A"), some (literal "B")) := rfl

theorem norm_unnamedGroup {strings : List (Option JString)} :
    norm (.reading strings) unnamedGroup.long unnamedGroup.short unnamedGroup.numeric =
      .ok (some (literal "00102"), some (literal "00102")) := rfl

/-- The outcome for one such operator. -/
abbrev encodedOutcome (short : Option JString) (props : Properties) :
    Except Throwable (List (OperatorInfo JString)) :=
  infosOutcome (.reading (encodedOperator short)) (.reading (encodedOperator short)) 0 props
    (parcelOf (encodedOperator short))

/-! ## Agreement with the registered operator -/

section Agreement

variable {env : Env} {platform : Platform State} {mSimId : JInt} {props : Properties} {p : Parcel}
variable {strings : List (Option JString)} {cursor k : Nat} {g : Group} {info : OperatorInfo State}

/-- The entry holds the names `responseOperator` makes, the number and the state. -/
def Agrees (platform : Platform State) (g : Group) (info : OperatorInfo State) : Prop :=
  ∃ long short state, norm platform g.long g.short g.numeric = .ok (long, short) ∧
    platform.rilStateToState g.state = .ok state ∧ info = ⟨long, short, g.numeric, state⟩

theorem infoOf_eq_ok_of_le (h : (basebandCapability platform mSimId props).toInt ≤ 3) :
    infoOf platform mSimId props g = .ok info ↔ Agrees platform g info := by
  have hcapability : ¬3 < (basebandCapability platform mSimId props).toInt := by omega
  simp only [infoOf_eq_ok, Shows, shown, hcapability, if_false, false_implies, and_true, Agrees]

theorem lacValid_nil {n : Nat} : ¬LacValid [] n := fun h => Nat.lt_irrefl 0 h.1

theorem length_groupsOf (h : strings.length = 5 * k) : (groupsOf strings).length = k := by
  rw [(flat_groupsOf (by omega)).2]
  omega

theorem responseOperator_frame {response : List (Option JString)}
    {r : Option (List (Option JString))}
    (hread : platform.readStringArray p = .ok (some response))
    (h : responseOperator platform p = .ok r) :
    ∃ response', r = some response' ∧ response'.length = response.length ∧
      ∀ j, 2 ≤ j → response'[j]? = response[j]? := by
  rw [responseOperator, hread, ok_bind] at h
  exact operatorOf_frame h

/-- With no LACs, the entries of the groups are all the decoder needs. -/
theorem infosOutcome_eq_results
    (hstrings : env.decoders .responseStrings p = .ok (.strings strings, cursor))
    (hlength : strings.length = 5 * k) (hlac : props lacProperty = [])
    {infos : List (OperatorInfo State)} :
    infosOutcome env platform mSimId props p = .ok infos ↔
      Results (infoOf platform mSimId props) (groupsOf strings) infos := by
  rw [infosOutcome_eq_ok hstrings]
  constructor
  · exact Delivers.entries
  · intro hentries
    refine ⟨by omega, hentries, fun hvalid => ?_⟩
    rw [hlac] at hvalid
    exact absurd hvalid lacValid_nil

/-- The list throws if the names of one of its operators do, and otherwise agrees with them. -/
theorem operator_paths_agree
    (hstrings : env.decoders .responseStrings p = .ok (.strings strings, cursor))
    (hlength : strings.length = 5 * k)
    (hstates : ∀ g ∈ groupsOf strings, ∃ state, platform.rilStateToState g.state = .ok state)
    (hlac : props lacProperty = [])
    (hcapability : (basebandCapability platform mSimId props).toInt ≤ 3) :
    (∀ q response r, platform.readStringArray q = .ok (some response) →
      responseOperator platform q = .ok r → ∃ response', r = some response' ∧
        response'.length = response.length ∧ ∀ j, 2 ≤ j → response'[j]? = response[j]?) ∧
    (Throws (infosOutcome env platform mSimId props p) ↔
      ∃ g ∈ groupsOf strings, Throws (norm platform g.long g.short g.numeric)) ∧
    ∀ infos, infosOutcome env platform mSimId props p = .ok infos →
      infos.length = k ∧ List.Forall₂ (Agrees platform) (groupsOf strings) infos := by
  have houtcome : ∀ infos, infosOutcome env platform mSimId props p = .ok infos ↔
      Results (infoOf platform mSimId props) (groupsOf strings) infos := fun _ =>
    infosOutcome_eq_results hstrings hlength hlac
  refine ⟨fun q response r => responseOperator_frame, ?_, ?_⟩
  · have hnames : ∀ g ∈ groupsOf strings, (∃ info, infoOf platform mSimId props g = .ok info) ↔
        ¬Throws (norm platform g.long g.short g.numeric) := by
      intro g hg
      rw [throws_iff, Classical.not_not]
      simp only [infoOf_eq_ok_of_le hcapability]
      constructor
      · rintro ⟨info, long, short, state, hnorm, -⟩
        exact ⟨(long, short), hnorm⟩
      · rintro ⟨⟨long, short⟩, hnorm⟩
        obtain ⟨state, hstate⟩ := hstates g hg
        exact ⟨_, long, short, state, hnorm, hstate, rfl⟩
    rw [throws_iff]
    simp only [houtcome]
    rw [exists_results_iff]
    constructor
    · intro h
      by_contra hnone
      exact h fun g hg => (hnames g hg).mpr fun hthrows => hnone ⟨g, hg, hthrows⟩
    · rintro ⟨g, hg, hthrows⟩ h
      exact (hnames g hg).mp (h g hg) hthrows
  · intro infos h
    have hentries := (houtcome infos).mp h
    exact ⟨hentries.length_eq.symm.trans (length_groupsOf hlength),
      hentries.imp fun g info => (infoOf_eq_ok_of_le hcapability).mp⟩

/-- The entry of a group that is normalised. -/
theorem Agrees.eq {long short : Option JString} {state : State} (h : Agrees platform g info)
    (hnorm : norm platform g.long g.short g.numeric = .ok (long, short))
    (hstate : platform.rilStateToState g.state = .ok state) :
    info = ⟨long, short, g.numeric, state⟩ := by
  obtain ⟨long', short', state', hnorm', hstate', rfl⟩ := h
  cases hnorm.symm.trans hnorm'
  cases hstate.symm.trans hstate'
  rfl

/-- The entries of two operators, in their order, are made of the names `responseOperator` makes. -/
theorem twoOperators_delivered :
    infosOutcome (.reading twoOperators) (.reading twoOperators) 0 (fun _ => [])
        (parcelOf twoOperators) =
      .ok [⟨some (literal "A"), some (literal "B"), some (literal "00101"), literal "available"⟩,
        ⟨some (literal "00102"), some (literal "00102"), some (literal "00102"),
          literal "current"⟩] := by
  have hstates : ∀ g ∈ groupsOf twoOperators, ∃ state,
      (Platform.reading twoOperators).rilStateToState g.state = .ok state := by
    rw [groupsOf_twoOperators]
    simp only [List.forall_mem_cons, List.not_mem_nil, false_implies, implies_true, and_true]
    exact ⟨⟨_, rfl⟩, ⟨_, rfl⟩⟩
  obtain ⟨-, hthrows, hinfos⟩ := @operator_paths_agree _ (.reading twoOperators)
    (.reading twoOperators) 0 (fun _ => []) (parcelOf twoOperators) twoOperators _ 2 rfl rfl hstates
    rfl (by decide)
  have hreturns : ¬Throws (infosOutcome (.reading twoOperators) (.reading twoOperators) 0
      (fun _ => []) (parcelOf twoOperators)) := by
    rw [hthrows, groupsOf_twoOperators]
    rintro ⟨g, hg, e, he⟩
    rcases List.mem_pair.mp hg with rfl | rfl
    · cases norm_encodedGroup.symm.trans he
    · cases norm_unnamedGroup.symm.trans he
  rw [throws_iff, Classical.not_not] at hreturns
  obtain ⟨infos, h⟩ := hreturns
  have hall := (hinfos infos h).2
  rw [groupsOf_twoOperators] at hall
  obtain _ | ⟨hencoded, _ | ⟨hunnamed, _ | _⟩⟩ := hall
  rw [h, hencoded.eq norm_encodedGroup rfl, hunnamed.eq norm_unnamedGroup rfl]
  rfl

end Agreement

/-! ## The LAC property -/

section Lac

variable {env : Env} {platform : Platform State} {mSimId : JInt} {props : Properties} {p : Parcel}
variable {lac lac' : JString}

theorem set_lacProperty : (props.set lacProperty lac) lacProperty = lac :=
  Function.update_self ..

theorem readable_set {g : Group} : Readable platform mSimId (props.set lacProperty lac) g ↔
    Readable platform mSimId props g := by
  rw [readable_iff, readable_iff, infoOf_set]

theorem listReadable_set : ListReadable env platform mSimId (props.set lacProperty lac) p ↔
    ListReadable env platform mSimId props p := by
  simp only [ListReadable, readable_set]

/-- Two LAC strings make no difference unless one of them alone is rejected. -/
theorem lac_irrelevant_iff :
    Same (infosOutcome env platform mSimId (props.set lacProperty lac) p)
        (infosOutcome env platform mSimId (props.set lacProperty lac') p) ↔
      ¬ListReadable env platform mSimId props p ∨
        (LacRejected env platform p lac ↔ LacRejected env platform p lac') := by
  have hreturns : ∀ lac, (∃ infos,
      infosOutcome env platform mSimId (props.set lacProperty lac) p = .ok infos) ↔
        ListReadable env platform mSimId props p ∧ ¬LacRejected env platform p lac := by
    intro lac
    rw [exists_infos_iff, listReadable_set, set_lacProperty]
  have hsame : ∀ infos infos',
      infosOutcome env platform mSimId (props.set lacProperty lac) p = .ok infos →
        infosOutcome env platform mSimId (props.set lacProperty lac') p = .ok infos' →
          infos = infos' := by
    intro infos infos' h h'
    obtain ⟨strings, cursor, hstrings, hdelivers⟩ := responseOperatorInfos_eq_ok.mp h
    have hdelivers' := (infosOutcome_eq_ok hstrings).mp h'
    have hentries := hdelivers.entries
    have hentries' := hdelivers'.entries
    rw [infoOf_set] at hentries hentries'
    exact hentries.unique hentries'
  rw [same_iff hsame, hreturns, hreturns]
  tauto

/-- Two LAC strings of the right length, one of them not hexadecimal, make a difference. -/
theorem lac_stops_list :
    ¬∀ lac lac', Same
      (encodedOutcome (some (literal "B")) (Properties.set (fun _ => []) lacProperty lac))
      (encodedOutcome (some (literal "B")) (Properties.set (fun _ => []) lacProperty lac')) := by
  intro hsame
  rcases hsame (literal "0001") (literal "zzzz") with ⟨infos, -, h⟩ | ⟨⟨e, h⟩, -⟩
  · have hstopped : encodedOutcome (some (literal "B"))
        (Properties.set (fun _ => []) lacProperty (literal "zzzz")) =
          .error (.numberFormatException (some (literal "zzzz"))) := rfl
    cases hstopped.symm.trans h
  · obtain ⟨infos, hread⟩ : ∃ infos, encodedOutcome (some (literal "B"))
        (Properties.set (fun _ => []) lacProperty (literal "0001")) = .ok infos := ⟨_, rfl⟩
    cases hread.symm.trans h

end Lac

/-! ## Missing names -/

section Missing

variable {env : Env} {platform : Platform State} {mSimId : JInt} {props : Properties} {p : Parcel}
variable {strings : List (Option JString)} {cursor k : Nat} {g : Group}

/-- An even number of hexadecimal digits. -/
structure HexEncoded (s : JString) : Prop where
  even : s.length % 2 = 0
  digits : ∀ c ∈ s, ∃ digit, hexCharToInt c = .ok digit

/-- The number and the access technology are there, the state is valid, and an encoded name is
    hexadecimal. -/
structure Group.WellFormed (platform : Platform State) (g : Group) : Prop where
  numeric : g.numeric.isSome
  technology : g.technology.isSome
  state : ∃ state, platform.rilStateToState g.state = .ok state
  encoded : ∀ name, g.long = some name → (literal "uCs2").isPrefixOf name →
    HexEncoded (name.drop 4)

theorem hexBytes_ok {s : JString} (h : HexEncoded s) : ∃ bytes, hexBytes s = .ok bytes := by
  have hvalues : ∀ c ∈ s, ∃ n, hexValue c = some n := by
    intro c hc
    obtain ⟨digit, hdigit⟩ := h.digits c hc
    obtain ⟨n, hn, -⟩ := hexCharToInt_eq_ok.mp hdigit
    exact ⟨n, hn⟩
  obtain ⟨bytes, hbytes⟩ := DigitPairs.exists_decode_iff.mpr ⟨h.even, hvalues⟩
  exact ⟨bytes, hexBytes_eq_ok_iff.mpr hbytes⟩

theorem longName_ok (h : g.WellFormed platform) : ∃ long, longName platform g.long = .ok long := by
  cases hlong : g.long with
  | none => exact ⟨none, rfl⟩
  | some name =>
    rw [longName]
    split
    · rename_i hencoded
      obtain ⟨bytes, hbytes⟩ := hexBytes_ok (h.encoded name hlong hencoded)
      simp only [decodeUcs2, hexStringToBytes, hbytes, Except.map, ok_bind]
      exact ⟨_, rfl⟩
    · exact ⟨_, rfl⟩

/-- All operators are returned in order, with their names as the baseband wants them shown. -/
def ListDelivered (env : Env) (platform : Platform State) (mSimId : JInt) (props : Properties)
    (p : Parcel) (strings : List (Option JString)) (k : Nat) : Prop :=
  ∃ infos, infosOutcome env platform mSimId props p = .ok infos ∧ infos.length = k ∧
    List.Forall₂ (Shows platform mSimId props) (groupsOf strings) infos

/-- A list of well-formed groups is delivered unless the baseband wants a name that is missing. -/
theorem list_delivered_iff
    (hstrings : env.decoders .responseStrings p = .ok (.strings strings, cursor))
    (hlength : strings.length = 5 * k)
    (hwellFormed : ∀ g ∈ groupsOf strings, g.WellFormed platform)
    (hlac : props lacProperty = []) :
    ListDelivered env platform mSimId props p strings k ↔
      (basebandCapability platform mSimId props).toInt ≤ 3 ∨
        ∀ g ∈ groupsOf strings, NamesPresent platform g := by
  have houtcome : ∀ infos, infosOutcome env platform mSimId props p = .ok infos ↔
      Results (infoOf platform mSimId props) (groupsOf strings) infos := fun _ =>
    infosOutcome_eq_results hstrings hlength hlac
  have hreadable : (∃ infos, infosOutcome env platform mSimId props p = .ok infos) ↔
      ∀ g ∈ groupsOf strings, Readable platform mSimId props g := by
    simp only [houtcome, exists_results_iff, readable_iff]
  constructor
  · rintro ⟨infos, hinfos, -⟩
    have hall := hreadable.mp ⟨infos, hinfos⟩
    by_cases hcapability : 3 < (basebandCapability platform mSimId props).toInt
    · exact .inr fun g hg => (hall g hg).names hcapability
    · exact .inl (by omega)
  · intro h
    obtain ⟨infos, hinfos⟩ := hreadable.mpr fun g hg =>
      ⟨longName_ok (hwellFormed g hg), (hwellFormed g hg).state, fun hcapability =>
        h.elim (fun hle => absurd hcapability (by omega)) fun hnames => hnames g hg⟩
    have hentries := (houtcome infos).mp hinfos
    exact ⟨infos, hinfos, hentries.length_eq.symm.trans (length_groupsOf hlength),
      hentries.imp fun g info hinfo => (infoOf_eq_ok.mp hinfo).1⟩

/-- A baseband of capability 7. -/
def capability7 : Properties :=
  Properties.set (fun _ => []) (literal "gsm.baseband.capability") (literal "7")

theorem wellFormed_encodedOperator {short : Option JString} {strings : List (Option JString)} :
    ∀ g ∈ groupsOf (encodedOperator short), g.WellFormed (Platform.reading strings) := by
  intro g hg
  obtain rfl := List.mem_singleton.mp hg
  refine ⟨rfl, rfl, ⟨_, rfl⟩, fun name hname _ => ?_⟩
  cases hname
  have hdigits : (literal "uCs20041").drop 4 = [48, 48, 52, 49] := rfl
  refine ⟨rfl, fun c hc => ?_⟩
  rw [hdigits] at hc
  simp only [List.mem_cons, List.not_mem_nil, or_false] at hc
  rcases hc with rfl | rfl | rfl | rfl <;> exact ⟨_, rfl⟩

theorem wellFormed_unnamedGroup {strings : List (Option JString)} :
    unnamedGroup.WellFormed (Platform.reading strings) := by
  refine ⟨rfl, rfl, ⟨_, rfl⟩, fun name hname hencoded => ?_⟩
  cases hname
  cases hencoded

/-- With all names two operators are delivered, in their order, to a baseband of capability 7. -/
theorem twoOperators_shown :
    ListDelivered (.reading twoOperators) (.reading twoOperators) 0 capability7
      (parcelOf twoOperators) twoOperators 2 := by
  have hwellFormed : ∀ g ∈ groupsOf twoOperators,
      g.WellFormed (Platform.reading twoOperators) := by
    rw [groupsOf_twoOperators]
    intro g hg
    rcases List.mem_pair.mp hg with rfl | rfl
    · exact wellFormed_encodedOperator _ (List.mem_singleton_self _)
    · exact wellFormed_unnamedGroup
  refine (list_delivered_iff rfl rfl hwellFormed rfl).mpr (.inr ?_)
  rw [groupsOf_twoOperators]
  intro g hg
  rcases List.mem_pair.mp hg with rfl | rfl
  · exact (namesPresent_iff norm_encodedGroup).mpr ⟨rfl, rfl⟩
  · exact (namesPresent_iff norm_unnamedGroup).mpr ⟨rfl, rfl⟩

/-- Without a short name a baseband of capability 7 gets no list. -/
theorem missing_short_name : ¬∀ (env : Env) (platform : Platform JString) mSimId props p strings
    cursor k, env.decoders .responseStrings p = .ok (.strings strings, cursor) →
      strings.length = 5 * k → (∀ g ∈ groupsOf strings, g.WellFormed platform) →
        props lacProperty = [] → ListDelivered env platform mSimId props p strings k := by
  intro hdelivered
  obtain ⟨infos, h, -⟩ := hdelivered (.reading (encodedOperator none))
    (.reading (encodedOperator none)) 0 capability7 (parcelOf (encodedOperator none))
    (encodedOperator none) _ 1 rfl rfl wellFormed_encodedOperator rfl
  have hstopped : encodedOutcome none capability7 = .error .nullPointerException := rfl
  cases hstopped.symm.trans h

end Missing

end Ril
