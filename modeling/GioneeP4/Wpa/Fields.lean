-- SUMMARY: The fields of the statistics structs: what the replies of the kernel leave in each, and which cells of the output they cover.
import GioneeP4.Lib.Fill
import GioneeP4.Lib.Template
import GioneeP4.Wpa.Statistics

/-!
# Fields of the statistics

A handler stores the attributes of a reply field by field, so a field holds what
its own payloads made of it. The output is a template over cells: a number, a byte
of an array, or a word of one. A cell is covered when some payload of its field is
long enough for it.
-/

namespace Wpa

open CText Printing Fill

variable {env : Env} {replies : List Reply}

/-! ## Fields -/

/-- What a field of the statistics holds, as it is printed. -/
inductive FieldValue
  | unsigned (n : Nat)
  | signed (z : Int)
  | rate (d : Double)
  | bytes (l : List Byte)

namespace StaStatisticsAttr

/-- The field an attribute is stored in. -/
def field (s : StaStatistics) : StaStatisticsAttr → FieldValue
  | .version => .unsigned s.version.toNat
  | .mac => .bytes s.addr.toList
  | .linkScore => .unsigned s.linkScore.toNat
  | .flag => .unsigned s.flag.toNat
  | .per => .unsigned s.per.toNat
  | .rssi => .signed s.rssi
  | .phyMode => .unsigned s.phyMode.toNat
  | .txRate => .rate s.txRate
  | .totalCnt => .signed s.txTotalCnt.toInt
  | .thresholdCnt => .signed s.txExcThresholdCnt.toInt
  | .avgProcessTime => .signed s.txAvgProcessTime.toInt
  | .failCnt => .signed s.txFailCnt.toInt
  | .timeoutCnt => .signed s.txTimeoutCnt.toInt
  | .avgAirTime => .signed s.txAvgAirTime.toInt
  | .tcEmptyCntArray => .bytes s.tcBufFullCnt.toList
  | .tcQueLenArray => .bytes s.tcQueLen.toList
  | .tcAvgQueLenArray => .bytes s.tcAvgQueLen.toList
  | .tcCurQueLenArray => .bytes s.tcCurQueLen.toList
  | .reservedArray => .bytes s.reserved.toList

/-- What a payload makes of a field. -/
def put (a : StaStatisticsAttr) (payload : List Byte) (v : FieldValue) : FieldValue :=
  match a, v with
  | .version, _ | .linkScore, _ | .per, _ => .unsigned (nlaGet 1 payload).toNat
  | .flag, _ | .phyMode, _ => .unsigned (nlaGet 4 payload).toNat
  | .rssi, _ => .signed ((((nlaGet 1 payload).toNat : Int) - 220).tdiv 2)
  | .txRate, _ => .rate (.half (nlaGet 2 payload))
  | .totalCnt, _ | .thresholdCnt, _ | .avgProcessTime, _ | .failCnt, _ | .timeoutCnt, _
  | .avgAirTime, _ => .signed (nlaGet 4 payload).toInt
  | _, .bytes l => .bytes (overlay payload l)
  | _, v => v

theorem toList_nlaMemcpy {n : Nat} {field : Bytes n} {payload : List Byte} :
    (nlaMemcpy field payload).toList = overlay payload field.toList := by
  apply List.ext_getElem?
  intro i
  rw [getElem?_overlay, nlaMemcpy]
  by_cases hi : i < n
  · simp [hi]
  · simp [hi]

theorem field_store_self {payload : List Byte} {s : StaStatistics} {a : StaStatisticsAttr} :
    a.field (a.store payload s) = a.put payload (a.field s) := by
  cases a <;> simp only [field, store, put, toList_nlaMemcpy]

theorem field_store_other {payload : List Byte} {s : StaStatistics} {a b : StaStatisticsAttr}
    (h : b ≠ a) : a.field (b.store payload s) = a.field s := by
  cases b <;> cases a <;> first | exact absurd rfl h | simp only [field, store]

/-- The payload a reply carries for an attribute. -/
def payload (reply : Reply) (a : StaStatisticsAttr) : Option (List Byte) :=
  (reply.bind (nlaParseNested all.length statisticsPolicy)).bind fun sinfo => sinfo a.number

theorem field_handler {s : StaStatistics} {reply : Reply} {a : StaStatisticsAttr} :
    a.field (testmodeStaStatisticsHandler s reply) = update a.put (payload reply a) (a.field s) := by
  unfold testmodeStaStatisticsHandler payload
  cases reply.bind (nlaParseNested all.length statisticsPolicy) with
  | none => rfl
  | some sinfo =>
    have hfold := @field_foldl_store _ _ _ _ _ (fun s a => field s a) (fun p s a => store p s a)
      (fun a p v => put a p v) (fun a => sinfo a.number) (fun _ _ _ => field_store_self)
      (fun _ _ _ _ hb => field_store_other hb) all (by decide) s a
    rw [if_pos (by cases a <;> decide)] at hfold
    refine Eq.trans (congrArg (fun s => field s a) ?_) hfold
    apply List.foldl_ext
    intro s b _
    cases sinfo b.number <;> rfl

/-- The payloads the replies carry for an attribute, in order. -/
def payloads (replies : List Reply) (a : StaStatisticsAttr) : List (List Byte) :=
  replies.filterMap fun reply => payload reply a

/-- What the replies leave in a field. -/
theorem field_replies {s : StaStatistics} {a : StaStatisticsAttr} :
    a.field (replies.foldl testmodeStaStatisticsHandler s) =
      (payloads replies a).foldl (fun v p => a.put p v) (a.field s) :=
  @field_foldl_replies _ _ _ _ (fun s => field s a) testmodeStaStatisticsHandler a.put
    (fun reply => payload reply a) (fun _ _ => field_handler) _ _

/-- The attributes that are stored in arrays. -/
def isArray : StaStatisticsAttr → Bool
  | .mac | .tcEmptyCntArray | .tcQueLenArray | .tcAvgQueLenArray | .tcCurQueLenArray
  | .reservedArray => true
  | _ => false

/-- The bytes of an attribute's array. -/
def arraySize : StaStatisticsAttr → Nat
  | .mac => 6
  | .tcEmptyCntArray | .tcQueLenArray | .tcAvgQueLenArray | .tcCurQueLenArray => 16
  | .reservedArray => 32
  | _ => 0

theorem field_of_isArray {a : StaStatisticsAttr} (h : a.isArray = true) {s : StaStatistics} :
    ∃ l, a.field s = .bytes l ∧ l.length = a.arraySize := by
  cases a <;> first | exact ⟨_, rfl, Vector.length_toList ..⟩ | cases h

theorem put_of_not_isArray {a : StaStatisticsAttr} (h : a.isArray = false) {p : List Byte}
    {v v' : FieldValue} : a.put p v = a.put p v' := by
  cases a <;> first | rfl | cases h

theorem foldl_put_of_isArray {a : StaStatisticsAttr} (h : a.isArray = true)
    {ps : List (List Byte)} {l : List Byte} :
    ps.foldl (fun v p => a.put p v) (.bytes l) = .bytes (overlays ps l) := by
  induction ps generalizing l with
  | nil => rfl
  | cons p ps ih =>
    have hput : a.put p (.bytes l) = .bytes (overlay p l) := by
      cases a <;> first | rfl | cases h
    rw [List.foldl_cons, hput, ih]
    rfl

end StaStatisticsAttr

/-! ## Cells -/

/-- A value of the output: a field, or an element of one. -/
structure StaCell where
  attr : StaStatisticsAttr
  index : Nat
  deriving DecidableEq

namespace StaCell

/-- The bytes of the field's payload that decide a cell. -/
def needs (k : StaCell) : Nat :=
  match k.attr with
  | .mac | .reservedArray => k.index + 1
  | .tcEmptyCntArray | .tcQueLenArray | .tcAvgQueLenArray | .tcCurQueLenArray =>
      4 * (k.index + 1)
  | _ => 0

/-- Some payload reaches the cell. -/
def covered (replies : List Reply) (k : StaCell) : Bool :=
  (k.attr.payloads replies).any fun p => k.needs ≤ p.length

/-- The text of a cell whose field holds a value. -/
def format (env : Env) (k : StaCell) : FieldValue → Text
  | .unsigned n =>
      match k.attr with
      | .phyMode | .flag => hex true 8 n
      | _ => decimal n
  | .signed z => signedDecimal z
  | .rate d => oneDecimal env d
  | .bytes l =>
      match k.attr with
      | .mac => hex false 2 (l[k.index]?.getD 0).toNat
      | .reservedArray => hex true 2 (l[k.index]?.getD 0).toNat
      | _ => signedDecimal (Words.wordAt l (4 * k.index)).toInt

/-- The text of a cell of a struct. -/
def text (env : Env) (s : StaStatistics) (k : StaCell) : Text := k.format env (k.attr.field s)

end StaCell

/-- A line with one cell. -/
def lineOf {κ : Type} (name : String) (k : κ) : Line κ :=
  [.text (ascii name), .cell k, .text (ascii "\n")]

/-- The first cells of an array with colons between them. -/
def colonCells (a : StaStatisticsAttr) (n : Nat) : Line StaCell :=
  ((List.range n).map fun i => Piece.cell (StaCell.mk a i)).intersperse (.text (ascii ":"))

/-- A line with an array. -/
def arrayLine (name : String) (a : StaStatisticsAttr) (n : Nat) : Line StaCell :=
  [.text (ascii name)] ++ colonCells a n ++ [.text (ascii "\n")]

/-- The reserved bytes from `first` to `last`, and the newline. -/
def reservedLines (first last : Nat) : List (Line StaCell) :=
  ((List.range' first (last - first)).flatMap fun i =>
    [.cell ⟨.reservedArray, i⟩] :: if (i + 1) % 4 = 0 then [[.text (ascii " ")]] else []) ++
    [[.text (ascii "\n")]]

/-- The output of the statistics. -/
def statisticsLines : List (Line StaCell) :=
  [arrayLine "sta_addr=" .mac 6,
    lineOf "link_score=" ⟨.linkScore, 0⟩,
    lineOf "per=" ⟨.per, 0⟩,
    lineOf "rssi=" ⟨.rssi, 0⟩,
    lineOf "phy=0x" ⟨.phyMode, 0⟩,
    lineOf "rate=" ⟨.txRate, 0⟩,
    lineOf "total_cnt=" ⟨.totalCnt, 0⟩,
    lineOf "threshold_cnt=" ⟨.thresholdCnt, 0⟩,
    lineOf "fail_cnt=" ⟨.failCnt, 0⟩,
    lineOf "timeout_cnt=" ⟨.timeoutCnt, 0⟩,
    lineOf "apt=" ⟨.avgProcessTime, 0⟩,
    lineOf "aat=" ⟨.avgAirTime, 0⟩,
    arrayLine "TC_buf_full_cnt=" .tcEmptyCntArray 4,
    arrayLine "TC_sta_que_len=" .tcQueLenArray 4,
    arrayLine "TC_avg_que_len=" .tcAvgQueLenArray 4,
    arrayLine "TC_cur_que_len=" .tcCurQueLenArray 4,
    lineOf "flag=0x" ⟨.flag, 0⟩,
    [.text (ascii "reserved0=")]] ++
  reservedLines 0 16 ++
  [[.text (ascii "reserved1=")]] ++
  reservedLines 16 32 ++
  [[.text (ascii "====\n")]]

section Lines

variable {s : StaStatistics} {a : StaStatisticsAttr}

theorem render_lineOf {κ : Type} {f : κ → Text} {name : String} {k : κ} :
    render f (lineOf name k) = ascii name ++ f k ++ ascii "\n" := by
  simp only [lineOf, render_cons, render_nil, Piece.render, List.append_nil, List.append_assoc]

theorem render_colonCells {n : Nat} :
    render (StaCell.text env s) (colonCells a n) =
      colons ((List.range n).map fun i => (StaCell.mk a i).text env s) := by
  have hmap : ∀ ks : List StaCell,
      render (StaCell.text env s) ((ks.map Piece.cell).intersperse (.text (ascii ":"))) =
        colons (ks.map (StaCell.text env s)) := by
    intro ks
    induction ks with
    | nil => rfl
    | cons k ks ih =>
      cases ks with
      | nil => rfl
      | cons k' ks =>
        simp only [List.map_cons, List.intersperse_cons_cons, render_cons, Piece.render, colons,
          List.flatten_cons] at ih ⊢
        rw [ih]
  have hcells := hmap ((List.range n).map fun i => StaCell.mk a i)
  rw [List.map_map, List.map_map] at hcells
  exact hcells

theorem render_arrayLine {name : String} {n : Nat} :
    render (StaCell.text env s) (arrayLine name a n) =
      ascii name ++ colons ((List.range n).map fun i => (StaCell.mk a i).text env s) ++
        ascii "\n" := by
  rw [arrayLine, render_append, render_append, render_colonCells]
  simp only [render_cons, render_nil, Piece.render, List.append_nil]

/-- The elements of a list, by index. -/
theorem eq_map_range {l : List Byte} {n : Nat} (h : l.length = n) :
    l = (List.range n).map fun i => l[i]?.getD 0 := by
  apply List.ext_getElem
  · rw [List.length_map, List.length_range, h]
  · intro i hi _
    rw [List.getElem_map, List.getElem_range, List.getElem?_eq_getElem hi]
    rfl

theorem macstr_eq : macstr s.addr = colons ((List.range 6).map fun i =>
    (StaCell.mk .mac i).text env s) := by
  have helements := eq_map_range (l := s.addr.toList) (n := 6) (Vector.length_toList ..)
  rw [macstr, helements, List.map_map]
  rfl

theorem map_text_reservedCalls {first last : Nat} :
    (reservedCalls s first last).map PrintCall.text =
      (reservedLines first last).map (render (StaCell.text env s)) := by
  have hbyte : ∀ i : Nat, s.reserved[i]?.getD 0 = s.reserved.toList[i]?.getD 0 := by
    intro i
    rw [Vector.getElem?_toList]
  simp only [reservedCalls, reservedLines, List.map_append, List.map_flatMap, List.map_cons,
    List.map_nil, hbyte]
  congr 1
  congr 1
  funext i
  split
  · simp [Printing.render, Piece.render, StaCell.text, StaCell.format, StaStatisticsAttr.field]
  · simp [Printing.render, Piece.render, StaCell.text, StaCell.format, StaStatisticsAttr.field]

/-- The calls of `print_sta_statistics` print the cells of the struct. -/
theorem map_text_statisticsCalls :
    (statisticsCalls env s).map PrintCall.text =
      statisticsLines.map (render (StaCell.text env s)) := by
  have htext : ∀ t : Text, t = render (StaCell.text env s) [.text t] := by
    intro t
    rw [render_cons, render_nil, List.append_nil]
    rfl
  simp only [statisticsCalls, statisticsLines, List.map_append, List.map_cons, List.map_nil,
    @map_text_reservedCalls env s, render_lineOf, render_arrayLine, plain,
    @macstr_eq env s, tcLine, ← htext]
  rfl

end Lines

/-! ## Covered cells -/

theorem StaCell.format_congr {k : StaCell} (harray : k.attr.isArray = true) {l l' : List Byte}
    (h : ∀ j < k.needs, l[j]? = l'[j]?) :
    k.format env (.bytes l) = k.format env (.bytes l') := by
  obtain ⟨a, i⟩ := k
  cases a with
  | mac | reservedArray =>
    have hbyte : l[i]? = l'[i]? := h i (Nat.lt_succ_self i)
    simp only [StaCell.format, hbyte]
  | tcEmptyCntArray | tcQueLenArray | tcAvgQueLenArray | tcCurQueLenArray =>
    have hword : Words.wordAt l (4 * i) = Words.wordAt l' (4 * i) := by
      apply Words.wordAt_congr
      intro j _ hj
      apply h
      simp only [StaCell.needs]
      omega
    simp only [StaCell.format, hword]
  | _ => cases harray

/-- The text of a covered cell does not depend on what the struct held before. -/
theorem text_of_covered {k : StaCell} {m m' : StaStatistics} (h : k.covered replies = true) :
    k.text env (replies.foldl testmodeStaStatisticsHandler m) =
      k.text env (replies.foldl testmodeStaStatisticsHandler m') := by
  obtain ⟨p, hp, hneeds⟩ := List.any_eq_true.mp h
  have hneeds : k.needs ≤ p.length := of_decide_eq_true hneeds
  rw [StaCell.text, StaCell.text, StaStatisticsAttr.field_replies, StaStatisticsAttr.field_replies]
  cases harray : k.attr.isArray with
  | false =>
    have hput : ∀ p v v', k.attr.put p v = k.attr.put p v' := fun _ _ _ =>
      StaStatisticsAttr.put_of_not_isArray harray
    rw [foldl_put_const hput (List.ne_nil_of_mem hp)]
  | true =>
    obtain ⟨l, hl, hlen⟩ := StaStatisticsAttr.field_of_isArray harray (s := m)
    obtain ⟨l', hl', hlen'⟩ := StaStatisticsAttr.field_of_isArray harray (s := m')
    rw [hl, hl', StaStatisticsAttr.foldl_put_of_isArray harray,
      StaStatisticsAttr.foldl_put_of_isArray harray]
    apply StaCell.format_congr harray
    intro j hj
    exact getElem?_overlays_of_covered (hlen.trans hlen'.symm) ⟨p, hp, by omega⟩

/-- A struct whose numbers are a digit and whose arrays repeat a byte. -/
def StaStatistics.filledWith (digit : Nat) (byte : Byte) : StaStatistics where
  version := BitVec.ofNat 8 digit
  addr := Vector.replicate 6 byte
  flag := BitVec.ofNat 32 digit <<< 28
  linkScore := BitVec.ofNat 8 digit
  per := BitVec.ofNat 8 digit
  rssi := digit
  phyMode := BitVec.ofNat 32 digit <<< 28
  txRate := .half (BitVec.ofNat 16 (2 * digit))
  txTotalCnt := BitVec.ofNat 32 digit
  txExcThresholdCnt := BitVec.ofNat 32 digit
  txAvgProcessTime := BitVec.ofNat 32 digit
  txFailCnt := BitVec.ofNat 32 digit
  txTimeoutCnt := BitVec.ofNat 32 digit
  txAvgAirTime := BitVec.ofNat 32 digit
  tcBufFullCnt := Vector.replicate 16 byte
  tcQueLen := Vector.replicate 16 byte
  tcAvgQueLen := Vector.replicate 16 byte
  tcCurQueLen := Vector.replicate 16 byte
  reserved := Vector.replicate 32 byte

/-- The cells of a field. -/
def StaStatisticsAttr.cells : StaStatisticsAttr → Nat
  | .mac => 6
  | .tcEmptyCntArray | .tcQueLenArray | .tcAvgQueLenArray | .tcCurQueLenArray => 4
  | .reservedArray => 32
  | _ => 1

theorem startsApart_scalar {k : StaCell} (h : k.attr.isArray = false) :
    StartsApart (k.text env (.filledWith 0 0)) (k.text env (.filledWith 1 0x80)) := by
  have hzero : decimal 0 = [48] := by decide
  have hone : decimal 1 = [49] := by simp [decimal]
  obtain ⟨a, i⟩ := k
  cases a with
  | mac | tcEmptyCntArray | tcQueLenArray | tcAvgQueLenArray | tcCurQueLenArray
  | reservedArray => cases h
  | phyMode | flag => exact ⟨48, 49, rfl, rfl, by decide⟩
  | txRate =>
    have hlow : ((decimal 0 ++ ascii "." ++ decimal 0)).head? = some 48 := by rw [hzero]; rfl
    have hhigh : ((decimal 1 ++ ascii "." ++ decimal 0)).head? = some 49 := by rw [hone]; rfl
    exact ⟨48, 49, hlow, hhigh, by decide⟩
  | _ =>
    have hlow : (decimal 0).head? = some 48 := by rw [hzero]; rfl
    have hhigh : (decimal 1).head? = some 49 := by rw [hone]; rfl
    exact ⟨48, 49, hlow, hhigh, by decide⟩

theorem startsApart_signedDecimal {y z : Int} (hy : 0 ≤ y) (hz : z < 0) :
    StartsApart (signedDecimal y) (signedDecimal z) := by
  obtain ⟨a, t, ht, ha⟩ := @signedDecimal_eq_cons y
  obtain ⟨b, u, hu, hb⟩ := @signedDecimal_eq_cons z
  refine ⟨a, b, by rw [ht]; rfl, by rw [hu]; rfl, ?_⟩
  rintro rfl
  have hneg := ha.mp (hb.mpr hz)
  omega

/-- The last byte that decides a cell of an array decides its first character. -/
theorem startsApart_array {k : StaCell} (harray : k.attr.isArray = true) {l l' : List Byte}
    (hl : l[k.needs - 1]? = some 0) (hl' : l'[k.needs - 1]? = some 0x80) :
    StartsApart (k.format env (.bytes l)) (k.format env (.bytes l')) := by
  obtain ⟨a, i⟩ := k
  cases a with
  | mac | reservedArray =>
    have hbyte : l[i]? = some 0 := hl
    have hbyte' : l'[i]? = some 0x80 := hl'
    simp only [StaCell.format, hbyte, hbyte']
    exact ⟨48, 56, rfl, rfl, by decide⟩
  | tcEmptyCntArray | tcQueLenArray | tcAvgQueLenArray | tcCurQueLenArray =>
    have hword : (Words.wordAt l (4 * i)).msb = false := Words.msb_wordAt hl
    have hword' : (Words.wordAt l' (4 * i)).msb = true := Words.msb_wordAt hl'
    rw [BitVec.msb_eq_toInt, decide_eq_false_iff_not, not_lt] at hword
    rw [BitVec.msb_eq_toInt, decide_eq_true_iff] at hword'
    exact startsApart_signedDecimal hword hword'
  | _ => cases harray

theorem needs_le_arraySize {k : StaCell} (harray : k.attr.isArray = true)
    (hindex : k.index < k.attr.cells) : 0 < k.needs ∧ k.needs ≤ k.attr.arraySize := by
  obtain ⟨a, i⟩ := k
  cases a with
  | mac | reservedArray | tcEmptyCntArray | tcQueLenArray | tcAvgQueLenArray
  | tcCurQueLenArray =>
    simp only [StaStatisticsAttr.cells] at hindex
    simp only [StaCell.needs, StaStatisticsAttr.arraySize]
    omega
  | _ => cases harray

theorem field_filledWith {a : StaStatisticsAttr} (h : a.isArray = true) {digit : Nat}
    {byte : Byte} : a.field (.filledWith digit byte) = .bytes (List.replicate a.arraySize byte) := by
  cases a <;> first | rfl | cases h

/-- The text of a cell no payload reaches shows what the struct held before. -/
theorem startsApart_of_not_covered {k : StaCell} (hindex : k.index < k.attr.cells)
    (h : k.covered replies = false) :
    StartsApart
      (k.text env (replies.foldl testmodeStaStatisticsHandler (.filledWith 0 0)))
      (k.text env (replies.foldl testmodeStaStatisticsHandler (.filledWith 1 0x80))) := by
  have hshort : ∀ p ∈ k.attr.payloads replies, p.length < k.needs := by
    intro p hp
    have hp' := List.any_eq_false.mp h p hp
    simpa using hp'
  rw [StaCell.text, StaCell.text, StaStatisticsAttr.field_replies, StaStatisticsAttr.field_replies]
  cases harray : k.attr.isArray with
  | false =>
    have hneeds : k.needs = 0 := by
      obtain ⟨a, i⟩ := k
      cases a <;> first | rfl | cases harray
    have hnone : k.attr.payloads replies = [] := by
      apply List.eq_nil_iff_forall_not_mem.mpr
      intro p hp
      have hlt := hshort p hp
      omega
    rw [hnone]
    exact startsApart_scalar harray
  | true =>
    obtain ⟨hpos, hle⟩ := needs_le_arraySize harray hindex
    rw [field_filledWith harray, field_filledWith harray,
      StaStatisticsAttr.foldl_put_of_isArray harray, StaStatisticsAttr.foldl_put_of_isArray harray]
    have hreached : ∀ p ∈ k.attr.payloads replies, p.length ≤ k.needs - 1 := by
      intro p hp
      have hlt := hshort p hp
      omega
    apply startsApart_array harray
    · rw [getElem?_overlays_of_short hreached, List.getElem?_replicate, if_pos (by omega)]
    · rw [getElem?_overlays_of_short hreached, List.getElem?_replicate, if_pos (by omega)]

/-! ## Link detection -/

/-- A struct that repeats a number. -/
def StaLinkDetect.filledWith (value : BitVec 64) : StaLinkDetect :=
  ⟨value, value, value, value, value, value, value, value⟩

namespace LinkDetectAttr

/-- The field an attribute is stored in. -/
def field (s : StaLinkDetect) : LinkDetectAttr → BitVec 64
  | .txFailCnt => s.txFailCnt
  | .txRetryCnt => s.txRetryCnt
  | .txMultiRetryCnt => s.txMultiRetryCnt
  | .ackFailCnt => s.ackFailCnt
  | .fcsErrCnt => s.fcsErrCnt
  | .txCnt => s.txCnt
  | .txOkCnt => s.txOkCnt
  | .txOsCnt => s.txOsCnt

/-- What a payload makes of a field, whatever it held. -/
def put (a : LinkDetectAttr) (payload : List Byte) (_ : BitVec 64) : BitVec 64 :=
  let value : BitVec 64 := nlaGet 8 payload
  match a with
  | .ackFailCnt => if value.slt 0 then -value else value
  | _ => value

theorem field_store_self {payload : List Byte} {s : StaLinkDetect} {a : LinkDetectAttr} :
    a.field (a.store payload s) = a.put payload (a.field s) := by
  cases a with
  | ackFailCnt =>
    simp only [field, store, put]
    split <;> rfl
  | _ => simp only [field, store, put]

theorem field_store_other {payload : List Byte} {s : StaLinkDetect} {a b : LinkDetectAttr}
    (h : b ≠ a) : a.field (b.store payload s) = a.field s := by
  cases b with
  | ackFailCnt =>
    simp only [store]
    split <;> cases a <;> first | exact absurd rfl h | simp only [field]
  | _ => cases a <;> first | exact absurd rfl h | simp only [field, store]

/-- The payload a reply carries for an attribute. -/
def payload (reply : Reply) (a : LinkDetectAttr) : Option (List Byte) :=
  (reply.bind (nlaParseNested all.length fun _ => .u64)).bind fun sinfo => sinfo a.number

theorem field_handler {s : StaLinkDetect} {reply : Reply} {a : LinkDetectAttr} :
    a.field (testmodeStaLinkDetectHandler s reply) = update a.put (payload reply a) (a.field s) := by
  unfold testmodeStaLinkDetectHandler payload
  cases reply.bind (nlaParseNested all.length fun _ => .u64) with
  | none => rfl
  | some sinfo =>
    have hfold := @field_foldl_store _ _ _ _ _ (fun s a => field s a) (fun p s a => store p s a)
      (fun a p v => put a p v) (fun a => sinfo a.number) (fun _ _ _ => field_store_self)
      (fun _ _ _ _ hb => field_store_other hb) all (by decide) s a
    rw [if_pos (by cases a <;> decide)] at hfold
    refine Eq.trans (congrArg (fun s => field s a) ?_) hfold
    apply List.foldl_ext
    intro s b _
    cases sinfo b.number <;> rfl

/-- The payloads the replies carry for an attribute, in order. -/
def payloads (replies : List Reply) (a : LinkDetectAttr) : List (List Byte) :=
  replies.filterMap fun reply => payload reply a

/-- What the replies leave in a field. -/
theorem field_replies {s : StaLinkDetect} {a : LinkDetectAttr} :
    a.field (replies.foldl testmodeStaLinkDetectHandler s) =
      (payloads replies a).foldl (fun v p => a.put p v) (a.field s) :=
  @field_foldl_replies _ _ _ _ (fun s => field s a) testmodeStaLinkDetectHandler a.put
    (fun reply => payload reply a) (fun _ _ => field_handler) _ _

/-- Some reply carries the attribute. -/
def covered (replies : List Reply) (a : LinkDetectAttr) : Bool := a.payloads replies ≠ []

/-- The text of a number of a struct. -/
def text (s : StaLinkDetect) (a : LinkDetectAttr) : Text := decimal (a.field s).toNat

/-- A number some reply carries does not depend on what the struct held before. -/
theorem text_of_covered {a : LinkDetectAttr} {m m' : StaLinkDetect}
    (h : a.covered replies = true) :
    text (replies.foldl testmodeStaLinkDetectHandler m) a =
      text (replies.foldl testmodeStaLinkDetectHandler m') a := by
  have hput : ∀ p v v', a.put p v = a.put p v' := fun _ _ _ => rfl
  have hne : a.payloads replies ≠ [] := of_decide_eq_true h
  rw [text, text, field_replies, field_replies, foldl_put_const hput hne]

/-- A number no reply carries shows what the struct held before. -/
theorem startsApart_of_not_covered {a : LinkDetectAttr} (h : a.covered replies = false) :
    StartsApart
      (text (replies.foldl testmodeStaLinkDetectHandler (.filledWith 0)) a)
      (text (replies.foldl testmodeStaLinkDetectHandler (.filledWith 1)) a) := by
  have hnone : a.payloads replies = [] := by simpa [covered] using h
  have hlow : (decimal 0).head? = some 48 := by decide
  have hhigh : (decimal 1).head? = some 49 := by simp [decimal]
  rw [text, text, field_replies, field_replies, hnone]
  cases a <;> exact ⟨48, 49, hlow, hhigh, by decide⟩

end LinkDetectAttr

/-- The output of link detection. -/
def linkLines : List (Line LinkDetectAttr) :=
  [lineOf "rFailedCount=" .txFailCnt,
    lineOf "rRetryCount=" .txRetryCnt,
    lineOf "rMultipleRetryCount=" .txMultiRetryCnt,
    lineOf "rACKFailureCount=" .ackFailCnt,
    lineOf "rFCSErrorCount=" .fcsErrCnt,
    lineOf "tx_total=" .txCnt,
    lineOf "tx_ok=" .txOkCnt,
    lineOf "tx_os=" .txOsCnt]

theorem linkDetectLines_eq {s : StaLinkDetect} :
    linkDetectLines s = linkLines.map (render (LinkDetectAttr.text s)) := by
  simp only [linkDetectLines, linkLines, List.map_cons, List.map_nil, render_lineOf]
  rfl

end Wpa
