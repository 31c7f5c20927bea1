import Tabula.Proofs.RecordLayout
import Tabula.Proofs.RecordNumbers
import Tabula.Proofs.SessionState

/-!
Exporting a query result as JSON records, read back. A frame with repeated column names has no
record form; one whose names or cell texts hold a surrogate cannot be encoded; otherwise the text
parses to an array with one object per row, keyed by the column names in order, whose values are
what `Cell.ReadsAs` says. A single named column is written as an array of its values, with no
keys. The reader takes back every text of Unicode code points and every integer of at most
`maxDigits` digits (`Table.WithinLimits`).
-/

namespace Tabula

open Json Text Query

def Text.ScalarValues (s : Text) : Prop := ∀ n ∈ s.points, n < 0x110000 ∧ isSurrogate n = false

/-! ### What records read back as -/

namespace Cell

/-- What the record form of a single value reads back as: the same integer, boolean or text, a
number for a finite double, and null for a missing value, NaN, an infinity, or an array or tuple
standing as an item of another. -/
def ScalarReadsAs : Cell → Value → Prop
  | .int n, v => v = .int n
  | .float x, v => if (x.isNaN || x.isInf) = true then v = .null else v.isNumber = true
  | .bool b, v => v = .bool b
  | .text s, v => v = .str s
  | _, v => v = .null

/-- What the record form of a cell reads back as: an array or a tuple is an array of its items. -/
def ReadsAs : Cell → Value → Prop
  | .array _ items, v | .tuple items, v => ∃ vs, v = .arr vs ∧ List.Forall₂ ScalarReadsAs items vs
  | c, v => ScalarReadsAs c v

def ScalarWithinLimits : Cell → Prop
  | .int n => n.natAbs < 10 ^ maxDigits
  | _ => True

def WithinLimits : Cell → Prop
  | .array _ items | .tuple items => ∀ c ∈ items, ScalarWithinLimits c
  | c => ScalarWithinLimits c

end Cell

namespace Table

def cells : Table → List Cell
  | .frame f => ((List.range f.height).map f.row).flatten
  | .series _ c _ => c.cells.toList

def texts (t : Table) : List Text :=
  (match t with
    | .frame f => f.names
    | .series _ _ _ => []) ++ t.cells.flatMap cellTexts

def NamesDistinct : Table → Prop
  | .frame f => f.names.Nodup
  | .series _ _ _ => True

/-- No text of the table holds a surrogate. -/
def Encodable (t : Table) : Prop := ∀ s ∈ t.texts, ∀ n ∈ s.points, isSurrogate n = false

/-- Texts of code points below `110000` and integers of at most `maxDigits` digits. -/
def WithinLimits (t : Table) : Prop :=
  (∀ s ∈ t.texts, ∀ n ∈ s.points, n < 0x110000) ∧ ∀ c ∈ t.cells, c.WithinLimits

/-- What the record form of a table reads back as: for a frame, an array with one object per row
whose keys are the column names in order; for a single column, an array of its values. -/
def RecordsOf : Table → Value → Prop
  | .frame f, v => ∃ rows, v = .arr rows ∧ List.Forall₂ (fun i row => ∃ vals,
      row = .obj (f.names.zip vals) ∧ List.Forall₂ Cell.ReadsAs (f.row i) vals)
      (List.range f.height) rows
  | .series _ c _, v => ∃ vs, v = .arr vs ∧ List.Forall₂ Cell.ReadsAs c.cells.toList vs

end Table

/-! ### Which tables have a record form -/

theorem length_eraseDups_le {α : Type} [BEq α] : ∀ l : List α, l.eraseDups.length ≤ l.length
  | [] => Nat.le_refl _
  | a :: as => by
    have := length_eraseDups_le (as.filter fun b => !b == a)
    have := List.length_filter_le (fun b => !b == a) as
    rw [List.eraseDups_cons, List.length_cons, List.length_cons]
    omega
termination_by l => l.length
decreasing_by
  have := List.length_filter_le (fun b => !b == a) as
  simp only [List.length_cons]
  omega

theorem length_eraseDups_eq_iff {α : Type} [BEq α] [LawfulBEq α] (l : List α) :
    l.eraseDups.length = l.length ↔ l.Nodup := by
  induction l with
  | nil => simp
  | cons a as ih =>
    rw [List.eraseDups_cons, List.length_cons, List.length_cons, List.nodup_cons]
    by_cases ha : a ∈ as
    · -- a repeat of the head is filtered out, so what is left is shorter
      have hlt : (as.filter fun b => !b == a).length < as.length :=
        List.length_filter_lt_length_iff_exists.mpr ⟨a, ha, by simp⟩
      have := length_eraseDups_le (as.filter fun b => !b == a)
      simp only [ha, not_true_eq_false, false_and, iff_false]
      omega
    · have hkeep : (as.filter fun b => !b == a) = as := by
        rw [List.filter_eq_self]
        intro b hb
        have : b ≠ a := fun h => ha (h ▸ hb)
        simpa using this
      rw [hkeep, Nat.add_right_cancel_iff, ih]
      simp [ha]

theorem Frame.namesDistinct_iff (f : Frame) : f.namesDistinct = true ↔ f.names.Nodup := by
  simp [Frame.namesDistinct, length_eraseDups_eq_iff]

theorem surrogateRun?_eq_none (s : Text) :
    Utf8.surrogateRun? s = none ↔ ∀ n ∈ s.points, isSurrogate n = false := by
  unfold Utf8.surrogateRun?
  dsimp only
  split
  · -- no indexed point is a surrogate, and every point has an index
    next h =>
    rw [List.find?_eq_none] at h
    refine iff_of_true rfl fun n hn => ?_
    obtain ⟨i, hi, rfl⟩ := List.getElem_of_mem hn
    have hmem : (s.points[i], i) ∈ s.points.zipIdx := by
      rw [List.mem_zipIdx_iff_getElem?]
      simp [hi]
    simpa [Utf8.isSurrogate, isSurrogate] using h _ hmem
  · next n i h =>
    refine iff_of_false (by simp) fun hall => ?_
    have hs := List.find?_some h
    have hn := hall n (List.fst_mem_of_mem_zipIdx (List.mem_of_find?_eq_some h))
    simp only [Utf8.isSurrogate] at hs
    simp only [isSurrogate] at hn
    rw [hn] at hs
    cases hs

theorem findSome_surrogateRun?_eq_none (ts : List Text) :
    ts.findSome? Utf8.surrogateRun? = none ↔ ∀ s ∈ ts, ∀ n ∈ s.points, isSurrogate n = false := by
  simp [List.findSome?_eq_none_iff, surrogateRun?_eq_none]

theorem unencodableCell?_eq_none (cs : List Cell) :
    Table.unencodableCell? cs = none ↔
      ∀ s ∈ cs.flatMap Table.cellTexts, ∀ n ∈ s.points, isSurrogate n = false := by
  unfold Table.unencodableCell?
  rw [List.findSome?_eq_none_iff]
  simp only [findSome_surrogateRun?_eq_none, List.mem_flatMap]
  constructor
  · rintro h s ⟨c, hc, hs⟩
    exact h c hc s hs
  · intro h c hc s hs
    exact h s ⟨c, hc, hs⟩

theorem frame_encodable_iff (f : Frame) : (Table.frame f).Encodable ↔
    f.names.findSome? Utf8.surrogateRun? = none ∧
      Table.unencodableCell? ((List.range f.height).map f.row).flatten = none := by
  rw [findSome_surrogateRun?_eq_none, unencodableCell?_eq_none]
  simp only [Table.Encodable, Table.texts, Table.cells, List.mem_append]
  constructor
  · intro h
    exact ⟨fun s hs => h s (.inl hs), fun s hs => h s (.inr hs)⟩
  · rintro ⟨h1, h2⟩ s (hs | hs)
    · exact h1 s hs
    · exact h2 s hs

theorem series_encodable_iff (name : Text) (c : Column) (ls : RowLabels) :
    (Table.series name c ls).Encodable ↔
      Table.unencodableCell? c.cells.toList = none := by
  rw [unencodableCell?_eq_none]
  simp [Table.Encodable, Table.texts, Table.cells]

theorem records_eq_repeatedNames (t : Table) :
    Table.records t = .error .repeatedNames ↔ ¬ t.NamesDistinct := by
  cases t with
  | frame f =>
    by_cases hd : f.namesDistinct = true
    · have hn := (Frame.namesDistinct_iff f).mp hd
      simp only [Table.records, hd, Bool.not_true, Bool.false_eq_true, if_false,
        Table.NamesDistinct, hn, not_true_eq_false, iff_false]
      split <;> simp
    · have hn : ¬ f.names.Nodup := fun h => hd ((Frame.namesDistinct_iff f).mpr h)
      simp [Table.records, hd, Table.NamesDistinct, hn]
  | series name c ls =>
    simp only [Table.records, Table.NamesDistinct, not_true_eq_false, iff_false]
    split <;> simp

/-- A table with distinct names has no record form exactly when one of its texts holds a
surrogate. -/
theorem records_eq_unencodable (t : Table) :
    (∃ e, Table.records t = .error (.unencodable e)) ↔ t.NamesDistinct ∧ ¬ t.Encodable := by
  cases t with
  | frame f =>
    by_cases hd : f.namesDistinct = true
    · have hn := (Frame.namesDistinct_iff f).mp hd
      simp only [Table.records, hd, Bool.not_true, Bool.false_eq_true, if_false,
        Table.NamesDistinct, hn, true_and, frame_encodable_iff]
      cases h1 : f.names.findSome? Utf8.surrogateRun? <;>
        cases h2 : Table.unencodableCell? ((List.range f.height).map f.row).flatten <;> simp
    · have hn : ¬ f.names.Nodup := fun h => hd ((Frame.namesDistinct_iff f).mpr h)
      simp [Table.records, hd, Table.NamesDistinct, hn]
  | series name c ls =>
    simp only [Table.records, Table.NamesDistinct, true_and, series_encodable_iff]
    cases Table.unencodableCell? c.cells.toList <;> simp

/-! ### Reading records back -/

theorem Table.cellTexts_mem_texts (t : Table) (c : Cell) (hc : c ∈ t.cells) (s : Text)
    (hs : s ∈ Table.cellTexts c) : s ∈ t.texts := by
  simp only [Table.texts, List.mem_append, List.mem_flatMap]
  exact .inr ⟨c, hc, hs⟩

theorem Table.scalarValues_of_mem {t : Table} (hw : t.WithinLimits) (he : t.Encodable) (s : Text)
    (hs : s ∈ t.texts) : s.ScalarValues :=
  fun n hn => ⟨hw.1 s hs n hn, he s hs n hn⟩

theorem readsAt_scalarJson (depth : Nat) (c : Cell) (hp : c.ScalarWithinLimits)
    (ht : ∀ s, c = .text s → s.ScalarValues) :
    ReadsAt depth (Text.ofString (Table.scalarJson c)).points c.ScalarReadsAs := by
  have hnull : (Text.ofString "null").points = [0x6E, 0x75, 0x6C, 0x6C] := rfl
  cases c with
  | int n => exact readsAt_intText depth n hp
  | float x =>
    by_cases hx : (x.isNaN || x.isInf) = true
    · simp only [Table.scalarJson, hx, if_true, hnull]
      exact (readsAt_null depth).mono fun v hv => by
        rw [Cell.ScalarReadsAs, if_pos hx]
        exact hv
    · simp only [Table.scalarJson, hx, Bool.false_eq_true, if_false]
      exact (readsAt_recordText depth x (Bool.eq_false_iff.mpr hx)).mono fun v hv => by
        rw [Cell.ScalarReadsAs, if_neg hx]
        exact hv
  | bool b =>
    cases b
    · exact readsAt_false depth
    · exact readsAt_true depth
  | text s => exact Table.readsAt_recordString depth s (ht s rfl)
  | missing | array _ _ | tuple _ =>
    simp only [Table.scalarJson, hnull]
    exact readsAt_null depth

theorem readsAt_itemsArray (depth k : Nat) (hd : depth < maxDepth) (items : List Cell)
    (hp : ∀ c ∈ items, c.ScalarWithinLimits) (ht : ∀ s, Cell.text s ∈ items → s.ScalarValues) :
    ReadsAt depth (Text.ofString (Table.arrayAt k (items.map Table.scalarJson))).points
      (fun v => ∃ vs, v = .arr vs ∧ List.Forall₂ Cell.ScalarReadsAs items vs) := by
  rw [Table.arrayAt_points, List.map_map]
  exact readsAt_array depth hd _ _ (spaces_blank _) items _ _ fun c hc =>
    readsAt_scalarJson (depth + 1) c (hp c hc) fun s hs => ht s (hs ▸ hc)

theorem text_mem_cellTexts {s : Text} {items : List Cell} (h : Cell.text s ∈ items) :
    s ∈ items.filterMap fun c => match c with
      | .text s => some s
      | _ => none :=
  List.mem_filterMap.mpr ⟨.text s, h, rfl⟩

theorem readsAt_cellJson (depth k : Nat) (hd : depth < maxDepth) (c : Cell) (hp : c.WithinLimits)
    (ht : ∀ s ∈ Table.cellTexts c, s.ScalarValues) :
    ReadsAt depth (Text.ofString (Table.cellJson k c)).points c.ReadsAs := by
  cases c with
  | array kind items =>
    exact readsAt_itemsArray depth k hd items hp fun s hs => ht s (text_mem_cellTexts hs)
  | tuple items =>
    exact readsAt_itemsArray depth k hd items hp fun s hs => ht s (text_mem_cellTexts hs)
  | int _ | float _ | bool _ | missing =>
    exact readsAt_scalarJson depth _ hp fun _ h => by cases h
  | text s =>
    exact readsAt_scalarJson depth _ hp fun s' h => by
      cases h
      exact ht _ (List.mem_singleton_self _)

theorem readsAt_rowObject (depth : Nat) (hd : depth < maxDepth) (names : List Text)
    (cells : List Cell) (R : Cell → Value → Prop) (hlen : names.length = cells.length)
    (hnd : names.Nodup) (hkeys : ∀ n ∈ names, n.ScalarValues)
    (hc : ∀ c ∈ cells, ReadsAt (depth + 1) (Text.ofString (Table.cellJson 2 c)).points (R c)) :
    ReadsAt depth (Text.ofString (Table.rowObject names cells)).points
      (fun v => ∃ vs, v = .obj (names.zip vs) ∧ List.Forall₂ R cells vs) := by
  have hfst : (names.zip cells).map Prod.fst = names := List.map_fst_zip (Nat.le_of_eq hlen)
  have hsnd : (names.zip cells).map Prod.snd = cells := List.map_snd_zip (Nat.le_of_eq hlen.symm)
  rw [Table.rowObject_points]
  refine (readsAt_object depth hd (spaces 4) 2 (spaces_blank 4) Table.keyBody (names.zip cells) _ R
    (fun y hy => ⟨hc _ (List.of_mem_zip hy).2,
      Table.bodyReads_keyBody _ (hkeys _ (List.of_mem_zip hy).1)⟩) (by rw [hfst]; exact hnd)).mono ?_
  rintro v ⟨vs, rfl, hF⟩
  refine ⟨vs, by rw [hfst], ?_⟩
  rw [← hsnd, List.forall₂_map_left_iff]
  exact hF

theorem Frame.row_length (f : Frame) (i : Nat) : f.names.length = (f.row i).length := by
  simp [Frame.names, Frame.row]

theorem arrayOf_head (items : List String) :
    ∀ c ∈ (Text.ofString (Table.arrayOf items)).points.head?, c ≠ 0xFEFF := by
  rw [Table.arrayOf, Table.arrayAt_points]
  cases items <;> simp [bracketed]

theorem readsAt_frameRecords (f : Frame) (hnd : f.names.Nodup) (hw : (Table.frame f).WithinLimits)
    (he : (Table.frame f).Encodable) :
    ReadsAt 0 (Text.ofString (Table.arrayOf (((List.range f.height).map f.row).map
      (Table.rowObject f.names)))).points (Table.frame f).RecordsOf := by
  rw [Table.arrayOf, Table.arrayAt_points, List.map_map, List.map_map]
  refine readsAt_array 0 (by decide) _ _ (spaces_blank _) (List.range f.height) _ _ fun i hi => ?_
  -- each row: its cells are cells of the table, and their texts texts of the table
  have hcell : ∀ c ∈ f.row i, c ∈ (Table.frame f).cells := fun c hc =>
    List.mem_flatten.mpr ⟨f.row i, List.mem_map.mpr ⟨i, hi, rfl⟩, hc⟩
  refine readsAt_rowObject 1 (by decide) f.names (f.row i) Cell.ReadsAs (f.row_length i) hnd
    (fun n hn => Table.scalarValues_of_mem hw he n (by simp [Table.texts, hn])) fun c hc => ?_
  exact readsAt_cellJson 2 2 (by decide) c (hw.2 c (hcell c hc)) fun s hs =>
    Table.scalarValues_of_mem hw he s (Table.cellTexts_mem_texts _ c (hcell c hc) s hs)

theorem readsAt_seriesRecords (name : Text) (c : Column) (ls : RowLabels)
    (hw : (Table.series name c ls).WithinLimits)
    (he : (Table.series name c ls).Encodable) :
    ReadsAt 0 (Text.ofString (Table.arrayOf (c.cells.toList.map (Table.cellJson 1)))).points
      (Table.series name c ls).RecordsOf := by
  rw [Table.arrayOf, Table.arrayAt_points, List.map_map]
  exact readsAt_array 0 (by decide) _ _ (spaces_blank _) c.cells.toList _ _ fun x hx =>
    readsAt_cellJson 1 1 (by decide) x (hw.2 x hx) fun s hs =>
      Table.scalarValues_of_mem hw he s (Table.cellTexts_mem_texts (.series name c ls) x hx s hs)

/-- A table with distinct names, encodable texts and values within the reader's limits has a
record form, and it parses to the table's records. -/
theorem records_reads_back (t : Table) (hd : t.NamesDistinct) (he : t.Encodable)
    (hw : t.WithinLimits) :
    ∃ text v, Table.records t = .ok text ∧ Json.parse (Text.ofString text).points = .ok v ∧
      t.RecordsOf v := by
  cases t with
  | frame f =>
    obtain ⟨h1, h2⟩ := (frame_encodable_iff f).mp he
    have hdist : f.namesDistinct = true := (Frame.namesDistinct_iff f).mpr hd
    obtain ⟨v, hv, hR⟩ := parse_of_readsAt _ _ (readsAt_frameRecords f hd hw he) (arrayOf_head _)
    exact ⟨_, v, by simp [Table.records, hdist, h1, h2], hv, hR⟩
  | series name c ls =>
    have h1 := (series_encodable_iff name c ls).mp he
    obtain ⟨v, hv, hR⟩ := parse_of_readsAt _ _ (readsAt_seriesRecords name c ls hw he) (arrayOf_head _)
    exact ⟨_, v, by simp [Table.records, h1], hv, hR⟩

/-! ### Exporting the result of a session -/

theorem exportJson_step (s : Session) (t : Table) (ht : s.result = some t) :
    s.step .exportJson = (s, match Table.records t with
      | .ok text => .ok (record [("json", Value.ofString text)])
      | .error e => .error ⟨e.kind, e.message⟩) := by
  simp only [Session.step, ht]
  cases Table.records t <;> rfl

/-- Exporting a result as JSON changes nothing. It fails with a `ValueError` exactly when the
result is a frame whose column names repeat, and with a `UnicodeEncodeError` exactly when the
names are distinct and a text of the result holds a surrogate. Otherwise, for values within the
reader's limits, it answers with a text that parses to the result's records: for a frame an
array of one object per row keyed by the column names in order, for a single column an array of
its values. -/
theorem exportJson_reads_back (s : Session) (t : Table) (ht : s.result = some t) :
    (s.step .exportJson).1 = s ∧
      ((s.step .exportJson).2 =
          .error ⟨"ValueError", "DataFrame columns must be unique for orient='records'."⟩ ↔
        ¬ t.NamesDistinct) ∧
      ((∃ m, (s.step .exportJson).2 = .error ⟨"UnicodeEncodeError", m⟩) ↔
        t.NamesDistinct ∧ ¬ t.Encodable) ∧
      (t.NamesDistinct → t.Encodable → t.WithinLimits →
        ∃ text v, (s.step .exportJson).2 = .ok (record [("json", Value.ofString text)]) ∧
          Json.parse (Text.ofString text).points = .ok v ∧ t.RecordsOf v) := by
  rw [exportJson_step s t ht, ← records_eq_repeatedNames, ← records_eq_unencodable]
  refine ⟨rfl, ?_, ?_, fun hd he hw => ?_⟩
  · -- only repeated names give the `ValueError`
    cases Table.records t with
    | ok text => simp
    | error e => cases e <;> simp [Table.RecordsError.kind, Table.RecordsError.message]
  · cases Table.records t with
    | ok text => simp
    | error e => cases e <;> simp [Table.RecordsError.kind]
  · obtain ⟨text, v, hr, hv, hR⟩ := records_reads_back t hd he hw
    exact ⟨text, v, by rw [hr], hv, hR⟩

/-- A frame of an integer column `n` and a mixed column `s`, with a text of escapes and a
missing value. -/
def smallFrame : Frame :=
  ⟨2, #[(Text.ofString "n", ⟨.int64, #[.int 1, .int (-20)]⟩),
    (Text.ofString "s", ⟨.object, #[.text (Text.ofString "a/\"é\n"), .missing]⟩)], .positions⟩

theorem exportJson_small_frame_reads_back :
    ({ Session.init with result := some (.frame smallFrame) } : Session).result =
        some (.frame smallFrame) ∧ (Table.frame smallFrame).NamesDistinct ∧
      (Table.frame smallFrame).Encodable ∧ (Table.frame smallFrame).WithinLimits ∧
      ∃ text v, (({ Session.init with result := some (.frame smallFrame) } : Session).step
          .exportJson).2 = .ok (record [("json", Value.ofString text)]) ∧
        Json.parse (Text.ofString text).points = .ok v ∧ (Table.frame smallFrame).RecordsOf v := by
  have hd : (Table.frame smallFrame).NamesDistinct := by
    unfold Table.NamesDistinct
    decide
  have he : (Table.frame smallFrame).Encodable := by
    unfold Table.Encodable
    decide
  have hw : (Table.frame smallFrame).WithinLimits := by
    refine ⟨by decide, ?_⟩
    simp only [Table.cells, Frame.row, smallFrame, List.mem_flatten, List.mem_map, List.mem_range]
    rintro c ⟨_, ⟨i, hi, rfl⟩, hc⟩
    have hi' : i = 0 ∨ i = 1 := by omega
    have hbig : 20 < 10 ^ maxDigits :=
      Nat.lt_of_lt_of_le (by decide) (Nat.pow_le_pow_right (by decide) (by decide : 2 ≤ maxDigits))
    rcases hi' with rfl | rfl <;> simp at hc <;> rcases hc with rfl | rfl <;>
      simp [Cell.WithinLimits, Cell.ScalarWithinLimits] <;> omega
  exact ⟨rfl, hd, he, hw, (exportJson_reads_back _ _ rfl).2.2.2 hd he hw⟩

def jsonTextOf : Except Failure Value → Option Text
  | .ok v => match index v "json" with
    | .ok (.str t) => some t
    | _ => none
  | .error _ => none

def failureKindOf {α : Type} : Except Failure α → Option String
  | .error f => some f.kind
  | .ok _ => none

/-- The configuration with no filters, sorting or aggregations that selects `columns` and groups as
`grouping` says. -/
def plainConfig (columns grouping aggregations : Value) : Value :=
  .obj [(Text.ofString "selected_columns", columns), (Text.ofString "filters", .arr []),
    (Text.ofString "sorting", .arr []), (Text.ofString "grouping", grouping),
    (Text.ofString "aggregations", aggregations)]

def singleColumnSession : Session :=
  Session.init.run [.loadCsv "a\n1\n".toUTF8.toList,
    .updateConfig (plainConfig (Value.ofString "a") .null (.arr [])), .process]

def surrogateLabelSession : Session :=
  Session.init.run [.loadCsv "k,b\n1,2\n".toUTF8.toList,
    .updateConfig (plainConfig (.arr [])
      (.obj [(Text.ofString "enabled", .bool true), (Text.ofString "columns", .arr [Value.ofString "k"])])
      (.arr [.obj [(Text.ofString "column", Value.ofString "b"),
        (Text.ofString "function", .arr [.str ⟨[0xD800]⟩, Value.ofString "sum"])]])), .process]

/-- Not every exported result is an array of row objects: a column selected by its name alone is
exported as an array of its values, and a label holding a lone surrogate cannot be encoded. -/
theorem exportJson_single_column_and_surrogate_label :
    jsonTextOf (singleColumnSession.step .exportJson).2 = some (Text.ofString "[\n  1\n]") ∧
      failureKindOf (surrogateLabelSession.step .exportJson).2 = some "UnicodeEncodeError" := by
  decide +kernel

end Tabula
