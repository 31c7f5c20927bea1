import Tabula.Proofs.ColumnKinds
import Tabula.Proofs.CompareRules
import Tabula.Proofs.Doubles

/-!
Complementary comparison rules. Every comparison of a cell with a value reads one outcome,
whatever the operator: an order, no order (a missing cell, a null or NaN value), or a refusal to
order the two. Equality holds where inequality fails, and a refusal still answers both
(`cellTest_ne`, `cellTest_eq_ok`). A present cell that fits its column meets a value that is neither
null nor NaN in an order or with a refusal, which stops `lt` and `ge` alike (`cellTest_present`),
while a missing cell satisfies neither. So on a column that a key picks alone, `eq` and `ne` keep complementary
rows, and `lt` and `ge`, or `gt` and `le`, split the rows with a present cell between them
(`compare_rules_keep_complements`).
-/

namespace Tabula

/-- A present cell that fits its kind: an integer of an integer column, a double that is not NaN
of a double column, a boolean of a boolean or mixed column, or a text of a mixed column. -/
theorem Cell.present_cases {k : Kind} {x : Cell} (hfit : x.fitsKind k = true)
    (hx : x.isMissing = false) :
    (∃ n, x = .int n ∧ (k = .int64 ∨ k = .uint64)) ∨
      (∃ z, x = .float z ∧ z.isNaN = false ∧ k = .float64) ∨
      (∃ b, x = .bool b ∧ (k = .bool ∨ k = .object)) ∨
      (∃ s, x = .text s ∧ k = .object) := by
  cases x with
  | int n =>
    cases k with
    | int64 => exact .inl ⟨n, rfl, .inl rfl⟩
    | uint64 => exact .inl ⟨n, rfl, .inr rfl⟩
    | float64 | bool | object => cases hfit
  | float z =>
    cases k with
    | float64 => exact .inr (.inl ⟨z, rfl, hx, rfl⟩)
    | int64 | uint64 | bool | object => cases hfit
  | bool b =>
    cases k with
    | bool => exact .inr (.inr (.inl ⟨b, rfl, .inl rfl⟩))
    | object => exact .inr (.inr (.inl ⟨b, rfl, .inr rfl⟩))
    | int64 | uint64 | float64 => cases hfit
  | text s =>
    cases k with
    | object => exact .inr (.inr (.inr ⟨s, rfl, rfl⟩))
    | int64 | uint64 | float64 | bool => cases hfit
  | missing => cases hx
  | array _ _ | tuple _ => cases k <;> cases hfit

theorem Kind.ruleValue_int_isNull (kind : Kind) (n : Int) :
    Query.isNullValue (kind.ruleValue (.int n)) = false := by
  unfold Kind.ruleValue
  split
  · cases hx : Query.numberOf? (.int n) with
    | none => rfl
    | some x =>
      -- the value is read as the double nearest to the integer
      simp only [Query.numberOf?] at hx
      split at hx
      · cases hx
      · cases hx
        exact ofInt_isNaN n
  · rfl

end Tabula

namespace Tabula.Query

open Json

/-! ## Equality and inequality -/

theorem op_test_ne (o : Option Ordering) : Op.test .ne o = !Op.test .eq o := by
  cases o with
  | none => rfl
  | some o => cases o <;> rfl

theorem cellTest_ne (kind : Kind) (x : Cell) (v : Value) :
    cellTest kind .ne x v = (cellTest kind .eq x v).map (!·) := by
  unfold cellTest numericTest mixedTest
  split
  · split
    · rfl
    · split
      · split
        · rfl
        · -- the cell's number, as the value's kind asks, is compared with the value
          split <;> dsimp only <;> split <;> simp_all [op_test_ne, Except.map]
      · split
        · split <;> rfl
        · rfl
  · split
    · rfl
    · split
      · simp [op_test_ne, Except.map]
      · split
        · simp [op_test_ne, Except.map]
        · rfl

theorem cellTest_eq_ok (kind : Kind) (x : Cell) (v : Value) :
    ∃ b, cellTest kind .eq x v = .ok b := by
  unfold cellTest numericTest mixedTest
  split
  · split
    · exact ⟨_, rfl⟩
    · split
      · split
        · exact ⟨_, rfl⟩
        · split <;> dsimp only <;> split <;> exact ⟨_, rfl⟩
      · split
        · split <;> exact ⟨_, rfl⟩
        · exact ⟨_, rfl⟩
  · split
    · exact ⟨_, rfl⟩
    · split
      · exact ⟨_, rfl⟩
      · split <;> exact ⟨_, rfl⟩

theorem keepsCell_ne (kind : Kind) (v : Value) (x : Cell) :
    (Test.compare .ne).keepsCell kind v x = !(Test.compare .eq).keepsCell kind v x := by
  obtain ⟨b, hb⟩ := cellTest_eq_ok kind x v
  simp only [Test.keepsCell, cellTest_ne, hb]
  rfl

/-! ## Orders -/

def Num.Ordered : Num → Prop
  | .int _ => True
  | .float x => x.isNaN = false

theorem compareIntFloat_isSome (n : Int) {x : Float} (hx : x.isNaN = false) :
    (compareIntFloat n x).isSome := by
  unfold compareIntFloat
  rw [if_neg (by rw [hx]; exact Bool.false_ne_true)]
  split
  · rfl
  · next hinf =>
    obtain ⟨b, hb⟩ :=
      Decimal.Binary.ofFloat?_finite x (by rw [hx, Bool.false_or]; simpa using hinf)
    rw [hb]
    rfl

theorem Num.compare?_isSome {a b : Num} (ha : a.Ordered) (hb : b.Ordered) :
    (a.compare? b).isSome := by
  cases a with
  | int n =>
    cases b with
    | int m => rfl
    | float y => exact compareIntFloat_isSome n hb
  | float x =>
    cases b with
    | int m =>
      rw [Num.compare?, Option.isSome_map]
      exact compareIntFloat_isSome m ha
    | float y =>
      rw [Num.compare?, compareFloats_eq ha hb]
      rfl

theorem valueNum_ordered {v : Value} {b : Num} (hnull : isNullValue v = false)
    (hb : valueNum v = some b) : b.Ordered := by
  cases v with
  | int n | bool _ =>
    cases hb
    trivial
  | float y =>
    cases hb
    exact hnull
  | null | str _ | arr _ | obj _ => cases hb

theorem ordered_of_eq {f : Op → Except Fault Bool} {a b : Num} (ha : a.Ordered) (hb : b.Ordered)
    (h : ∀ op, f op = .ok (op.test (a.compare? b))) :
    ∃ o, ∀ op, f op = .ok (op.test (some o)) := by
  obtain ⟨o, ho⟩ := Option.isSome_iff_exists.1 (Num.compare?_isSome ha hb)
  exact ⟨o, fun op => by rw [h op, ho]⟩

/-- A present cell of a number column that fits the column meets a number that is not NaN in one
order, whatever the operator; an integer meets a double as the double nearest to it. -/
theorem numericTest_ordered {kind : Kind} {x : Cell} {v : Value} {b : Num}
    (hnum : kind.isNumeric = true) (hfit : x.fitsKind kind = true) (hx : x.isMissing = false)
    (hnull : isNullValue v = false) (hb : valueNum v = some b) :
    ∃ o, ∀ op, numericTest kind op x v = .ok (op.test (some o)) := by
  have hbo := valueNum_ordered hnull hb
  rcases Cell.present_cases hfit hx with ⟨n, rfl, hk⟩ | ⟨z, rfl, hz, rfl⟩ | ⟨c, rfl, -⟩ |
    ⟨s, rfl, rfl⟩
  · have hkb : (kind == Kind.bool) = false := by rcases hk with rfl | rfl <;> rfl
    cases b with
    | int m =>
      refine ordered_of_eq (a := .int n) trivial hbo fun op => ?_
      simp only [numericTest, hnull, hb, hx, Bool.false_eq_true, if_false]
      rfl
    | float y =>
      refine ordered_of_eq (a := .float (Float.ofInt n)) (ofInt_isNaN n) hbo fun op => ?_
      simp only [numericTest, hnull, hb, hx, hkb, Bool.false_eq_true, if_false]
  · cases b with
    | int m | float y =>
      refine ordered_of_eq (a := .float z) hz hbo fun op => ?_
      simp only [numericTest, hnull, hb, hx, Bool.false_eq_true, if_false]
      rfl
  · cases b with
    | int m | float y =>
      refine ordered_of_eq (a := .int (if c then 1 else 0)) trivial hbo fun op => ?_
      simp only [numericTest, hnull, hb, hx, Bool.false_eq_true, if_false]
      rfl
  · cases hnum

def Op.orders : Op → Bool
  | .eq | .ne => false
  | _ => true

theorem unequal_error {op : Op} (h : op.orders = true) (f : Fault) :
    ∃ e, unequal op f = .error e := by
  cases op with
  | eq | ne => cases h
  | gt | ge | lt | le => exact ⟨f, rfl⟩

/-- A present cell that fits its column meets a value that is neither null nor NaN in one order,
whatever the operator, or the two refuse any order. -/
theorem cellTest_present {kind : Kind} {x : Cell} {v : Value} (hfit : x.fitsKind kind = true)
    (hx : x.isMissing = false) (hnull : isNullValue v = false) (hv : v.isScalar = true) :
    (∃ o, ∀ op, cellTest kind op x v = .ok (op.test (some o))) ∨
      ∀ op, op.orders = true → ∃ e, cellTest kind op x v = .error e := by
  cases hk : kind.isNumeric with
  | true =>
    simp only [cellTest, hk, if_true]
    cases hb : valueNum v with
    | some b => exact .inl (numericTest_ordered hk hfit hx hnull hb)
    | none =>
      -- a value that is no number is a text here, which a number column refuses to order
      right
      intro op hop
      cases v with
      | str s =>
        simp only [numericTest, hnull, hb, hx, Bool.false_eq_true, if_false]
        exact unequal_error hop _
      | null => cases hnull
      | int _ | float _ | bool _ => cases hb
      | arr _ | obj _ => cases hv
  | false =>
    simp only [cellTest, hk, Bool.false_eq_true, if_false]
    rcases Cell.present_cases hfit hx with ⟨n, rfl, hk'⟩ | ⟨z, rfl, -, rfl⟩ | ⟨c, rfl, -⟩ |
      ⟨s, rfl, -⟩
    · rcases hk' with rfl | rfl <;> cases hk
    · cases hk
    · -- a boolean orders against numbers and booleans only
      cases hb : valueNum v with
      | some b =>
        exact .inl (ordered_of_eq (a := .int (if c then 1 else 0)) trivial
          (valueNum_ordered hnull hb) fun op => by
            simp only [mixedTest, hnull, hx, hb, Bool.or_false, Bool.false_eq_true, if_false]
            rfl)
      | none =>
        right
        intro op hop
        simp only [mixedTest, hnull, hx, hb, Bool.or_false, Bool.false_eq_true, if_false]
        exact unequal_error hop _
    · -- a text orders against texts only
      cases v with
      | str t =>
        left
        refine ⟨Text.compareLex s.points t.points, fun op => ?_⟩
        simp only [mixedTest, hnull, hx, Bool.or_false, Bool.false_eq_true, if_false]
        rfl
      | int _ | float _ | bool _ =>
        right
        intro op hop
        simp only [mixedTest, hnull, hx, Bool.or_false, Bool.false_eq_true, if_false]
        exact unequal_error hop _
      | null => cases hnull
      | arr _ | obj _ => cases hv

theorem cellTest_missing {kind : Kind} {x : Cell} {v : Value} (hx : x.isMissing = true)
    (hv : v.isScalar = true) (op : Op) : cellTest kind op x v = .ok (op == .ne) := by
  cases v with
  | arr _ | obj _ => cases hv
  | null =>
    simp only [cellTest, numericTest, mixedTest, isNullValue, if_true, Bool.true_or, ite_self]
  | str _ | int _ | bool _ | float _ =>
    simp only [cellTest, numericTest, mixedTest, valueNum, hx, if_true, Bool.or_true, ite_self]

theorem op_test_order_complement {op op' : Op}
    (hop : op = .lt ∧ op' = .ge ∨ op = .gt ∧ op' = .le) (o : Ordering) : op'.test (some o) = !op.test (some o) := by
  rcases hop with ⟨rfl, rfl⟩ | ⟨rfl, rfl⟩ <;> cases o <;> rfl

/-- Of `lt` and `ge`, or of `gt` and `le`, that both answer a cell that fits its column against a
value that is neither null nor NaN: a present cell satisfies exactly one, a missing cell neither. -/
theorem cellTest_complement {op op' : Op} (hop : op = .lt ∧ op' = .ge ∨ op = .gt ∧ op' = .le)
    {kind : Kind} {x : Cell} {v : Value} (hfit : x.fitsKind kind = true)
    (hnull : isNullValue v = false) (hv : v.isScalar = true) {b b' : Bool}
    (h : cellTest kind op x v = .ok b) (h' : cellTest kind op' x v = .ok b') :
    b = (!x.isMissing && b) ∧ b' = (!x.isMissing && !b) := by
  have horders : op.orders = true := by rcases hop with ⟨rfl, -⟩ | ⟨rfl, -⟩ <;> rfl
  cases hx : x.isMissing with
  | true =>
    rw [cellTest_missing hx hv] at h h'
    cases h
    cases h'
    rcases hop with ⟨rfl, rfl⟩ | ⟨rfl, rfl⟩ <;> exact ⟨rfl, rfl⟩
  | false =>
    rcases cellTest_present hfit hx hnull hv with ⟨o, ho⟩ | hrefuse
    · rw [ho] at h h'
      cases h
      cases h'
      simp only [op_test_order_complement hop, Bool.not_false, Bool.true_and, and_self]
    · obtain ⟨e, he⟩ := hrefuse op horders
      rw [he] at h
      cases h

/-! ## Columns and rules -/

theorem mapM_ok_of_mem {ε α β : Type} {f : α → Except ε β} {xs : List α} {ys : List β}
    (h : xs.mapM f = .ok ys) {x : α} (hx : x ∈ xs) : ∃ y, f x = .ok y := by
  have hall := mapM_eq_ok_iff.1 h
  clear h
  induction hall with
  | nil => cases hx
  | cons hxy _ ih =>
    rcases List.mem_cons.1 hx with rfl | hx
    · exact ⟨_, hxy⟩
    · exact ih hx

theorem compareColumn_cells_ok {c : Column} {op : Op} {v : Value} {mask : List Bool}
    (hop : op.orders = true) (hv : v.isScalar = true) (h : compareColumn c op v = .ok mask) :
    ∀ x ∈ c.cells.toList, ∃ b, cellTest c.kind op x v = .ok b := by
  have hcells : ∀ (g : Cell → Except Fault Bool), c.cells.toList.mapM g = .ok mask →
      ∀ x ∈ c.cells.toList, ∃ b, g x = .ok b :=
    fun _ hg _ hx => mapM_ok_of_mem hg hx
  cases v with
  | arr _ | obj _ => cases hv
  | str s =>
    cases hk : c.kind.isNumeric with
    | true =>
      -- a number column refuses to order a text at once
      simp only [compareColumn, hk, if_true] at h
      cases op with
      | eq | ne => cases hop
      | gt | ge | lt | le => cases h
    | false =>
      simp only [compareColumn, hk, Bool.false_eq_true, if_false] at h
      intro x hx
      simpa [cellTest, hk] using hcells _ h x hx
  | int n =>
    simp only [compareColumn] at h
    split at h
    · cases h
    · exact hcells _ h
  | null | bool _ | float _ => exact hcells _ h

/-- A comparison rule that completes on a frame whose key picks one column keeps the rows of the
column's comparison with the value, as the column's kind reads it. -/
theorem Rule.apply_compare_ok {f : Frame} {key : Value} {name : Text} {c : Column} {op : Op}
    {v : Value} {t : Table} (hpick : f.pickBy key = .ok (.column name c))
    (h : Rule.apply (.frame f) ⟨key, .compare op, v⟩ = .ok t) :
    ∃ mask, compareColumn c op (c.kind.ruleValue v) = .ok mask ∧
      t = .frame (f.keepRows mask) := by
  cases hc : compareColumn c op (c.kind.ruleValue v) with
  | ok mask =>
    rw [Rule.apply_compare_of_ok hpick hc] at h
    exact ⟨mask, rfl, (Except.ok.inj h).symm⟩
  | error e =>
    rw [Rule.apply_compare_of_error hpick hc] at h
    cases h

/-- Keeping the rows by a verdict on each cell of a column as long as the frame keeps the rows
whose cell the verdict passes. -/
theorem keepRows_map_cells {f : Frame} {c : Column} (hsize : c.cells.size = f.height)
    (g : Cell → Bool) :
    f.keepRows (c.cells.toList.map g) = f.keepWhere fun i => g (cellAt c i) := by
  rw [Frame.keepRows_eq_keepWhere]
  refine Frame.keepWhere_congr f fun i hi => ?_
  have hi' : i < c.cells.toList.length := by rw [Array.length_toList, hsize]; exact hi
  rw [List.getD_eq_getElem _ _ (by rw [List.length_map]; exact hi'), List.getElem_map,
    Array.getElem_toList, cellAt, Array.getD_eq_getD_getElem?,
    Array.getElem?_eq_getElem (by rw [hsize]; exact hi), Option.getD_some]

theorem cellAt_mem_of_lt {c : Column} {i : Nat} (hi : i < c.cells.size) :
    cellAt c i ∈ c.cells.toList := by
  rw [cellAt, Array.getD_eq_getD_getElem?, Array.getElem?_eq_getElem hi, Option.getD_some]
  exact Array.getElem_mem_toList hi

section Complements

variable {f : Frame} {key : Value} {name : Text} {c : Column}

/-- `lt` and `ge`, or `gt` and `le`, that both complete keep the rows with a present cell between
them: the rows where a test `p` holds, and the others. -/
theorem order_rules_split_present (hsize : c.cells.size = f.height) (htyped : c.Typed)
    (hpick : f.pickBy key = .ok (.column name c)) {v : Value} (hv : v.isScalar = true)
    (hnull : isNullValue (c.kind.ruleValue v) = false) {op op' : Op}
    (hop : op = .lt ∧ op' = .ge ∨ op = .gt ∧ op' = .le) {t t' : Table}
    (h : Rule.apply (.frame f) ⟨key, .compare op, v⟩ = .ok t)
    (h' : Rule.apply (.frame f) ⟨key, .compare op', v⟩ = .ok t') :
    ∃ p : Nat → Bool, t = .frame (f.keepWhere fun i => !(cellAt c i).isMissing && p i) ∧
      t' = .frame (f.keepWhere fun i => !(cellAt c i).isMissing && !p i) := by
  have hv' := c.kind.ruleValue_isScalar hv
  have horders : op.orders = true ∧ op'.orders = true := by
    rcases hop with ⟨rfl, rfl⟩ | ⟨rfl, rfl⟩ <;> exact ⟨rfl, rfl⟩
  obtain ⟨mask, hmask, rfl⟩ := Rule.apply_compare_ok hpick h
  obtain ⟨mask', hmask', rfl⟩ := Rule.apply_compare_ok hpick h'
  have hok := compareColumn_cells_ok horders.1 hv' hmask
  have hok' := compareColumn_cells_ok horders.2 hv' hmask'
  rw [compareColumn_eq_ok hv' hmask, compareColumn_eq_ok hv' hmask', keepRows_map_cells hsize,
    keepRows_map_cells hsize]
  refine ⟨fun i => verdictOf (cellTest c.kind op (cellAt c i) (c.kind.ruleValue v)), ?_, ?_⟩
  all_goals
    congr 1
    refine Frame.keepWhere_congr f fun i hi => ?_
    have hmem := cellAt_mem_of_lt (c := c) (hsize ▸ hi)
    obtain ⟨b, hb⟩ := hok _ hmem
    obtain ⟨b', hb'⟩ := hok' _ hmem
    have hsplit := cellTest_complement hop (htyped _ hmem) hnull hv' hb hb'
    simp only [hb, hb', verdictOf_ok]
  · exact hsplit.1
  · exact hsplit.2

theorem equality_rules_complement (hsize : c.cells.size = f.height)
    (hpick : f.pickBy key = .ok (.column name c)) {v : Value} (hv : v.isScalar = true)
    {t t' : Table} (h : Rule.apply (.frame f) ⟨key, .compare .eq, v⟩ = .ok t)
    (h' : Rule.apply (.frame f) ⟨key, .compare .ne, v⟩ = .ok t') :
    ∃ p : Nat → Bool, t = .frame (f.keepWhere p) ∧ t' = .frame (f.keepWhere fun i => !p i) := by
  have hv' := c.kind.ruleValue_isScalar hv
  obtain ⟨mask, hmask, rfl⟩ := Rule.apply_compare_ok hpick h
  obtain ⟨mask', hmask', rfl⟩ := Rule.apply_compare_ok hpick h'
  refine ⟨fun i => (Test.compare .eq).keepsCell c.kind (c.kind.ruleValue v) (cellAt c i),
    ?_, ?_⟩
  · rw [compareColumn_eq_ok hv' hmask, keepRows_map_cells hsize]
    rfl
  · rw [compareColumn_eq_ok hv' hmask', keepRows_map_cells hsize]
    congr 2
    funext i
    exact keepsCell_ne _ _ _

end Complements

/-- On a frame whose columns fit their kinds and have the frame's rows, with a key that picks one
column `c` and a scalar value `v`: the rules `(c, eq, v)` and `(c, ne, v)`, whenever both complete,
keep complementary sets of rows; and when `v` as the column reads it is neither null nor NaN, the
rules `(c, lt, v)` and `(c, ge, v)`, and likewise `(c, gt, v)` and `(c, le, v)`, whenever both
complete, keep disjoint sets of rows whose union is the rows with a present cell in `c`. -/
theorem compare_rules_keep_complements {f : Frame} (hrect : f.Rectangular)
    (htyped : f.All Column.Typed) {key : Value} {name : Text} {c : Column}
    (hpick : f.pickBy key = .ok (.column name c)) {v : Value} (hv : v.isScalar = true) :
    (∀ t t', Rule.apply (.frame f) ⟨key, .compare .eq, v⟩ = .ok t →
      Rule.apply (.frame f) ⟨key, .compare .ne, v⟩ = .ok t' →
      ∃ p : Nat → Bool, t = .frame (f.keepWhere p) ∧ t' = .frame (f.keepWhere fun i => !p i)) ∧
    (isNullValue (c.kind.ruleValue v) = false →
      (∀ t t', Rule.apply (.frame f) ⟨key, .compare .lt, v⟩ = .ok t →
        Rule.apply (.frame f) ⟨key, .compare .ge, v⟩ = .ok t' →
        ∃ p : Nat → Bool, t = .frame (f.keepWhere fun i => !(cellAt c i).isMissing && p i) ∧
          t' = .frame (f.keepWhere fun i => !(cellAt c i).isMissing && !p i)) ∧
      (∀ t t', Rule.apply (.frame f) ⟨key, .compare .gt, v⟩ = .ok t →
        Rule.apply (.frame f) ⟨key, .compare .le, v⟩ = .ok t' →
        ∃ p : Nat → Bool, t = .frame (f.keepWhere fun i => !(cellAt c i).isMissing && p i) ∧
          t' = .frame (f.keepWhere fun i => !(cellAt c i).isMissing && !p i))) := by
  have hmem := Frame.mem_of_pickBy_column hpick
  have hsize : c.cells.size = f.height := hrect _ hmem
  have hc : c.Typed := htyped _ hmem
  refine ⟨fun t t' h h' => equality_rules_complement hsize hpick hv h h', fun hnull => ⟨?_, ?_⟩⟩
  · exact fun t t' h h' =>
      order_rules_split_present hsize hc hpick hv hnull (.inl ⟨rfl, rfl⟩) h h'
  · exact fun t t' h h' =>
      order_rules_split_present hsize hc hpick hv hnull (.inr ⟨rfl, rfl⟩) h h'

/-- The table `a,b / 1,x / ,y / 3,z`: a number column with a blank, and a text column. -/
def complementSampleCsv : List UInt8 := "a,b\n1,x\n,y\n3,z\n".toUTF8.toList

def complementSampleFrame : Frame := (Csv.readTable complementSampleCsv).toOption.getD default

def complementSampleColumn : Column := (complementSampleFrame.columns.toList.headD default).2

def complementSampleRule (op : Op) : Rule := ⟨.str (Text.ofString "a"), .compare op, .int 2⟩

theorem compare_rules_keep_complements_sample :
    Csv.readTable complementSampleCsv = .ok complementSampleFrame ∧
    complementSampleFrame.pickBy (.str (Text.ofString "a")) =
      .ok (.column (Text.ofString "a") complementSampleColumn) ∧
    (∀ t t', (complementSampleRule .eq).apply (.frame complementSampleFrame) = .ok t →
      (complementSampleRule .ne).apply (.frame complementSampleFrame) = .ok t' →
      ∃ p : Nat → Bool, t = .frame (complementSampleFrame.keepWhere p) ∧
        t' = .frame (complementSampleFrame.keepWhere fun i => !p i)) ∧
    (∀ t t', (complementSampleRule .lt).apply (.frame complementSampleFrame) = .ok t →
      (complementSampleRule .ge).apply (.frame complementSampleFrame) = .ok t' →
      ∃ p : Nat → Bool,
        t = .frame (complementSampleFrame.keepWhere fun i =>
          !(cellAt complementSampleColumn i).isMissing && p i) ∧
        t' = .frame (complementSampleFrame.keepWhere fun i =>
          !(cellAt complementSampleColumn i).isMissing && !p i)) ∧
    (∀ t t', (complementSampleRule .gt).apply (.frame complementSampleFrame) = .ok t →
      (complementSampleRule .le).apply (.frame complementSampleFrame) = .ok t' →
      ∃ p : Nat → Bool,
        t = .frame (complementSampleFrame.keepWhere fun i =>
          !(cellAt complementSampleColumn i).isMissing && p i) ∧
        t' = .frame (complementSampleFrame.keepWhere fun i =>
          !(cellAt complementSampleColumn i).isMissing && !p i)) := by
  have hload : Csv.readTable complementSampleCsv = .ok complementSampleFrame :=
    eq_ok_getD (by decide +kernel)
  -- the first column is named `a`, and no other column is
  have hcols : complementSampleFrame.columns.toList ≠ [] := by decide +kernel
  have hname : (complementSampleFrame.columns.toList.headD default).1 = Text.ofString "a" := by
    decide +kernel
  have hcol : complementSampleFrame.columns[0]? =
      some (Text.ofString "a", complementSampleColumn) := by
    obtain ⟨p, ps, hps⟩ := List.exists_cons_of_ne_nil hcols
    rw [← Array.getElem?_toList, ← hname, complementSampleColumn, hps]
    rfl
  have hpick : complementSampleFrame.pickBy (.str (Text.ofString "a")) =
      .ok (.column (Text.ofString "a") complementSampleColumn) :=
    (Frame.pickBy_eq_column rfl).2 ⟨0, by decide +kernel, hcol⟩
  have htyped : complementSampleFrame.All Column.Typed :=
    fun p hp => (Csv.readTable_shaped hload p hp).typed
  obtain ⟨heq, horder⟩ :=
    compare_rules_keep_complements (Csv.readTable_rectangular hload) htyped hpick (v := .int 2) rfl
  exact ⟨hload, hpick, heq, horder (complementSampleColumn.kind.ruleValue_int_isNull 2)⟩

end Tabula.Query
