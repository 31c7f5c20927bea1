import Tabula.Proofs.DoubleOrder
import Tabula.Proofs.FilterStage

/-!
The classes of cells that compare with each other, and their order. A column read from text holds
present cells of one class: integers, doubles that are not NaN, booleans or texts, and missing
cells (`Column.Shaped.oneClass`). Between present cells of one class the comparison of the sort is
`classOrder`, a lexicographic product of keys and so a total preorder (`cellOrder_eq_classOrder`),
and it says a cell comes no later than another exactly when the cells are in their natural order
(`naturalLE_iff`). Selection, filters and sorting only pick rows and blank cells, so they keep every
property of columns that picking and blanking keep (`StageInvariant`); holding cells of one class
is one, so every table the filters hand on has columns of one class each
(`Query.filterStage_oneClass`).
-/

open Float.Model

namespace Tabula

/-! ## Cells -/

/-- The classes of present cells that compare with each other. -/
inductive OrderClass where
  | integer
  | double
  | boolean
  | text
  deriving DecidableEq

/-- The class of a present cell. A missing cell, NaN, an array or a tuple has none. -/
def Cell.orderClass : Cell → Option OrderClass
  | .int _ => some .integer
  | .float x => if x.isNaN then none else some .double
  | .bool _ => some .boolean
  | .text _ => some .text
  | _ => none

def Cell.InClass (k : OrderClass) (x : Cell) : Prop := x.isMissing = true ∨ x.orderClass = some k

/-- The present cells of the column are all of one class. -/
def Column.OneClass (c : Column) : Prop := ∃ k, ∀ x ∈ c.cells.toList, x.InClass k

def Cell.numberKey : Cell → Int
  | .int n => n
  | .bool b => if b then 1 else 0
  | _ => 0

def Cell.unpackedKey : Cell → UnpackedFloat
  | .float x => unpacked x
  | _ => .zero .positive

def Cell.textKey : Cell → List Nat
  | .text s => s.points
  | _ => []

theorem transCmp_comap {α β : Type} (cmp : β → β → Ordering) [Std.TransCmp cmp] (f : α → β) :
    Std.TransCmp (fun a b => cmp (f a) (f b)) where
  eq_swap := Std.OrientedCmp.eq_swap
  isLE_trans := Std.TransCmp.isLE_trans

/-- One order for the cells of every class: integers and booleans by value, doubles by their
place on the line, texts by code points. -/
def classOrder : Cell → Cell → Ordering :=
  compareLex (compareOn Cell.numberKey)
    (compareLex (fun a b => unpackedCmp a.unpackedKey b.unpackedKey) (compareOn Cell.textKey))

instance : Std.TransCmp classOrder := by
  have := transCmp_comap unpackedCmp Cell.unpackedKey
  unfold classOrder
  infer_instance

theorem compareLex_eq_compare (xs ys : List Nat) : Text.compareLex xs ys = compare xs ys := by
  induction xs generalizing ys with
  | nil => cases ys <;> rfl
  | cons a as ih =>
    cases ys with
    | nil => rfl
    | cons b bs =>
      rw [List.compare_cons_cons, ← ih bs, Text.compareLex]
      rcases Nat.lt_trichotomy a b with h | rfl | h
      · simp [h, Nat.compare_eq_lt.2 h]
      · simp
      · simp [h, Nat.not_lt.2 (Nat.le_of_lt h), Nat.compare_eq_gt.2 h]

theorem unpackedCmp_zero : unpackedCmp (.zero .positive) (.zero .positive) = .eq := rfl

theorem cellOrder_eq_classOrder {a b : Cell} (ha : a.orderClass.isSome)
    (hab : a.orderClass = b.orderClass) : Query.cellOrder a b = classOrder a b := by
  cases a <;> cases b <;> simp_all [Cell.orderClass, Query.cellOrder, Query.cellNum,
    Query.Num.compare?, classOrder, compareLex, compareOn, Cell.numberKey, Cell.unpackedKey,
    Cell.textKey, compareFloats_eq, compareLex_eq_compare, unpackedCmp_zero]

theorem classOrder_missing {a b : Cell} (ha : a.isMissing = true) (hb : b.isMissing = true) :
    classOrder a b = .eq := by
  cases a <;> cases b <;> simp_all [Cell.isMissing, classOrder, compareLex, compareOn,
    Cell.numberKey, Cell.unpackedKey, Cell.textKey, unpacked_of_isNaN] <;> rfl

theorem Column.OneClass.getD {c : Column} {k : OrderClass}
    (h : ∀ x ∈ c.cells.toList, x.InClass k) (i : Nat) : (c.cells.getD i .missing).InClass k := by
  by_cases hi : i < c.cells.size
  · rw [Array.getD_eq_getD_getElem?, Array.getElem?_eq_getElem hi, Option.getD_some]
    exact h _ (Array.getElem_mem_toList hi)
  · rw [Array.getD_eq_getD_getElem?, Array.getElem?_eq_none (by omega), Option.getD_none]
    exact .inl rfl

/-! ## The natural order -/

/-- The natural order of two present cells of one class: integers by value, doubles as
floating-point comparison orders them, booleans with false first, texts by code points. Cells of
different classes do not compare; a column never mixes classes. -/
def Cell.NaturalLE : Cell → Cell → Prop
  | .int a, .int b => a ≤ b
  | .float x, .float y => x ≤ y
  | .bool a, .bool b => a ≤ b
  | .text s, .text t => s.points ≤ t.points
  | _, _ => False

theorem isLE_compare_iff_not_lt (xs ys : List Nat) : (compare xs ys).isLE ↔ ¬ ys < xs := by
  induction xs generalizing ys with
  | nil => simp [List.isLE_compare_nil_left]
  | cons a as ih =>
    cases ys with
    | nil => simp
    | cons b bs =>
      rw [List.compare_cons_cons, Ordering.isLE_then_iff_and, List.cons_lt_cons_iff, ih]
      rcases Nat.lt_trichotomy a b with h | rfl | h
      · simp [Nat.compare_eq_lt.2 h, Nat.not_lt.2 (Nat.le_of_lt h), Nat.ne_of_gt h]
      · simp
      · simp [Nat.compare_eq_gt.2 h, h]

theorem isLE_compare_iff_le (xs ys : List Nat) : (compare xs ys).isLE ↔ xs ≤ ys := by
  rw [← not_lt]
  exact isLE_compare_iff_not_lt xs ys

theorem naturalLE_iff {a b : Cell} (ha : a.orderClass.isSome) (hab : a.orderClass = b.orderClass) :
    a.NaturalLE b ↔ (classOrder a b).isLE := by
  cases a <;> cases b <;> simp_all [Cell.orderClass, Cell.NaturalLE, classOrder, compareLex,
    compareOn, Cell.numberKey, Cell.unpackedKey, Cell.textKey, float_le_iff_isLE, unpackedCmp_zero,
    isLE_compare_iff_le, Int.isLE_compare]
  case bool.bool a b => cases a <;> cases b <;> decide

/-! ## Column properties the stages keep -/

def Frame.All (P : Column → Prop) (g : Frame) : Prop := ∀ p ∈ g.columns.toList, P p.2

/-- A frame whose columns all have `P`, or a single column. -/
def Table.All (P : Column → Prop) : Table → Prop
  | .frame g => g.All P
  | .series _ _ _ => True

/-- A property of columns that picking rows and blanking cells keep. Selection, filters and
sorting only pick rows and columns and blank cells, so every table they hand on has it when the
loaded frame does (`Query.filterStage_all`, `Query.applySorting_all`). -/
structure StageInvariant (P : Column → Prop) : Prop where
  pick : ∀ c rows, P c → P (c.pick rows)
  blankFrame : ∀ g masks, g.All P → (Query.blankFrame g masks).All P

theorem Frame.All.take {P : Column → Prop} {g : Frame} (h : g.All P) (ps : List Nat) :
    (g.take ps).All P := by
  intro p hp
  simp only [Frame.take, List.toList_toArray, List.mem_filterMap] at hp
  obtain ⟨i, -, hi⟩ := hp
  exact h p (Array.mem_toList_iff.2 (Array.mem_of_getElem? hi))

section StageInvariant

variable {P : Column → Prop} (hP : StageInvariant P)
include hP

theorem Frame.All.pick {g : Frame} (h : g.All P) (rows : List Nat) : (g.pick rows).All P := by
  by_cases hr : rows = List.range g.height
  · rwa [g.pick_of_eq_range hr]
  · rw [g.pick_of_ne_range hr]
    intro p hp
    simp only [Array.toList_map, List.mem_map] at hp
    obtain ⟨q, hq, rfl⟩ := hp
    exact hP.pick _ rows (h q hq)

open Query in
theorem filterPicked_all {f g : Frame} {pick : Pick} {r : Rule} {value : Json.Value}
    {parts : List Text} (hf : f.All P) (h : filterPicked f pick r value parts = .ok g) :
    g.All P := by
  cases pick with
  | column name c =>
    obtain ⟨mask, -, h⟩ := bind_eq_ok.1 h
    cases h
    exact hf.pick hP _
  | columns ps =>
    obtain ⟨masks, -, h⟩ := bind_eq_ok.1 h
    cases h
    exact hP.blankFrame _ _ hf
  | rows kept =>
    obtain ⟨masks, -, h⟩ := bind_eq_ok.1 h
    cases h
    exact hP.blankFrame _ _ hf

open Query in
theorem Rule.apply_all {t t' : Table} {r : Rule} (ht : t.All P) (h : r.apply t = .ok t') :
    t'.All P := by
  cases t with
  | series name c ls =>
    obtain ⟨_, _, _, rfl⟩ := Rule.apply_series h
    trivial
  | frame f =>
    by_cases hi : r.test = .ignored
    · rw [Rule.apply_ignored hi] at h
      cases h
      exact ht
    rw [Rule.apply_eq hi] at h
    obtain ⟨parts, -, h⟩ := bind_eq_ok.1 h
    obtain ⟨pick, -, h⟩ := bind_eq_ok.1 h
    obtain ⟨g, hg, h⟩ := bind_eq_ok.1 h
    cases h
    exact filterPicked_all hP ht hg

open Query in
theorem foldlM_filterStep_all {items : List Json.Value} {t t' : Table} (ht : t.All P)
    (h : items.foldlM filterStep t = .ok t') : t'.All P := by
  induction items generalizing t with
  | nil =>
    cases h
    exact ht
  | cons item items ih =>
    rw [List.foldlM_cons] at h
    obtain ⟨t₁, h₁, h⟩ := bind_eq_ok.1 h
    obtain ⟨r, -, h₁⟩ := bind_eq_ok.1 h₁
    exact ih (Rule.apply_all hP ht h₁) h

open Query in
theorem applyFilters_all {t t' : Table} {rules : Json.Value} (ht : t.All P)
    (h : applyFilters t rules = .ok t') : t'.All P := by
  rw [applyFilters_eq] at h
  obtain ⟨items, -, h⟩ := bind_eq_ok.1 h
  exact foldlM_filterStep_all hP ht h

theorem Frame.select_all {f : Frame} {key : Json.Value} {t : Table} (hf : f.All P)
    (h : f.select key = .ok t) : t.All P := by
  unfold Frame.select at h
  obtain ⟨pick, -, h⟩ := Query.bind_eq_ok.1 h
  cases pick <;> cases h
  · trivial
  · exact hf.take _
  · exact hf.pick hP _

end StageInvariant

namespace Query

open Json

def filterStage (config : Value) (f : Frame) : Except Stop Table := do
  let t ← selectStage config f
  let rules ← lift (index config "filters")
  applyFilters t rules

theorem runQuery_eq_filterStage (config : Value) (f : Frame) :
    runQuery config f = filterStage config f >>= finalStages config := by
  rw [runQuery_eq_stages]
  simp only [filterStage, bind_assoc]

variable {P : Column → Prop}

theorem filterStage_all (hP : StageInvariant P) {config : Value} {f : Frame} {t : Table}
    (hf : f.All P) (h : filterStage config f = .ok t) : t.All P := by
  obtain ⟨t₀, h₀, h⟩ := bind_eq_ok.1 h
  obtain ⟨rules, -, h⟩ := bind_eq_ok.1 h
  refine applyFilters_all hP ?_ h
  obtain ⟨sel, -, h₀⟩ := bind_eq_ok.1 h₀
  split at h₀
  · exact Frame.select_all hP hf (lift_eq_ok.1 h₀)
  · cases h₀
    exact hf

theorem applySorting_all (hP : StageInvariant P) {t t' : Table} {rules : Value} (ht : t.All P)
    (h : applySorting t rules = .ok t') : t'.All P := by
  unfold applySorting at h
  obtain ⟨rs, -, h⟩ := bind_eq_ok.1 h
  obtain ⟨read, -, h⟩ := bind_eq_ok.1 h
  cases t with
  | series => cases h
  | frame f =>
    obtain ⟨dirs, -, h⟩ := bind_eq_ok.1 h
    obtain ⟨cols, -, h⟩ := bind_eq_ok.1 h
    cases h
    exact Frame.All.pick hP ht _

end Query

/-! ## Tables whose columns hold one class each -/

def Frame.OneClass (g : Frame) : Prop := ∀ p ∈ g.columns.toList, p.2.OneClass

theorem Column.Shaped.oneClass {c : Column} (h : c.Shaped) : c.OneClass := by
  cases hk : c.kind
  · refine ⟨.integer, fun x hx => ?_⟩
    obtain ⟨n, rfl, -⟩ := h.ints hk x hx
    exact .inr rfl
  · refine ⟨.integer, fun x hx => ?_⟩
    obtain ⟨n, rfl⟩ := h.uints hk x hx
    exact .inr rfl
  · refine ⟨.double, fun x hx => ?_⟩
    obtain ⟨y, rfl⟩ := h.floats hk x hx
    cases hy : y.isNaN
    · exact .inr (by simp only [Cell.orderClass, hy, Bool.false_eq_true, if_false])
    · exact .inl hy
  · refine ⟨.boolean, fun x hx => ?_⟩
    obtain ⟨b, rfl⟩ := h.bools hk x hx
    exact .inr rfl
  · rcases h.mixed hk with htexts | hbools
    · refine ⟨.text, fun x hx => ?_⟩
      rcases htexts x hx with rfl | ⟨t, rfl⟩
      · exact .inl rfl
      · exact .inr rfl
    · refine ⟨.boolean, fun x hx => ?_⟩
      rcases hbools x hx with rfl | ⟨b, rfl⟩
      · exact .inl rfl
      · exact .inr rfl

theorem Column.OneClass.pick {c : Column} (h : c.OneClass) (rows : List Nat) :
    (c.pick rows).OneClass := by
  obtain ⟨k, hk⟩ := h
  refine ⟨k, fun x hx => ?_⟩
  rw [Column.pick_cells, List.mem_map] at hx
  obtain ⟨i, -, rfl⟩ := hx
  exact Column.OneClass.getD hk i

theorem blankCell_isMissing (k : Kind) : (Query.blankCell k).isMissing = true := by
  cases k <;> rfl

theorem Column.OneClass.widen {c : Column} (h : c.OneClass) : (Query.widen c).OneClass := by
  obtain ⟨k, hk⟩ := h
  unfold Query.widen
  split
  -- the integer kinds: integers become doubles, so a column of integers becomes one of doubles
  case h_1 | h_2 =>
    refine ⟨if k = .integer then .double else k, fun y hy => ?_⟩
    rw [Array.toList_map, List.mem_map] at hy
    obtain ⟨x, hx, rfl⟩ := hy
    rcases hk x hx with hm | hc
    · cases x <;> simp_all [Cell.InClass, Cell.isMissing]
    · clear hk hx
      cases x with
      | int n =>
        cases hc
        cases hn : (Float.ofInt n).isNaN
        · exact .inr (by simp only [Cell.orderClass, hn, Bool.false_eq_true, if_false, if_true])
        · exact .inl hn
      | float y =>
        obtain ⟨hy, rfl⟩ : y.isNaN = false ∧ OrderClass.double = k := by
          simpa [Cell.orderClass] using hc
        exact .inr (by simp only [Cell.orderClass, hy, Bool.false_eq_true, if_false, ite_self])
      | bool b =>
        cases hc
        exact .inr rfl
      | text s =>
        cases hc
        exact .inr rfl
      | missing | array _ _ | tuple _ => cases hc
  case h_3 | h_4 => exact ⟨k, hk⟩

theorem Column.OneClass.blank {w : Column} (hw : w.OneClass) (m : List Bool) :
    (⟨w.kind, ((w.cells.toList.zip m).map fun x => if x.2 then x.1 else Query.blankCell w.kind).toArray⟩ :
      Column).OneClass := by
  obtain ⟨k, hk⟩ := hw
  refine ⟨k, fun y hy => ?_⟩
  rw [List.toList_toArray, List.mem_map] at hy
  obtain ⟨⟨x, keep⟩, hx, rfl⟩ := hy
  cases keep
  · exact .inl (blankCell_isMissing _)
  · exact hk x (List.of_mem_zip hx).1

theorem Frame.OneClass.blankFrame {g : Frame} (h : g.OneClass) (masks : List (List Bool)) :
    (Query.blankFrame g masks).OneClass := by
  intro p hp
  simp only [Query.blankFrame, List.toList_toArray, List.mem_map] at hp
  obtain ⟨⟨⟨n, c⟩, m⟩, hq, rfl⟩ := hp
  have hc : c.OneClass := h _ (List.of_mem_zip hq).1
  dsimp only
  split
  · exact hc.widen.blank m
  · exact hc.blank m

theorem oneClass_stageInvariant : StageInvariant Column.OneClass where
  pick _ rows h := h.pick rows
  blankFrame _ masks h := Frame.OneClass.blankFrame h masks

def Table.OneClass : Table → Prop
  | .frame g => g.OneClass
  | .series _ _ _ => True

theorem Csv.readTable_oneClass {bytes : List UInt8} {f : Frame} (h : Csv.readTable bytes = .ok f) :
    f.OneClass :=
  fun p hp => (Csv.readTable_shaped h p hp).oneClass

theorem Query.filterStage_oneClass {config : Json.Value} {f : Frame} {t : Table} (hf : f.OneClass)
    (h : Query.filterStage config f = .ok t) : t.OneClass := by
  have ht := Query.filterStage_all oneClass_stageInvariant hf h
  cases t with
  | frame g => exact ht
  | series => trivial

end Tabula
