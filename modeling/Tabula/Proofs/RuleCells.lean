import Mathlib.Data.List.Forall2
import Tabula.Proofs.ProcessAnswer

/-!
A filter rule on a frame whose key picks one column. The rule's value is first read as the
column's kind asks (`Kind.ruleValue`: on 64-bit integers and doubles a value that reads as a number
becomes that double), and each cell is then judged on its own (`Test.keepsCell`). When such a rule
completes it keeps exactly the rows whose cell its test keeps (`Rule.apply_column_ok`). Values are
JSON scalars here: a list is compared item by item against the rows, not cell by cell.
-/

def Tabula.Json.Value.isScalar : Tabula.Json.Value → Bool
  | .arr _ | .obj _ => false
  | _ => true

namespace Tabula

open Json

theorem Kind.ruleValue_isScalar (kind : Kind) {v : Value} (hv : v.isScalar = true) :
    (kind.ruleValue v).isScalar = true := by
  unfold Kind.ruleValue
  split
  · split
    · rfl
    · exact hv
  · exact hv

end Tabula

namespace Tabula.Query

open Json

/-! ## Traversals that succeed -/

theorem mapM_eq_ok_iff {ε α β : Type} {f : α → Except ε β} {xs : List α} {ys : List β} :
    xs.mapM f = .ok ys ↔ List.Forall₂ (fun x y => f x = .ok y) xs ys := by
  induction xs generalizing ys with
  | nil => cases ys <;> simp [pure, Except.pure]
  | cons x xs ih =>
    rw [List.mapM_cons]
    cases hx : f x with
    | error e => cases ys <;> simp [bind, Except.bind, hx]
    | ok y =>
      cases hrest : xs.mapM f with
      | error e => cases ys <;> simp [bind, Except.bind, hx, ← ih, hrest]
      | ok zs => cases ys <;> simp [bind, Except.bind, pure, Except.pure, hx, ← ih, hrest]

theorem mapM_eq_ok_of_forall {ε α β : Type} {f : α → Except ε β} {g : α → β} {xs : List α}
    (h : ∀ x ∈ xs, f x = .ok (g x)) : xs.mapM f = .ok (xs.map g) := by
  induction xs with
  | nil => rfl
  | cons x xs ih =>
    rw [List.mapM_cons, h x List.mem_cons_self, ih fun y hy => h y (List.mem_cons_of_mem x hy)]
    rfl

def verdictOf {ε : Type} : Except ε Bool → Bool
  | .ok b => b
  | .error _ => false

@[simp] theorem verdictOf_ok {ε : Type} (b : Bool) : verdictOf (.ok b : Except ε Bool) = b := rfl

@[simp] theorem verdictOf_mapError {ε ε' : Type} (r : Except ε Bool) (g : ε → ε') :
    verdictOf (r.mapError g) = verdictOf r := by
  cases r <;> rfl

theorem mapM_eq_ok_map {ε α : Type} {f : α → Except ε Bool} {xs : List α} {ys : List Bool}
    (h : xs.mapM f = .ok ys) : ys = xs.map fun x => verdictOf (f x) := by
  have hall := mapM_eq_ok_iff.1 h
  clear h
  induction hall with
  | nil => rfl
  | cons hx _ ih => rw [List.map_cons, hx, verdictOf_ok, ih]

/-! ## The value and the cells -/

/-- Does the test keep a cell of a column of kind `kind`, `v` being the rule's value as the rule
uses it? The verdict reads nothing but these; a test that fails on the cell keeps it not. -/
def Test.keepsCell (test : Test) (kind : Kind) (v : Value) (x : Cell) : Bool :=
  match test with
  | .compare op => verdictOf (cellTest kind op x v)
  | .contains =>
    match compilePattern false v with
    | .ok p => verdictOf (p.search (cellPoints x))
    | .error _ => false
  | .regex =>
    match compilePattern true v with
    | .ok p => verdictOf (p.matchStart (cellPoints x))
    | .error _ => false
  | .isNull => x.isMissing
  | .notNull => !x.isMissing
  | .among =>
    match amongParts v, x with
    | .ok parts, .text s => parts.contains s
    | _, _ => false
  | .ignored => true

/-! ## Comparisons, cell by cell -/

private theorem cellTest_text_numeric {kind : Kind} {op : Op} {x : Cell} {s : Text}
    (hk : kind.isNumeric = true) :
    cellTest kind op x (.str s) = if x.isMissing then .ok (op == Op.ne)
      else unequal op (.invalidComparison kind.name "str") := by
  simp [cellTest, hk, numericTest, isNullValue, valueNum]

theorem numericTest_float_ok (kind : Kind) (op : Op) (y : Cell) (x : Float) :
    ∃ b, numericTest kind op y (.float x) = .ok b := by
  unfold numericTest
  split
  · exact ⟨_, rfl⟩
  · simp only [valueNum]
    split
    · exact ⟨_, rfl⟩
    · split <;> exact ⟨_, rfl⟩

theorem compareColumn_float {c : Column} (hk : c.kind.isNumeric = true) (op : Op) (x : Float) :
    compareColumn c op (.float x) =
      .ok (c.cells.toList.map fun y => verdictOf (numericTest c.kind op y (.float x))) := by
  simp only [compareColumn]
  refine mapM_eq_ok_of_forall fun y _ => ?_
  obtain ⟨b, hb⟩ := numericTest_float_ok c.kind op y x
  simp only [cellTest, hk, if_true, hb, verdictOf_ok]

theorem compareColumn_eq_ok {c : Column} {op : Op} {v : Value} {mask : List Bool}
    (hv : v.isScalar = true) (h : compareColumn c op v = .ok mask) :
    mask = c.cells.toList.map fun x => verdictOf (cellTest c.kind op x v) := by
  cases v with
  | arr xs | obj fs => cases hv
  | str s =>
    by_cases hk : c.kind.isNumeric = true
    · simp only [compareColumn, hk, if_true] at h
      cases op with
      | eq | ne =>
        cases h
        refine List.map_congr_left fun x _ => ?_
        rw [cellTest_text_numeric hk]
        split <;> rfl
      | gt | ge | lt | le => cases h
    · have hm : cellTest c.kind op = fun x v => mixedTest op x v := by
        funext x v
        simp [cellTest, hk]
      simp only [compareColumn, hk, Bool.false_eq_true, if_false] at h
      rw [hm]
      exact mapM_eq_ok_map h
  | int n =>
    simp only [compareColumn] at h
    split at h
    · cases h
    · exact mapM_eq_ok_map h
  | null | bool _ | float _ => exact mapM_eq_ok_map h

/-! ## A rule on one column -/

/-- The mask a test gives a column, with a scalar value and, for `in`, the parts of that value,
is the test's verdict on each cell. -/
theorem passes_eq_ok {c : Column} {test : Test} {v : Value} {parts : List Text}
    {mask : List Bool} (hv : v.isScalar = true)
    (hparts : test = .among → amongParts v = .ok parts)
    (h : passes c test v parts = .ok mask) :
    mask = c.cells.toList.map (test.keepsCell c.kind v) := by
  cases test with
  | compare op => exact compareColumn_eq_ok hv (lift_eq_ok.1 h)
  | contains =>
    obtain ⟨p, hp, hmask⟩ := bind_eq_ok.1 h
    rw [mapM_eq_ok_map hmask]
    simp [Test.keepsCell, hp]
  | regex =>
    obtain ⟨p, hp, hmask⟩ := bind_eq_ok.1 h
    rw [mapM_eq_ok_map hmask]
    simp [Test.keepsCell, hp]
  | isNull | notNull | ignored =>
    cases h
    rfl
  | among =>
    cases h
    refine List.map_congr_left fun x _ => ?_
    cases x <;> simp [Test.keepsCell, hparts rfl]

theorem Rule.usedValue_column {f : Frame} {r : Rule} {name : Text} {c : Column}
    (hpick : f.pickBy r.column = .ok (.column name c)) :
    r.usedValue (.frame f) = c.kind.ruleValue r.value := by
  simp only [Rule.usedValue, hpick]

/-- A rule that tests something, on a frame whose key picks one column: the rows its mask keeps,
the mask being the test's verdicts on the column, with the value as the column's kind reads it. -/
theorem Rule.apply_column_eq {f : Frame} {r : Rule} {name : Text} {c : Column}
    (hpick : f.pickBy r.column = .ok (.column name c)) (hi : r.test ≠ .ignored) :
    r.apply (.frame f) = r.parts (c.kind.ruleValue r.value) >>= fun parts =>
      passes c r.test (c.kind.ruleValue r.value) parts >>= fun mask =>
        pure (.frame (f.keepRows mask)) := by
  rw [Rule.apply_eq hi, Rule.usedValue_column hpick]
  congr 1
  funext parts
  simp only [Rule.onTable, hpick]
  rw [show (lift (.ok (Pick.column name c)) : Except Stop Pick) = pure (.column name c) from rfl,
    pure_bind]
  simp only [filterPicked, bind_assoc, pure_bind]

section OneColumn

variable {f : Frame} {key : Value} {name : Text} {c : Column} {op : Op} {v : Value}

/-- A comparison rule on a frame whose key picks one column completes with the mask of the
column's comparison with the value, as the column's kind reads the value, when that completes. -/
theorem Rule.apply_compare_of_ok {mask : List Bool} (hpick : f.pickBy key = .ok (.column name c))
    (h : compareColumn c op (c.kind.ruleValue v) = .ok mask) :
    Rule.apply (.frame f) ⟨key, .compare op, v⟩ = .ok (.frame (f.keepRows mask)) := by
  rw [@Rule.apply_column_eq f ⟨key, .compare op, v⟩ name c hpick (by intro h; cases h)]
  simp only [Rule.parts, pure_bind, passes, lift, h]
  rfl

/-- A comparison rule on a frame whose key picks one column stops with the fault of the column's
comparison when that fails. -/
theorem Rule.apply_compare_of_error {e : Fault} (hpick : f.pickBy key = .ok (.column name c))
    (h : compareColumn c op (c.kind.ruleValue v) = .error e) :
    Rule.apply (.frame f) ⟨key, .compare op, v⟩ = .error (.fault e) := by
  rw [@Rule.apply_column_eq f ⟨key, .compare op, v⟩ name c hpick (by intro h; cases h)]
  simp only [Rule.parts, pure_bind, passes, lift, h]
  rfl

end OneColumn

/-- A rule that tests something, with a scalar value, on a frame whose key picks one column: when
it completes, it keeps the rows whose cell its test keeps. -/
theorem Rule.apply_column_ok {f : Frame} {r : Rule} {name : Text} {c : Column} {t : Table}
    (hpick : f.pickBy r.column = .ok (.column name c)) (hv : r.value.isScalar = true)
    (hi : r.test ≠ .ignored) (h : r.apply (.frame f) = .ok t) :
    t = .frame (f.keepRows
      (c.cells.toList.map (r.test.keepsCell c.kind (c.kind.ruleValue r.value)))) := by
  rw [Rule.apply_column_eq hpick hi] at h
  obtain ⟨parts, hparts, h⟩ := bind_eq_ok.1 h
  obtain ⟨mask, hmask, h⟩ := bind_eq_ok.1 h
  cases h
  have hsome : r.test = .among → amongParts (c.kind.ruleValue r.value) = .ok parts := by
    intro ha
    simp only [Rule.parts, ha] at hparts
    exact lift_eq_ok.1 hparts
  rw [passes_eq_ok (c.kind.ruleValue_isScalar hv) hsome hmask]

end Tabula.Query
