import Tabula.Query.Compare
import Tabula.Query.Introsort
import Tabula.Query.Select

/-!
Sort rules. Each rule names one column and a direction, a boolean or an integer by its truth;
every direction is checked before any column is looked up. Rows are ordered by the first key, ties
by the next; missing cells come last in either direction, and numbers come before texts. Two or more
keys are sorted stably, rows tied on every key keeping their order; one key is sorted by the
quicksort kind of argument sort (`Introsort.argsort`), which may order tied rows otherwise. A single
column is not sorted.
-/
namespace Tabula.Query

open Json

/-- The order of two present cells of one column. -/
def cellOrder : Cell → Cell → Ordering
  | .text a, .text b => Text.compareLex a.points b.points
  | .text _, _ => .gt
  | _, .text _ => .lt
  | a, b =>
    match cellNum a, cellNum b with
    | some x, some y => (x.compare? y).getD .eq
    | _, _ => .eq

/-- The order of two cells under one key: missing cells last, present ones by direction. -/
def keyOrder (ascending : Bool) (a b : Cell) : Ordering :=
  match a.isMissing, b.isMissing with
  | true, true => .eq
  | true, false => .gt
  | false, true => .lt
  | false, false => if ascending then cellOrder a b else cellOrder b a

/-- The order of two rows under the keys, the first key first. -/
def rowOrder (keys : List (Column × Bool)) (i j : Nat) : Ordering :=
  match keys with
  | [] => .eq
  | (c, asc) :: rest =>
    match keyOrder asc (c.cells.getD i .missing) (c.cells.getD j .missing) with
    | .eq => rowOrder rest i j
    | o => o

/-- The row positions of one key in sorted order: the rows with a present cell by the quicksort kind
of argument sort, fed last row first and read back reversed when descending, then the rows with a
missing cell in their order. -/
def keyRows (height : Nat) (c : Column) (ascending : Bool) : List Nat :=
  let cell := fun i => c.cells.getD i .missing
  let present := (List.range height).filter fun i => !(cell i).isMissing
  let less := fun i j => keyOrder true (cell i) (cell j) == .lt
  let sorted :=
    if ascending then Introsort.argsort less present
    else (Introsort.argsort less present.reverse).reverse
  sorted ++ (List.range height).filter fun i => (cell i).isMissing

/-- The row positions in sorted order: one key by `keyRows`, two or more by a stable merge sort,
tied rows keeping their order. -/
def sortedRows (height : Nat) (keys : List (Column × Bool)) : List Nat :=
  match keys with
  | [(c, ascending)] => keyRows height c ascending
  | _ => (List.range height).mergeSort fun i j => rowOrder keys i j != .gt

/-- A direction: a boolean, or an integer by its truth. -/
def direction (v : Value) : Except Fault Bool :=
  match v with
  | .bool b => .ok b
  | .int n => .ok (n != 0)
  | other => .error (.badAscending other.typeName)

/-- The one column a sort key names. -/
def sortColumn (f : Frame) (key : Value) : Except Fault Column :=
  match f.positionsNamed key with
  | [i] =>
    match f.columns[i]? with
    | some (_, c) => .ok c
    | none => .error (.missingKey key)
  | [] => .error (.missingKey key)
  | _ => .error (.ambiguousLabel key.display.toStringLossy)

/-- The table sorted by the rules (see the module comment). -/
def applySorting (t : Table) (rules : Value) : Except Fault Table := do
  let rs ← members rules
  let read ← rs.mapM fun r => do
    let c ← index r "column"
    let a ← index r "ascending"
    pure (c, a)
  match t with
  | .series .. => throw (.unexpectedKeyword "Series.sort_values" "by")
  | .frame f =>
    let dirs ← read.mapM fun (_, a) => direction a
    let cols ← read.mapM fun (c, _) => sortColumn f c
    pure (.frame (f.pick (sortedRows f.height (cols.zip dirs))))

theorem keyOrder_missing_last (asc : Bool) (b : Cell) (h : b.isMissing = false) :
    keyOrder asc .missing b = .gt := by
  unfold keyOrder
  rw [h]
  rfl

end Tabula.Query
