import Tabula.Query.Grid
import Tabula.Query.Block
import Tabula.Query.Select

/-!
Groupers and groups. The keys are read as a list of keys or one key; a list with one value per
row that is not all column names becomes one key of values. A text, number or boolean names one
column of a frame, a list gives a value per row, an object a missing value per row, and null
fails unless there are no rows. Each grouper's distinct values are sorted (`safeSort`); a row with
a missing value under some grouper is in no group, and the groups come in the order of their
values, the first grouper first.
-/

namespace Tabula.Query

open Json

/-- What rows are grouped by. -/
inductive Grouper where
  | column (name : Text) (c : Column)
  | values (c : Column)
  | unhashable (typeName : String)

def Grouper.name : Grouper → Option Text
  | .column n _ => some n
  | _ => none

/-- A value as a cell of a mixed column. -/
def cellOfValue : Value → Cell
  | .str t => .text t
  | .int n => .int n
  | .float x => .float x
  | .bool b => .bool b
  | .null => .missing
  | .arr xs => .tuple (xs.map fun x => match x with
    | .str t => .text t
    | .int n => .int n
    | .float y => .float y
    | .bool b => .bool b
    | _ => .missing)
  | .obj _ => .missing

/-- The column kind of a block's elements. -/
def BlockKind.column : BlockKind → Kind
  | .bool => .bool
  | .int64 => .int64
  | .uint64 => .uint64
  | .float64 => .float64
  | _ => .object

/-- Values given for each row, as a grouper holds them (see the module comment). -/
def valuesGrouper (xs : List Value) : Grouper :=
  let asGiven : Grouper :=
    match xs.find? (fun v => v matches .arr _ || v matches .obj _) with
    | some v => .unhashable v.typeName
    | none => .values ⟨.object, (xs.map cellOfValue).toArray⟩
  match Block.build xs with
  | .error _ => asGiven
  | .ok b =>
    match b.shape with
    | [_] =>
      if b.kind == .text || b.kind == .object then asGiven
      else .values ⟨b.kind.column, (b.items.map cellOfValue).toArray⟩
    | [_, _] => .values ⟨.object, (xs.map cellOfValue).toArray⟩
    | _ => asGiven

def isLabelKey : Value → Bool
  | .str _ | .int _ | .float _ | .bool _ => true
  | _ => false

/-- The grouper one key makes of a table with `height` rows. -/
def grouperOf (t : Table) (height : Nat) (k : Value) : Except Fault Grouper :=
  match k with
  | .arr xs => if xs.length == height then .ok (valuesGrouper xs) else .error .grouperLength
  | .obj _ => .ok (.values ⟨.object, (List.replicate height Cell.missing).toArray⟩)
  | .null => if height == 0 then .ok (.values ⟨.object, #[]⟩) else .error (.notCallable "NoneType")
  | _ =>
    match t with
    | .series .. => .error (.missingKey k)
    | .frame f =>
      match f.positionsNamed k with
      | [i] =>
        match f.columns[i]? with
        | some (n, c) => .ok (.column n c)
        | none => .error (.missingKey k)
      | [] => .error (.missingKey k)
      | _ => .error (.notOneDimensional k.display.toStringLossy)

def tableHeight : Table → Nat
  | .frame f => f.height
  | .series _ c _ => c.height

/-- Does the key name a column, or the unnamed row labels? -/
def namesColumnOrLabels (t : Table) (k : Value) : Bool :=
  match k, t with
  | .null, _ => true
  | _, .frame f => isLabelKey k && !(f.positionsNamed k).isEmpty
  | _, .series .. => false

/-- The groupers the keys make (see the module comment). -/
def readGroupers (t : Table) (keys : Value) : Except Fault (List Grouper) := do
  let height := tableHeight t
  let (ks, oneEach) ← match keys with
    | .null => throw .noGrouper
    | .arr xs => pure (xs, xs.length == height)
    | k => pure ([k], false)
  let plain := ks.all fun k => !(k matches .arr _) && !(k matches .obj _)
  let ks := if plain && oneEach && !(ks.all (namesColumnOrLabels t)) then [Value.arr ks] else ks
  let groupers ← ks.mapM (grouperOf t height)
  if groupers.isEmpty && height > 0 then throw .noGroupKeys
  pure groupers

/-- The distinct cells in order of first appearance. -/
def firstSeen (cells : List Cell) : List Cell :=
  cells.foldl (fun acc c => if acc.any (sameCell c) then acc else acc ++ [c]) []

/-- A grouper's sorted distinct values and each row's position among them, none for a missing
value. -/
def Grouper.codes (g : Grouper) : Except Fault (Kind × List Cell × List (Option Nat)) := do
  let c ← match g with
    | .column _ c | .values c => pure c
    | .unhashable t => throw (.unhashable t)
  let cells := c.cells.toList
  let sorted ← safeSort (firstSeen (cells.filter (!·.isNaN)))
  pure (c.kind, sorted, cells.map fun x => if x.isNaN then none else sorted.findIdx? (sameCell x))

/-- Compares two rows' positions grouper by grouper. -/
def codesLE : List Nat → List Nat → Bool
  | [], _ => true
  | _, [] => false
  | a :: as, b :: bs => a < b || (a == b && codesLE as bs)

/-- Rows grouped: the labels of the groups, each group's row positions in order, and the labels
of all rows of the table. -/
structure Grouping where
  keys : RowIndex
  groups : List (List Nat)
  rows : RowIndex
  height : Nat
  /-- The names of the columns grouped by. -/
  keyColumns : List Text

/-- Splits rows sorted by their codes into runs of equal codes. -/
def codeRuns : List (Nat × List Nat) → List (List Nat × List Nat)
  | [] => []
  | (i, cs) :: rest =>
    match codeRuns rest with
    | (ds, is) :: runs => if ds == cs then (cs, i :: is) :: runs else (cs, [i]) :: (ds, is) :: runs
    | [] => [(cs, [i])]

/-- Groups the rows of a table with labels `rows` by the groupers (see the module comment). -/
def Grouping.build (groupers : List Grouper) (rows : RowIndex) (height : Nat) :
    Except Fault Grouping := do
  let coded ← groupers.mapM Grouper.codes
  let present := (List.range height).filterMap fun i =>
    (coded.mapM fun (x : Kind × List Cell × List (Option Nat)) => x.2.2.getD i none).map (i, ·)
  let sorted := present.mergeSort fun a b => codesLE a.2 b.2
  let runs := codeRuns sorted
  let labels := runs.map fun (cs, _) =>
    (coded.zip cs).map fun ((_, uniq, _), j) => uniq.getD j .missing
  let keys :=
    if groupers.isEmpty then RowIndex.ofColumn none ⟨.int64, #[]⟩
    else RowIndex.build (if groupers.length > 1 then .nested else .flat) (groupers.map Grouper.name)
      (coded.map (·.1)) labels
  pure ⟨keys, runs.map (·.2), rows, height, groupers.filterMap fun g => match g with
    | .column n _ => some n
    | _ => none⟩

def Grouping.groupOf (g : Grouping) : Array (Option Nat) :=
  g.groups.zipIdx.foldl (fun acc (rows, k) => rows.foldl (fun a i => a.set! i (some k)) acc)
    (Array.replicate g.height none)

def Grouping.dropsRows (g : Grouping) : Bool :=
  g.groups.foldl (fun n rows => n + rows.length) 0 < g.height

end Tabula.Query
