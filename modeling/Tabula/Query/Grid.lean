import Tabula.Query.Sort
import Tabula.Text.Blank

/-!
Labelled results of grouping: row labels in levels (`RowIndex`) and columns named by tuples of
labels. Labels match as hash keys do (numbers and booleans by value, NaN with NaN) and order as
values compare; a sort that meets two labels that do not compare fails (`sortLabels`). Indexes are
joined keeping the first one's labels and then the new ones (`RowIndex.union`, `unionAll`).
Results of several functions stand side by side (`combineOutcomes`) or are stacked as blocks of
columns (`concatKeyed`, `combineColumns`); a column moved onto more labels gets blanks. Last, the
row labels become columns in front and the parts of each name are joined by `_` (`Grid.flatten`).
-/

namespace Tabula

/-- A cell that stands for NaN: a missing value or a NaN double. -/
def Cell.isNaN : Cell → Bool
  | .missing => true
  | .float x => x.isNaN
  | _ => false

/-- A column's cells as a column of kind `k` holds them: integers become doubles in a column of
doubles. -/
def Column.asKind (c : Column) (k : Kind) : Column :=
  if k == .float64 && c.kind != .float64 then
    ⟨k, c.cells.map fun x => match x with
      | .int n => .float (Float.ofInt n)
      | .bool b => .float (if b then 1 else 0)
      | other => other⟩
  else ⟨k, c.cells⟩

end Tabula

namespace Tabula.Query

open Json

/-- How row labels are laid out. -/
inductive Layout where
  | positions
  | flat
  | nested
  deriving DecidableEq

/-- One level of row labels: its name and one label per row. -/
structure Level where
  name : Option Text
  labels : Column

/-- Row labels: their layout and their levels, all of one height. -/
structure RowIndex where
  layout : Layout
  levels : List Level

/-- Do two single values stand for one key? Numbers and booleans by value, texts by text, NaN
with NaN. -/
def sameScalar (a b : Cell) : Bool :=
  if a.isNaN || b.isNaN then a.isNaN && b.isNaN
  else match a, b with
    | .text x, .text y => x == y
    | x, y =>
      match cellNum x, cellNum y with
      | some p, some q => p.compare? q == some .eq
      | _, _ => false

/-- Do two labels stand for one key? Tuples item by item. -/
def sameCell (a b : Cell) : Bool :=
  match a, b with
  | .tuple xs, .tuple ys => xs.length == ys.length && (xs.zip ys).all fun (x, y) => sameScalar x y
  | .tuple _, _ | _, .tuple _ => false
  | x, y => sameScalar x y

def sameCells (a b : List Cell) : Bool :=
  a.length == b.length && (a.zip b).all fun (x, y) => sameCell x y

/-- Are two single values equal as values? Like `sameScalar`, but NaN equals nothing. -/
def equalScalar (a b : Cell) : Bool := !a.isNaN && !b.isNaN && sameScalar a b

/-- Is the single value `a` below `b`? Numbers compare with numbers and booleans, texts with
texts by code points; any other pair fails, naming the two types. -/
def scalarLess (a b : Cell) : Except Fault Bool :=
  let asNum (c : Cell) : Cell := if c matches .missing then .float (0.0 / 0.0) else c
  match asNum a, asNum b with
  | .text x, .text y => .ok (Text.compareLex x.points y.points == .lt)
  | x, y =>
    match cellNum x, cellNum y with
    | some p, some q => .ok (p.compare? q == some .lt)
    | _, _ => .error (.unorderable .lt a.typeName b.typeName)

/-- Is the label `a` below `b`? Tuples compare at their first unequal items, a shorter tuple
being below a longer one it starts. -/
def labelLess (a b : Cell) : Except Fault Bool :=
  match a, b with
  | .tuple xs, .tuple ys =>
    match (xs.zip ys).find? (fun (x, y) => !equalScalar x y) with
    | some (x, y) => scalarLess x y
    | none => .ok (xs.length < ys.length)
  | .tuple _, _ | _, .tuple _ => .error (.unorderable .lt a.typeName b.typeName)
  | x, y => scalarLess x y

/-- Inserts `v` into a run kept greatest first, comparing from the top down; a comparison that
fails stops the insertion and is returned. -/
def insertFromTop {α : Type} (less : α → α → Except Fault Bool) (v : α) :
    List α → List α × Option Fault
  | [] => ([v], none)
  | x :: rest =>
    match less v x with
    | .ok true =>
      let (r, e) := insertFromTop less v rest
      (x :: r, e)
    | .ok false => (v :: x :: rest, none)
    | .error f => (v :: x :: rest, some f)

/-- Sorts by inserting each item into the sorted run before it; the first comparison that fails
makes the sort fail with it. -/
def sortLabels {α : Type} (less : α → α → Except Fault Bool) (xs : List α) : Except Fault (List α) :=
  let step := fun (acc : List α × Option Fault) (v : α) =>
    match acc with
    | (run, some f) => (run, some f)
    | (run, none) => insertFromTop less v run
  match xs.foldl step ([], none) with
  | (_, some f) => .error f
  | (run, none) => .ok run.reverse

def holds : Except Fault Bool → Bool
  | .ok b => b
  | .error _ => false

def ascending (xs : List Cell) : Bool :=
  (xs.zip xs.tail).all fun (p, c) =>
    holds (labelLess p c) || (!p.isNaN && !c.isNaN && sameCell p c)

/-- Are the labels pairwise distinct? -/
def distinctLabels (xs : List Cell) : Bool :=
  let step := fun (acc : List Cell × Bool) (x : Cell) =>
    if acc.1.any (sameCell x) then (acc.1, false) else (x :: acc.1, acc.2)
  (xs.foldl step ([], true)).2

/-- Merges two ascending runs of labels, a label in both taken once. -/
def mergeLabels (xs ys : List Cell) : Except Fault (List Cell) :=
  match xs, ys with
  | [], ys => .ok ys
  | xs, [] => .ok xs
  | x :: xs', y :: ys' =>
    if equalScalar x y || (x matches .tuple _ && sameCell x y) then (x :: ·) <$> mergeLabels xs' ys'
    else
      match labelLess x y with
      | .error f => .error f
      | .ok true => (x :: ·) <$> mergeLabels xs' (y :: ys')
      | .ok false => (y :: ·) <$> mergeLabels (x :: xs') ys'
termination_by xs.length + ys.length

def mixedIntegers (xs : List Cell) : Bool :=
  xs.any (· matches .int _) && !xs.all (fun c => c matches .int _ || c matches .float _)

/-- Numbers (and whatever else is neither text nor NaN) sorted, then texts sorted, then NaN. -/
def sortMixed (xs : List Cell) : Except Fault (List Cell) := do
  let nums ← sortLabels labelLess (xs.filter fun c => !(c matches .text _) && !c.isNaN)
  let texts ← sortLabels labelLess (xs.filter (· matches .text _))
  pure (nums ++ texts ++ xs.filter Cell.isNaN)

/-- Sorts labels, numbers before texts when integers mix with other values, or when they do not
compare otherwise. -/
def safeSort (xs : List Cell) : Except Fault (List Cell) :=
  if mixedIntegers xs then sortMixed xs
  else
    match sortLabels labelLess xs with
    | .ok s => .ok s
    | .error f =>
      match xs with
      | .tuple _ :: _ => .error f
      | _ => sortMixed xs

/-- The kind two levels of labels meet in: their own when they agree, doubles for different kinds
of numbers, otherwise mixed. -/
def commonKind (a b : Kind) : Kind :=
  if a == b then a
  else if a != .object && b != .object && a != .bool && b != .bool then .float64
  else .object

def blankOf : Kind → Cell
  | .float64 => .float (0.0 / 0.0)
  | _ => .missing

/-- The kind a column takes to hold blanks: integers become doubles, booleans mixed. -/
def blankKind : Kind → Kind
  | .int64 | .uint64 => .float64
  | .bool => .object
  | k => k

/-- The name levels keep when joined: theirs when they agree. -/
def sharedName (names : List (Option Text)) : Option Text :=
  match names with
  | n :: rest => if rest.all (· == n) then n else none
  | [] => none

namespace RowIndex

def height (ix : RowIndex) : Nat :=
  match ix.levels with
  | l :: _ => l.labels.height
  | [] => 0

def label (ix : RowIndex) (i : Nat) : List Cell :=
  ix.levels.map fun l => l.labels.cells.getD i .missing

def labels (ix : RowIndex) : List (List Cell) := (List.range ix.height).map ix.label

/-- The label of row `i` as one cell: a tuple when there are several levels. -/
def cellLabel (ix : RowIndex) (i : Nat) : Cell :=
  match ix.label i with
  | [c] => c
  | cs => .tuple cs

def ofColumn (name : Option Text) (c : Column) : RowIndex := ⟨.flat, [⟨name, c⟩]⟩

/-- The labels of a frame's rows. -/
def ofFrame (f : Frame) : RowIndex :=
  let c : Column := ⟨.int64, (f.rowLabels.map fun n => Cell.int (Int.ofNat n)).toArray⟩
  match f.labels with
  | .positions => ⟨.positions, [⟨none, c⟩]⟩
  | .kept _ => ⟨.flat, [⟨none, c⟩]⟩

def positionsOf (n : Nat) : RowIndex :=
  ⟨.positions, [⟨none, ⟨.int64, ((List.range n).map fun i => Cell.int (Int.ofNat i)).toArray⟩⟩]⟩

def empty : RowIndex := positionsOf 0

/-- The labels of some rows, in the given order: never the positions of a frame as read. -/
def pick (ix : RowIndex) (rows : List Nat) : RowIndex :=
  ⟨if ix.levels.length > 1 then .nested else .flat,
    ix.levels.map fun l => { l with labels := l.labels.pick rows }⟩

/-- Levels of the given kinds and names holding the given labels. -/
def build (layout : Layout) (names : List (Option Text)) (kinds : List Kind)
    (labels : List (List Cell)) : RowIndex :=
  ⟨layout, (names.zip kinds).mapIdx fun j (n, k) =>
    ⟨n, ⟨k, (labels.map fun l => l.getD j .missing).toArray⟩⟩⟩

def equals (a b : RowIndex) : Bool :=
  a.levels.length == b.levels.length && a.height == b.height &&
    (a.labels.zip b.labels).all fun (x, y) => sameCells x y

def find? (ix : RowIndex) (l : List Cell) : Option Nat :=
  (List.range ix.height).find? fun i => sameCells (ix.label i) l

def names (ix : RowIndex) : List (Option Text) := ix.levels.map (·.name)

def kinds (ix : RowIndex) : List Kind := ix.levels.map (·.labels.kind)

end RowIndex

/-- How a union orders its labels. -/
inductive UnionOrder where
  | keep
  | attempt
  deriving DecidableEq

/-- The union of two single-level indexes (see the module comment). -/
def flatUnion (order : UnionOrder) (a b : RowIndex) : RowIndex :=
  let la := a.levels.headD ⟨none, ⟨.int64, #[]⟩⟩
  let lb := b.levels.headD ⟨none, ⟨.int64, #[]⟩⟩
  let k := commonKind la.labels.kind lb.labels.kind
  let name := sharedName [la.name, lb.name]
  let xs := (la.labels.asKind k).cells.toList
  let ys := (lb.labels.asKind k).cells.toList
  let flatOf (cs : List Cell) : RowIndex := ⟨.flat, [⟨name, ⟨k, cs.toArray⟩⟩]⟩
  if ys.isEmpty || (xs.length == ys.length && (xs.zip ys).all fun (x, y) => sameCell x y) then
    if k == la.labels.kind then { a with levels := [{ la with name := name }] } else flatOf xs
  else if xs.isEmpty then flatOf ys
  else
    let merged :=
      if order == .attempt && (distinctLabels xs || distinctLabels ys) && ascending xs && ascending ys
      then (mergeLabels xs ys).toOption else none
    match merged with
    | some m => flatOf m
    | none =>
      let r := xs ++ ys.filter fun y => !xs.any (sameCell y)
      flatOf (if order == .attempt then (safeSort r).toOption.getD r else r)

/-- The union of two indexes of several levels each, as many: the first's labels, then the new
ones, sorted level by level when asked and possible. -/
def nestedUnion (order : UnionOrder) (a b : RowIndex) : RowIndex :=
  let la := a.labels
  let r := la ++ b.labels.filter fun y => !la.any (sameCells y)
  let tupleLess (x y : List Cell) : Except Fault Bool := labelLess (.tuple x) (.tuple y)
  let r := if order == .attempt then (sortLabels tupleLess r).toOption.getD r else r
  let names := (a.names.zip b.names).map fun (p, q) => if p == q then p else none
  let kinds := (a.kinds.zip b.kinds).map fun (p, q) => commonKind p q
  let r := r.map fun l => (l.zip kinds).map fun (c, k) => match k, c with
    | .float64, .int n => Cell.float (Float.ofInt n)
    | _, c => c
  RowIndex.build .nested names kinds r

/-- The union of indexes of different depths: one level of labels, tuples for the labels of
several levels. -/
def tupleUnion (order : UnionOrder) (a b : RowIndex) : RowIndex :=
  let xs := (List.range a.height).map a.cellLabel
  let ys := (List.range b.height).map b.cellLabel
  let r := xs ++ ys.filter fun y => !xs.any (sameCell y)
  let r :=
    if order == .keep then r
    else if a.layout == .nested then (sortLabels labelLess r).toOption.getD r
    else (safeSort r).toOption.getD r
  RowIndex.ofColumn none ⟨.object, r.toArray⟩

/-- The union of two indexes (see the module comment). -/
def RowIndex.union (order : UnionOrder) (a b : RowIndex) : RowIndex :=
  match a.layout, b.layout with
  | .nested, .nested => if a.levels.length == b.levels.length then nestedUnion order a b else tupleUnion order a b
  | .nested, _ | _, .nested => tupleUnion order a b
  | _, _ => flatUnion order a b

/-- Gathers single-level indexes into one: the first's distinct labels, then the new ones. -/
def gatherFlat (ixs : List RowIndex) : Column :=
  let k := (ixs.map fun ix => (ix.levels.headD ⟨none, ⟨.int64, #[]⟩⟩).labels.kind).foldl commonKind
    ((ixs.headD RowIndex.empty).levels.headD ⟨none, ⟨.int64, #[]⟩⟩).labels.kind
  let cells := ixs.flatMap fun ix => ((ix.levels.headD ⟨none, ⟨.int64, #[]⟩⟩).labels.asKind k).cells.toList
  let step := fun (acc : List Cell) (c : Cell) => if acc.any (sameCell c) then acc else acc ++ [c]
  ⟨k, (cells.foldl step []).toArray⟩

/-- The union of several indexes, as a table built from results under them takes it (see the
module comment); `sorted` asks for the order of values. -/
def RowIndex.unionAll (sorted : Bool) (ixs : List RowIndex) : Except Fault RowIndex :=
  match ixs with
  | [] => .ok RowIndex.empty
  | [ix] => .ok ix
  | first :: rest =>
    let name := sharedName (ixs.map fun ix => (ix.levels.headD ⟨none, ⟨.int64, #[]⟩⟩).name)
    if ixs.all (·.layout == .flat) then
      if rest.all first.equals then
        .ok { first with levels := first.levels.map fun l => { l with name := name } }
      else
        let c := gatherFlat ixs
        if !sorted then .ok (RowIndex.ofColumn none c)
        else
          let cells := c.cells.toList
          if ascending cells then .ok (RowIndex.ofColumn none c)
          else do
            let s ← sortLabels labelLess (cells.filter (!·.isNaN))
            pure (RowIndex.ofColumn none ⟨c.kind, (s ++ cells.filter Cell.isNaN).toArray⟩)
    else .ok (rest.foldl (RowIndex.union (if sorted then .attempt else .keep)) first)

/-- The column moved from labels `src` onto labels `dst`: each label's cell, a blank where `src`
has no such label. -/
def reindexColumn (c : Column) (src dst : RowIndex) : Column :=
  if src.equals dst then c
  else
    let found := (List.range dst.height).map fun i => src.find? (dst.label i)
    if found.all Option.isSome then
      ⟨c.kind, (found.map fun p => c.cells.getD (p.getD 0) .missing).toArray⟩
    else
      let k := blankKind c.kind
      let c' := c.asKind k
      ⟨k, (found.map fun p => match p with
        | some j => c'.cells.getD j .missing
        | none => blankOf k).toArray⟩

/-- Results under row labels, in columns named by tuples of labels of `depth` levels. -/
structure Grid where
  index : RowIndex
  depth : Nat
  columns : List (List Value × Column)

def Grid.isEmpty (g : Grid) : Bool := g.index.height == 0 || g.columns.isEmpty

/-- One function's result on one column. -/
inductive Outcome where
  | series (name : Option Text) (index : RowIndex) (values : Column)
  | grid (g : Grid)
  | scalar (c : Cell)

def Outcome.isGrid : Outcome → Bool
  | .grid _ => true
  | _ => false

/-- Do two column names stand for one key? -/
def sameName (a b : List Value) : Bool :=
  a.length == b.length && (a.zip b).all fun (x, y) =>
    match x, y with
    | .str s, .str t => s == t
    | .null, .null => true
    | x, y => x.literal == y.literal

/-- Blocks of columns stacked side by side, each block's names behind its key, under the union of
their row labels (see the module comment). -/
def concatKeyed (keys : List Value) (grids : List Grid) : Except Fault Grid := do
  let first := grids.headD ⟨RowIndex.empty, 1, []⟩
  let sameColumns := grids.all fun g =>
    g.columns.length == first.columns.length &&
      (g.columns.zip first.columns).all fun (p, q) => sameName p.1 q.1
  if !sameColumns && !(grids.all (·.depth == first.depth)) then throw .levelsDiffer
  let rows ← RowIndex.unionAll false (grids.map (·.index))
  let columns := (keys.zip grids).flatMap fun (k, g) =>
    g.columns.map fun (name, c) => (k :: name, reindexColumn c g.index rows)
  pure ⟨rows, first.depth + 1, columns⟩

/-- The results of several functions on one column, labelled (see the module comment). -/
def combineOutcomes (labelled : List (Value × Outcome)) : Except Fault Grid := do
  if labelled.any (·.2.isGrid) then
    let step := fun (acc : Nat × List Grid) (o : Outcome) =>
      match o with
      | .grid g => .ok (acc.1, acc.2 ++ [g])
      | .series name ix c =>
        let (label, n) := match name with
          | some s => (Value.str s, acc.1)
          | none => (Value.int acc.1, acc.1 + 1)
        .ok (n, acc.2 ++ [⟨ix, 1, [([label], c)]⟩])
      | .scalar c => .error (Fault.notConcatenable c.typeName)
    let (_, grids) ← labelled.foldlM (fun acc (_, o) => step acc o) (0, [])
    concatKeyed (labelled.map (·.1)) grids
  else
    let indexes := labelled.filterMap fun (_, o) => match o with
      | .series _ ix _ => some ix
      | _ => none
    if indexes.isEmpty && !labelled.isEmpty then throw .scalarsOnly
    let rows ← RowIndex.unionAll true indexes
    let columns := labelled.map fun (label, o) => match o with
      | .series _ ix c => ([label], reindexColumn c ix rows)
      | .scalar c => ([label], (⟨.object, (List.replicate rows.height c).toArray⟩ : Column))
      | .grid _ => ([label], ⟨.object, #[]⟩)
    pure ⟨rows, 1, columns⟩

/-- The blocks of several columns, stacked under the columns' names; empty blocks are left out
unless all are empty. -/
def combineColumns (blocks : List (Text × Grid)) : Except Fault Grid := do
  if blocks.isEmpty then throw .nothingToJoin
  let kept := blocks.filter fun (_, g) => !g.isEmpty
  let use := if kept.isEmpty then blocks else kept
  concatKeyed (use.map fun (n, _) => Value.str n) (use.map (·.2))

/-- The names the row levels take as columns: their own, else `index` (or `level_0` when a
column is already called `index`) for a single level and `level_i` for several. -/
def levelNames (g : Grid) : List Text :=
  match g.index.levels with
  | [l] =>
    let taken := g.columns.any fun (n, _) => match n with
      | .str t :: _ => t.eqString "index"
      | _ => false
    [l.name.getD (Text.ofString (if taken then "level_0" else "index"))]
  | ls => ls.mapIdx fun i l => l.name.getD (Text.ofString ("level_" ++ toString i))

/-- The grid with its row levels moved into columns in front, last level first, each name padded
with empty parts to the grid's depth; a name already taken stops it. -/
def Grid.resetIndex (g : Grid) : Except Fault Grid := do
  let named := (levelNames g).zip g.index.levels
  let columns ← named.reverse.foldlM (fun cols (n, l) => do
    let parts := n :: List.replicate (g.depth - 1) (⟨[]⟩ : Text)
    let name := parts.map Value.str
    if cols.any fun (m, _) => sameName m name then
      throw (.duplicateColumn (parts.map Text.toStringLossy))
    pure ((name, l.labels) :: cols)) g.columns
  pure ⟨RowIndex.positionsOf g.index.height, g.depth, columns⟩

/-- A column name's parts joined by `_`, without surrounding blanks; every part must be a text. -/
def joinName (parts : List Value) : Except Fault Text := do
  let texts ← (parts.zip (List.range parts.length)).mapM fun (p, i) => match p with
    | .str t => pure t.points
    | other => throw (.nameNotText i other.typeName)
  pure (Text.strip ⟨texts.intersperse [0x5F] |>.flatten⟩)

def Grid.flatten (g : Grid) : Except Fault Frame := do
  let columns ← g.columns.mapM fun (n, c) => do pure (← joinName n, c)
  pure { height := g.index.height, columns := columns.toArray }

end Tabula.Query
