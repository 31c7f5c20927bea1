import Tabula.Query.Groups
import Tabula.Query.Aggregate

/-!
Group methods with a value for each row, run along every group's rows in order, rows in no group
left blank: running sums, products and extremes (`cumsum` …), the place in the group and the
group's number (`cumcount`, `ngroup`), average ranks, `shift`, `diff` and `pct_change`, filling
forward and backward, and the first or last five rows of each group (`head`, `tail`). A result
with blanks holds integers as doubles and booleans as mixed values.
-/

namespace Tabula.Query

/-- Methods with a value for each row. -/
inductive Running where
  | cumsum
  | cumprod
  | cummax
  | cummin
  | cumcount
  | ngroup
  | rank
  | diff
  | shift
  | pctChange
  | ffill
  | bfill
  | head
  | tail
  deriving DecidableEq, Repr

/-- Runs `step` along each group's rows in order from `init`, writing each row's output; rows in
no group get `blank`. -/
def alongGroups {σ : Type} (g : Grouping) (blank : Cell) (init : σ) (step : σ → Nat → σ × Cell) :
    Array Cell :=
  g.groups.foldl (fun out rows =>
    (rows.foldl (fun (acc : σ × Array Cell) i =>
      let (s, o) := step acc.1 i
      (s, acc.2.set! i o)) (init, out)).2) (Array.replicate g.height blank)

/-- Like `alongGroups`, but a step may fail; the first failure in group order stops it. -/
def alongGroupsM {σ : Type} (g : Grouping) (blank : Cell) (init : σ)
    (step : σ → Nat → Except Fault (σ × Cell)) : Except Fault (Array Cell) :=
  g.groups.foldlM (fun out rows => do
    let (_, out) ← rows.foldlM (fun (acc : σ × Array Cell) i => do
      let (s, o) ← step acc.1 i
      pure (s, acc.2.set! i o)) (init, out)
    pure out) (Array.replicate g.height blank)

def cellAt (c : Column) (i : Nat) : Cell := c.cells.getD i .missing

def nanCell : Cell := .float nan

def floats (cells : Array Cell) : Column := ⟨.float64, cells⟩

/-- Running sums or products of doubles: `comp` carries the rounding of a sum. -/
def runFloats (g : Grouping) (c : Column) (product : Bool) : Column :=
  floats (alongGroups g nanCell ((if product then 1 else 0 : Float), (0 : Float)) fun (acc, comp) i =>
    let x := cellFloat (cellAt c i)
    if x.isNaN then ((acc, comp), nanCell)
    else if product then ((acc * x, comp), .float (acc * x))
    else
      let y := x - comp
      let t := acc + y
      ((t, t - acc - y), .float t))

/-- Running sums or products of integers, wrapping as the column's words do. -/
def runIntegers (g : Grouping) (c : Column) (product : Bool) : Column :=
  let wrap : Int → Int := if c.kind == .uint64 then wrapUnsigned else wrapSigned
  let kind := if c.kind == .uint64 then Kind.uint64 else Kind.int64
  ⟨kind, alongGroups g (.int 0) ((if product then 1 else 0 : Int)) fun acc i =>
    let n := (wholeOf? (cellAt c i)).getD 0
    let r := wrap (if product then acc * n else acc + n)
    (r, .int r)⟩

/-- Running extremes: each row gets the greatest (`max`) or least present value so far. -/
def runExtremes (g : Grouping) (c : Column) (max : Bool) (asFloats : Bool) : Column :=
  let blank := if asFloats then nanCell else Cell.missing
  let cells := alongGroups g blank (none : Option Cell) fun best i =>
    let x := cellAt c i
    let x := if asFloats then Cell.float (cellFloat x) else x
    if x.isMissing then (best, blank)
    else
      let b := match best with
        | none => x
        | some b => if (if max then cellOrder x b == .gt else cellOrder x b == .lt) then x else b
      (some b, b)
  if asFloats then floats cells else ⟨c.kind, cells⟩

/-- The column with each row's position in its group (`groupNumber` false) or its group's
number; rows in no group are blank. -/
def placeColumn (g : Grouping) (groupNumber : Bool) : Column :=
  let cells := g.groups.zipIdx.foldl (fun out (rows, k) =>
    rows.zipIdx.foldl (fun o (i, p) => o.set! i (.int (if groupNumber then k else p))) out)
    (Array.replicate g.height (.float nan))
  if g.dropsRows then floats (cells.map fun x => match x with
    | .int n => .float (Float.ofInt n)
    | other => other)
  else ⟨.int64, cells⟩

/-- The average rank of each present value among the group's present values. -/
def rankColumn (g : Grouping) (c : Column) : Except Fault Column := do
  let out ← g.groups.foldlM (fun (out : Array Cell) rows => do
    let present := rows.filter fun i => !(cellAt c i).isMissing
    present.foldlM (fun (o : Array Cell) i => do
      let x := cellAt c i
      let (below, same) ← present.foldlM (fun (acc : Nat × Nat) j => do
        let y := cellAt c j
        if equalScalar x y then pure (acc.1, acc.2 + 1)
        else if ← labelLess y x then pure (acc.1 + 1, acc.2) else pure acc) (0, 0)
      pure (o.set! i (.float (below.toFloat + (same.toFloat + 1) / 2)))) out)
    (Array.replicate g.height (.float nan))
  pure (floats out)

/-- Each row's previous row in its group, if any. -/
def previousRows (g : Grouping) : Array (Option Nat) :=
  g.groups.foldl (fun out rows =>
    (rows.zip (none :: rows.map some)).foldl (fun o (i, p) => o.set! i p) out)
    (Array.replicate g.height none)

/-- The value of the row before in the group, blank for a group's first row. -/
def shiftColumn (g : Grouping) (c : Column) : Column :=
  let prev := previousRows g
  let k := if g.height == 0 then c.kind else blankKind c.kind
  let c' := c.asKind k
  ⟨k, ((List.range g.height).map fun i => match prev.getD i none with
    | some j => cellAt c' j
    | none => blankOf k).toArray⟩

/-- A number of a cell, as arithmetic on values takes it. -/
def arithNum? : Cell → Option Num
  | .int n => some (.int n)
  | .float x => some (.float x)
  | .bool b => some (.int (if b then 1 else 0))
  | _ => none

/-- `a - b` as values subtract: integers stay integers, otherwise doubles. -/
def subValues (a b : Cell) : Except Fault Cell :=
  match arithNum? a, arithNum? b with
  | some (.int x), some (.int y) => .ok (.int (x - y))
  | some _, some _ => .ok (.float (cellFloat a - cellFloat b))
  | _, _ => .error (.badOperation "-" a.typeName b.typeName)

/-- `a / b` as values divide: a double, or a failure when dividing by zero. -/
def divValues (a b : Cell) : Except Fault Cell :=
  match arithNum? a, arithNum? b with
  | some _, some q =>
    let isFloat := (a matches .float _) || (b matches .float _)
    let zero := match q with
      | .int n => n == 0
      | .float y => y == 0
    if zero then .error (.divisionByZero isFloat) else .ok (.float (cellFloat a / cellFloat b))
  | _, _ => .error (.badOperation "/" a.typeName b.typeName)

/-- The value minus the one of the row before in the group. -/
def diffColumn (g : Grouping) (c : Column) : Except Fault Column := do
  let prev := previousRows g
  let pairs := (List.range g.height).map fun i => (cellAt c i, (prev.getD i none).map (cellAt c))
  match c.kind with
  | .object | .bool =>
    let cells ← pairs.mapM fun (x, p) => match p with
      | some y => if x.isMissing || y.isMissing then pure nanCell else subValues x y
      | none => pure nanCell
    pure ⟨.object, cells.toArray⟩
  | _ =>
    pure (floats (pairs.map fun (x, p) => match p with
      | some y => Cell.float (cellFloat x - cellFloat y)
      | none => nanCell).toArray)

/-- Missing values filled from the nearest present value before (`forward`) or after in the
group; rows in no group are blank. -/
def fillColumn (g : Grouping) (c : Column) (forward : Bool) : Column :=
  let order := fun (rows : List Nat) => if forward then rows else rows.reverse
  let filled := g.groups.foldl (fun out rows =>
    ((order rows).foldl (fun (acc : Option Cell × Array (Option Cell)) i =>
      let x := cellAt c i
      let last := if x.isMissing then acc.1 else some x
      (last, acc.2.set! i (some (last.getD x)))) (none, out)).2)
    (Array.replicate g.height none)
  if filled.all Option.isSome then ⟨c.kind, filled.map fun x => x.getD .missing⟩
  else
    let k := blankKind c.kind
    ⟨k, filled.map fun x => match x with
      | some v => (⟨k, #[v]⟩ : Column) |>.asKind k |>.cells.getD 0 .missing
      | none => blankOf k⟩

/-- The value after filling forward, divided by the filled value of the row before, less one. -/
def changeColumn (g : Grouping) (c : Column) : Except Fault Column := do
  let filled := fillColumn g c true
  let prev := previousRows g
  let pairs := (List.range g.height).map fun i =>
    (cellAt filled i, (prev.getD i none).map (cellAt filled))
  match c.kind with
  | .object | .bool =>
    let cells ← pairs.mapM fun (x, p) => match p with
      | some y =>
        if x.isMissing || y.isMissing then pure nanCell
        else do
          let q ← divValues x y
          subValues q (.int 1)
      | none => pure nanCell
    pure ⟨.object, cells.toArray⟩
  | _ =>
    pure (floats (pairs.map fun (x, p) => match p with
      | some y => Cell.float (cellFloat x / cellFloat y - 1)
      | none => nanCell).toArray)

/-- The first (`first`) or last five rows of each group, in the table's order. -/
def edgeRows (g : Grouping) (first : Bool) : List Nat :=
  let kept := g.groups.flatMap fun rows =>
    if first then rows.take 5 else rows.drop (rows.length - 5)
  (List.range g.height).filter kept.contains

/-- What a running method gives for the named column (see the module comment). -/
def runColumn (r : Running) (g : Grouping) (name : Text) (c : Column) : Except Fault Outcome := do
  let numeric := c.kind != .object
  let asFloats := c.kind == .float64 || g.dropsRows
  let onRows (col : Column) : Outcome := .series (some name) g.rows col
  let refuse (how : String) : Except Fault Outcome :=
    .error (.notSupported how "object")
  match r with
  | .cumsum =>
    if !numeric then refuse "cumsum"
    else pure (onRows (if asFloats then runFloats g c false else runIntegers g c false))
  | .cumprod =>
    if !numeric then refuse "cumprod"
    else pure (onRows (if asFloats then runFloats g c true else runIntegers g c true))
  | .cummax => if !numeric then refuse "cummax" else pure (onRows (runExtremes g c true asFloats))
  | .cummin => if !numeric then refuse "cummin" else pure (onRows (runExtremes g c false asFloats))
  | .cumcount => pure (.series none g.rows (placeColumn g false))
  | .ngroup => pure (.series none g.rows (placeColumn g true))
  | .rank => pure (onRows (← rankColumn g c))
  | .shift => pure (onRows (shiftColumn g c))
  | .diff => pure (onRows (← diffColumn g c))
  | .pctChange => pure (onRows (← changeColumn g c))
  | .ffill => pure (onRows (fillColumn g c true))
  | .bfill => pure (onRows (fillColumn g c false))
  | .head | .tail =>
    let rows := edgeRows g (r == .head)
    pure (.series (some name) (g.rows.pick rows) (c.pick rows))

theorem alongGroups_none {σ : Type} (g : Grouping) (blank : Cell) (init : σ) (step : σ → Nat → σ × Cell)
    (h : g.groups = []) : alongGroups g blank init step = Array.replicate g.height blank := by
  simp [alongGroups, h]

end Tabula.Query
