import Tabula.Query.Transform

/-!
Group methods by name. A function named in an aggregation is looked up among the methods of a
column's groups (`Method.ofName?`) and called without arguments: summaries give one value per
group, running methods one per row, and `unique`, `value_counts`, `nlargest`, `nsmallest`, `ohlc`
and `describe` give arrays, counts, rows or columns of statistics per group. A method that needs
an argument fails, as does an attribute that is no method; `__len__` gives the number of groups.
-/

namespace Tabula.Query

open Json

/-- What a method name does on a column's groups. -/
inductive Method where
  | reduce (a : Agg)
  | running (r : Running)
  | unique
  | valueCounts
  | largest (greatest : Bool)
  | ohlc
  | describe
  | refuse (f : Fault)
  | refuseGroups (f : Fault)
  /-- An attribute whose value is no method: the type of that value, and whether finding it
  forms the groups. -/
  | value (typeName : String) (formsGroups : Bool)
  | groupCount

/-- The running methods by name. -/
def Running.ofName? (s : String) : Option Running :=
  [("cumsum", Running.cumsum), ("cumprod", .cumprod), ("cummax", .cummax), ("cummin", .cummin),
    ("cumcount", .cumcount), ("ngroup", .ngroup), ("rank", .rank), ("diff", .diff),
    ("shift", .shift), ("pct_change", .pctChange), ("ffill", .ffill), ("bfill", .bfill),
    ("head", .head), ("tail", .tail)].lookup s

/-- Methods that need an argument, with the owner named in the failure and the argument. -/
def needsArgument : List (String × String × String) :=
  [("corr", "SeriesGroupBy", "other"), ("cov", "SeriesGroupBy", "other"),
    ("pipe", "BaseGroupBy", "func"), ("apply", "SeriesGroupBy", "func"),
    ("transform", "SeriesGroupBy", "func"), ("filter", "SeriesGroupBy", "func"),
    ("take", "SeriesGroupBy", "indices"), ("get_group", "BaseGroupBy", "name"),
    ("resample", "GroupBy", "rule")]

/-- Attributes that are values, with the type of the value and whether finding it forms the
groups. -/
def valueAttributes : List (String × String × Bool) :=
  [("dtype", "Series", true), ("is_monotonic_increasing", "Series", true),
    ("is_monotonic_decreasing", "Series", true), ("obj", "Series", false), ("ndim", "int", false),
    ("ngroups", "int", true), ("axis", "int", false), ("groups", "PrettyDict", true),
    ("indices", "dict", true), ("level", "NoneType", false), ("sort", "bool", false),
    ("as_index", "bool", false), ("group_keys", "bool", false), ("dropna", "bool", false),
    ("observed", "bool", false), ("exclusions", "frozenset", false),
    ("grouper", "BaseGrouper", false)]

/-- The method a name stands for; `keysType` is the type of the grouping keys as given. -/
def Method.ofName? (s : String) (keysType : String) : Option Method :=
  match Agg.ofName? s with
  | some a => some (.reduce a)
  | none =>
  match Running.ofName? s with
  | some r => some (.running r)
  | none =>
  match needsArgument.lookup s with
  | some (owner, arg) => some (.refuse (.missingArgument owner s arg))
  | none =>
  match valueAttributes.lookup s with
  | some (t, forms) => some (.value t forms)
  | none =>
    if s == "unique" then some .unique
    else if s == "value_counts" then some .valueCounts
    else if s == "nlargest" then some (.largest true)
    else if s == "nsmallest" then some (.largest false)
    else if s == "ohlc" then some .ohlc
    else if s == "describe" then some .describe
    else if s == "nth" then some (.refuse (.missingArgument "GroupByNthSelector" "__call__" "n"))
    else if s == "agg" || s == "aggregate" then some (.refuse .missingFunction)
    else if s == "rolling" then some (.refuse .noWindow)
    else if s == "ewm" then some (.refuse .noDecay)
    else if s == "fillna" then some (.refuseGroups .noFillValue)
    else if s == "keys" then some (.value keysType false)
    else if s == "__len__" then some .groupCount
    else none

def cellsAt (c : Column) (rows : List Nat) : List Cell := rows.map (cellAt c)

/-- Each group's distinct values in order of first appearance, NaN once, as arrays. -/
def uniqueColumn (g : Grouping) (c : Column) : Column :=
  ⟨.object, (g.groups.map fun rows => Cell.array c.kind (firstSeen (cellsAt c rows))).toArray⟩

/-- Sorts stably by falling count. -/
def byFallingCount {α : Type} (xs : List (α × Nat)) : List (α × Nat) :=
  xs.mergeSort fun a b => a.2 ≥ b.2

def countsOf (order : List Cell) (cells : List Cell) : List (Cell × Nat) :=
  (order.map fun v => (v, (cells.filter (sameCell v)).length)).filter (·.2 > 0)

/-- Counts of each group's values (see the module comment). -/
def valueCountsOutcome (g : Grouping) (name : Text) (c : Column) : Except Fault Outcome := do
  if g.keyColumns.contains name then
    let counts : Column := ⟨.int64, (g.groups.map fun rows => Cell.int rows.length).toArray⟩
    return .series (some (Text.ofString "count")) g.keys counts
  let grouped := g.groups.flatten
  let order ← safeSort (firstSeen ((cellsAt c grouped).filter (!·.isNaN)))
  let entries := g.groups.zipIdx.flatMap fun (rows, k) =>
    (byFallingCount (countsOf order (cellsAt c rows))).map fun (v, n) => (g.keys.label k ++ [v], n)
  let keys := RowIndex.build .nested (g.keys.names ++ [some name]) (g.keys.kinds ++ [c.kind])
    (entries.map (·.1))
  pure (.series (some (Text.ofString "count")) keys ⟨.int64, (entries.map fun (_, n) => Cell.int n).toArray⟩)

/-- Up to five rows of each group by falling (`greatest`) or rising value (see the module
comment). -/
def largestOutcome (g : Grouping) (greatest : Bool) (name : Text) (c : Column) :
    Except Fault Outcome := do
  if g.groups.isEmpty then return .series (some name) g.keys ⟨c.kind, #[]⟩
  if c.kind == .object then
    throw (.cannotRank (if greatest then "nlargest" else "nsmallest") "object")
  let before (i j : Nat) : Bool :=
    let x := cellAt c i
    let y := cellAt c j
    if y.isMissing then true
    else if x.isMissing then false
    else if greatest then cellOrder x y != .lt else cellOrder x y != .gt
  let picked := g.groups.zipIdx.flatMap fun (rows, k) =>
    ((rows.mergeSort before).take 5).map fun i => (g.keys.label k ++ [g.rows.cellLabel i], i)
  let rowKind := (g.rows.levels.headD ⟨none, ⟨.int64, #[]⟩⟩).labels.kind
  let keys := RowIndex.build .nested (g.keys.names ++ [none]) (g.keys.kinds ++ [rowKind])
    (picked.map (·.1))
  pure (.series (some name) keys (c.pick (picked.map (·.2))))

/-- The first, greatest, least and last present value of each group, as four columns. -/
def ohlcOutcome (g : Grouping) (c : Column) : Except Fault Outcome := do
  if c.kind == .object then throw .noNumbers
  let blank := blankOf c.kind
  let parts := g.groups.map fun rows =>
    let present := (cellsAt c rows).filter (!·.isMissing)
    (present.headD blank, extreme greater present, extreme smaller present, present.getLastD blank)
  let col (f : Cell × Cell × Cell × Cell → Cell) : Column := ⟨c.kind, (parts.map f).toArray⟩
  let named (s : String) : List Value := [.str (Text.ofString s)]
  pure (.grid ⟨g.keys, 1, [(named "open", col (·.1)), (named "high", col (·.2.1)),
    (named "low", col (·.2.2.1)), (named "close", col (·.2.2.2))]⟩)

/-- The sum of doubles as pairwise summation adds them: in order below eight terms, in eight
running sums up to 128 terms, else the two halves (cut at a multiple of eight) separately. -/
def pairwiseSum (xs : Array Float) : Float :=
  go xs.size 0 xs.size
where
  go : Nat → Nat → Nat → Float
    | 0, _, _ => 0
    | fuel + 1, lo, n =>
      if n < 8 then (List.range n).foldl (fun s i => s + xs.getD (lo + i) 0) 0
      else if n ≤ 128 then
        let blocks := n - n % 8
        let r := (List.range 8).map fun j =>
          (List.range (blocks / 8 - 1)).foldl (fun s b => s + xs.getD (lo + 8 * (b + 1) + j) 0)
            (xs.getD (lo + j) 0)
        let r := r.toArray
        let s := ((r.getD 0 0 + r.getD 1 0) + (r.getD 2 0 + r.getD 3 0)) +
          ((r.getD 4 0 + r.getD 5 0) + (r.getD 6 0 + r.getD 7 0))
        (List.range (n - blocks)).foldl (fun s i => s + xs.getD (lo + blocks + i) 0) s
      else
        let half := n / 2 - (n / 2) % 8
        go fuel lo half + go fuel (lo + half) (n - half)

def lerp (a b t : Float) : Float :=
  let d := b - a
  if t ≥ 0.5 then b - d * (1 - t) else a + d * t

/-- The quantile `q` of sorted doubles by linear interpolation between neighbours. -/
def percentileOf (sorted : Array Float) (q : Float) : Float :=
  let n := sorted.size
  if n == 0 then nan
  else
    let v := (n - 1).toFloat * q
    if v ≥ (n - 1).toFloat then sorted.getD (n - 1) nan
    else
      let i := v.floor.toUInt64.toNat
      lerp (sorted.getD i nan) (sorted.getD (i + 1) nan) (v - i.toFloat)

/-- The statistics of a group of a number column: count, mean, standard deviation, least value,
quartiles and greatest value. -/
def numberStats (cells : List Cell) : List Float :=
  let xs := cells.map cellFloat
  let present := xs.filter fun x => !x.isNaN
  let n := present.length
  let zeroed := (xs.map fun x => if x.isNaN then 0 else x).toArray
  let mean := pairwiseSum zeroed / n.toFloat
  let spread := (xs.map fun x => if x.isNaN then 0 else (mean - x) * (mean - x)).toArray
  let std := if n ≤ 1 then nan else (pairwiseSum spread / (n - 1).toFloat).sqrt
  let sorted := (present.mergeSort fun a b => a ≤ b).toArray
  if n == 0 then [0, nan, nan, nan, nan, nan, nan, nan]
  else [n.toFloat, mean, std, sorted.getD 0 nan, percentileOf sorted 0.25, percentileOf sorted 0.5,
    percentileOf sorted 0.75, sorted.getD (n - 1) nan]

/-- The statistics of a group of other values: count, distinct values, the most frequent value
(the first seen of those) and its count. -/
def valueStats (cells : List Cell) : List Cell :=
  let present := cells.filter (!·.isMissing)
  let counts := byFallingCount (countsOf (firstSeen present) present)
  match counts with
  | (top, freq) :: _ => [.int present.length, .int counts.length, top, .int freq]
  | [] => [.int 0, .int 0, .float nan, .float nan]

/-- Statistics of each group as columns (see the module comment). -/
def describeOutcome (g : Grouping) (c : Column) : Outcome :=
  let numeric := c.kind == .int64 || c.kind == .uint64 || c.kind == .float64
  let names := if numeric then ["count", "mean", "std", "min", "25%", "50%", "75%", "max"]
    else ["count", "unique", "top", "freq"]
  let rows : List (List Cell) := g.groups.map fun rows =>
    if numeric then (numberStats (cellsAt c rows)).map Cell.float else valueStats (cellsAt c rows)
  let kind := if numeric then Kind.float64 else Kind.object
  let columns := names.zipIdx.map fun (n, j) =>
    (([.str (Text.ofString n)] : List Value), (⟨kind, (rows.map fun r => r.getD j .missing).toArray⟩ : Column))
  .grid ⟨g.keys, 1, columns⟩

def Grouping.rowCells (g : Grouping) : Array Cell :=
  (g.rows.levels.headD ⟨none, ⟨.int64, #[]⟩⟩).labels.cells

/-- What calling the method on the named column's groups gives. The groups are formed only when
the method needs them, so that a failure to form them shows only then. -/
def Method.outcome (m : Method) (grouping : Except Fault Grouping) (name : Text) (c : Column) :
    Except Fault Outcome :=
  match m with
  | .reduce a => do
    let g ← grouping
    let col ← summarizeColumn c a g.groups g.rowCells
    pure (.series (some name) g.keys col)
  | .running r => do runColumn r (← grouping) name c
  | .unique => do
    let g ← grouping
    pure (.series (some name) g.keys (uniqueColumn g c))
  | .valueCounts => do valueCountsOutcome (← grouping) name c
  | .largest greatest => do largestOutcome (← grouping) greatest name c
  | .ohlc => do
    if c.kind == .object then throw .noNumbers
    ohlcOutcome (← grouping) c
  | .describe => do pure (describeOutcome (← grouping) c)
  | .refuse f => .error f
  | .refuseGroups f => do
    let g ← grouping
    if g.groups.isEmpty then pure (.series (some name) g.keys ⟨c.kind, #[]⟩) else throw f
  | .value t forms => do
    if forms then discard grouping
    throw (.notCallable t)
  | .groupCount => do pure (.scalar (.int (← grouping).groups.length))

end Tabula.Query
