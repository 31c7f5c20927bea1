import Tabula.Query.Sort

/-!
Summaries of a group's cells. Number columns are summarized in machine arithmetic: 64-bit
integer sums wrap around, double sums and means are compensated, variances use the one-pass
update with one degree of freedom removed; missing cells are skipped, and a group with nothing
left has a NaN mean, a zero sum and a missing extreme. Mixed columns are summarized by the values
themselves: sums join texts and add booleans as integers, extremes compare texts with texts and
booleans with booleans, and means, medians and variances fail on a text; an extreme of texts
among missing cells fails too, since the missing cells are compared.
-/

namespace Tabula.Query

/-- The functions a group is summarized by. -/
inductive Agg where
  | sum
  | mean
  | median
  | var
  | std
  | count
  | size
  | nunique
  | min
  | max
  | first
  | last
  | prod
  | sem
  | skew
  | quantile
  | any
  | all
  | idxmax
  | idxmin
  deriving DecidableEq, Repr

def Agg.name : Agg → String
  | .sum => "sum"
  | .mean => "mean"
  | .median => "median"
  | .var => "var"
  | .std => "std"
  | .count => "count"
  | .size => "size"
  | .nunique => "nunique"
  | .min => "min"
  | .max => "max"
  | .first => "first"
  | .last => "last"
  | .prod => "prod"
  | .sem => "sem"
  | .skew => "skew"
  | .quantile => "quantile"
  | .any => "any"
  | .all => "all"
  | .idxmax => "idxmax"
  | .idxmin => "idxmin"

def Agg.every : List Agg :=
  [.sum, .mean, .median, .var, .std, .count, .size, .nunique, .min, .max, .first, .last, .prod,
    .sem, .skew, .quantile, .any, .all, .idxmax, .idxmin]

def Agg.ofName? (s : String) : Option Agg := Agg.every.find? (·.name == s)

/-- The kind of the summaries of a column of kind `k`. -/
def Agg.resultKind (k : Kind) : Agg → Kind
  | .sum =>
    match k with
    | .bool => .int64
    | other => other
  | .prod =>
    match k with
    | .bool => .int64
    | other => other
  | .skew => if k == .object then .object else .float64
  | .mean | .median | .var | .std | .sem | .quantile => .float64
  | .count | .size | .nunique | .idxmax | .idxmin => .int64
  | .any | .all => .bool
  | .min | .max | .first | .last => k

def nan : Float := 0.0 / 0.0

/-- A signed 64-bit integer after wrapping around. -/
def wrapSigned (n : Int) : Int :=
  (n + Int.ofNat (Nat.pow 2 63)) % Int.ofNat (Nat.pow 2 64) - Int.ofNat (Nat.pow 2 63)

/-- An unsigned 64-bit integer after wrapping around. -/
def wrapUnsigned (n : Int) : Int := n % Int.ofNat (Nat.pow 2 64)

/-- The sum of the doubles that are not NaN, each step correcting for the rounding of the one
before; a NaN correction (from an infinite value) starts over at zero. Also the count. -/
def compensatedSum (xs : List Float) : Float × Nat :=
  let step := fun (acc : Float × Float × Nat) (x : Float) =>
    let (s, comp, n) := acc
    if x.isNaN then acc
    else
      let y := x - comp
      let t := s + y
      let c := t - s - y
      (t, if c.isNaN then 0 else c, n + 1)
  let (s, _, n) := xs.foldl step (0, 0, 0)
  (s, n)

/-- The running mean and sum of squared deviations of the doubles that are not NaN, and
their count. -/
def deviations (xs : List Float) : Float × Nat :=
  let step := fun (acc : Float × Float × Nat) (x : Float) =>
    let (mean, m2, n) := acc
    if x.isNaN then acc
    else
      let n' := n + 1
      let mean' := mean + (x - mean) / n'.toFloat
      (mean', m2 + (x - mean') * (x - mean), n')
  let (_, m2, n) := xs.foldl step (0, 0, 0)
  (m2, n)

/-- The sample variance (one degree of freedom removed); NaN below two values. -/
def sampleVariance (xs : List Float) : Float :=
  let (m2, n) := deviations xs
  if n ≤ 1 then nan else m2 / (n - 1).toFloat

/-- The middle value, or the mean of the two middle values, of the doubles that are not NaN. -/
def medianOf (xs : List Float) : Float :=
  let sorted := (xs.filter fun x => !x.isNaN).mergeSort fun a b => a ≤ b
  let n := sorted.length
  if n == 0 then nan
  else if n % 2 == 1 then sorted.getD (n / 2) nan
  else (sorted.getD (n / 2) nan + sorted.getD (n / 2 - 1) nan) / 2

/-- A cell of a number column as a double; missing is NaN. -/
def cellFloat : Cell → Float
  | .int n => Float.ofInt n
  | .float x => x
  | .bool b => if b then 1 else 0
  | _ => nan

/-- A cell of a mixed column as a double, the way a conversion to doubles reads it. -/
def cellNumber? : Cell → Option Float
  | .int n => some (Float.ofInt n)
  | .float x => some x
  | .bool b => some (if b then 1 else 0)
  | .text s => Decimal.readNumber? s
  | .missing => some nan
  | _ => none

def isText : Cell → Bool
  | .text _ => true
  | _ => false

/-- The first cell that is not missing, kept or replaced by `better` as the rest come. -/
def extreme (better : Cell → Cell → Bool) (cells : List Cell) : Cell :=
  match cells.filter (!·.isMissing) with
  | [] => .missing
  | c :: rest => rest.foldl (fun acc x => if better x acc then x else acc) c

/-- The greater of two cells wins; ties keep the earlier. -/
def greater (x acc : Cell) : Bool := cellOrder x acc == .gt

def smaller (x acc : Cell) : Bool := cellOrder x acc == .lt

/-- The number of distinct cells that are not missing. -/
def distinctCount (cells : List Cell) : Nat :=
  let present := cells.filter (!·.isMissing)
  (present.foldl (fun (seen : List Cell) x =>
    if seen.any (fun y => cellOrder x y == .eq && isText x == isText y) then seen else x :: seen) []).length

/-- Adding a value to a running sum in a mixed column. -/
def addMixed (acc x : Cell) : Except Fault Cell :=
  match acc, x with
  | .text a, .text b => .ok (.text (a ++ b))
  | .text _, other => .error (.badConcat other.typeName)
  | other, .text _ => .error (.badOperands other.typeName "str")
  | .float a, y => .ok (.float (a + cellFloat y))
  | y, .float b => .ok (.float (cellFloat y + b))
  | a, b =>
    let n (c : Cell) : Int := match c with
      | .int k => k
      | .bool true => 1
      | _ => 0
    .ok (.int (n a + n b))

/-- The sum of a mixed column's cells: the first value, then each next one added. -/
def mixedSum (cells : List Cell) : Except Fault Cell :=
  match cells.filter (!·.isMissing) with
  | [] => .ok (.int 0)
  | c :: rest => rest.foldlM addMixed c

def mixedNumbers (how : String) (cells : List Cell) : Except Fault (List Float) :=
  if cells.any isText then .error (.aggregationFailed how)
  else .ok ((cells.filter (!·.isMissing)).map cellFloat)

/-- The sample variance by two passes: the mean, then the squared deviations from it. -/
def twoPassVariance (xs : List Float) : Float :=
  let n := xs.length
  if n ≤ 1 then nan
  else
    let mean := xs.foldl (· + ·) 0 / n.toFloat
    (xs.foldl (fun s x => s + (mean - x) * (mean - x)) 0) / (n - 1).toFloat

/-- The median of a mixed group: a text in the group makes it fail. -/
def mixedMedian (cells : List Cell) : Except Fault Float :=
  (mixedNumbers "median" cells).map medianOf

/-- An extreme of a mixed group (see the module comment). -/
def mixedExtreme (agg : Agg) (cells : List Cell) : Except Fault Cell :=
  let present := cells.filter (!·.isMissing)
  let texts := present.any isText
  if texts && (present.length < cells.length || present.any (!isText ·)) then
    .error (.aggregationFailed agg.name)
  else .ok (extreme (if agg == .max then greater else smaller) cells)

/-- The sum of a number column's group. -/
def numericSum (kind : Kind) (cells : List Cell) : Cell :=
  match kind with
  | .float64 => .float (compensatedSum (cells.map cellFloat)).1
  | .uint64 =>
    .int (wrapUnsigned (cells.foldl (fun s c => match c with
      | .int n => s + n
      | _ => s) 0))
  | _ =>
    .int (wrapSigned (cells.foldl (fun s c => match c with
      | .int n => s + n
      | .bool true => s + 1
      | _ => s) 0))

/-- The product of a number column's group: wrapping integers, doubles in order, booleans as
zero and one. -/
def numericProd (kind : Kind) (cells : List Cell) : Cell :=
  match kind with
  | .float64 => .float (cells.foldl (fun p c => match c with
    | .float x => if x.isNaN then p else p * x
    | _ => p) 1)
  | .uint64 => .int (cells.foldl (fun p c => match c with
    | .int n => wrapUnsigned (p * n)
    | _ => p) 1)
  | _ => .int (cells.foldl (fun p c => match c with
    | .int n => wrapSigned (p * n)
    | .bool b => if b then p else 0
    | _ => p) 1)

def repeatLimit : Nat := 1000000

/-- A text repeated `n` times; nothing for `n ≤ 0`. -/
def repeatText (s : Text) (n : Int) : Except Fault Cell :=
  if n ≤ 0 then .ok (.text ⟨[]⟩)
  else if n.toNat * s.points.length > repeatLimit then .error (.aggregationFailed "prod")
  else .ok (.text ⟨(List.replicate n.toNat s.points).flatten⟩)

/-- A whole number or boolean as an integer. -/
def wholeOf? : Cell → Option Int
  | .int n => some n
  | .bool b => some (if b then 1 else 0)
  | _ => none

/-- Two values of a mixed column multiplied as values multiply: numbers as numbers, a text by a
whole number repeated; two texts, or a text and a double, do not multiply. -/
def mulMixed (a b : Cell) : Except Fault Cell :=
  match a, b with
  | .text s, x =>
    match wholeOf? x with
    | some n => repeatText s n
    | none => .error (.aggregationFailed "prod")
  | x, .text s =>
    match wholeOf? x with
    | some n => repeatText s n
    | none => .error (.aggregationFailed "prod")
  | .float x, y => .ok (.float (x * cellFloat y))
  | y, .float x => .ok (.float (cellFloat y * x))
  | x, y => .ok (.int ((wholeOf? x).getD 0 * (wholeOf? y).getD 0))

/-- The product of a mixed group: missing cells count as one, the first value is multiplied by
each next one, and an empty group gives one. -/
def mixedProd (cells : List Cell) : Except Fault Cell :=
  match cells.map fun c => if c.isMissing then Cell.int 1 else c with
  | [] => .ok (.int 1)
  | c :: rest => rest.foldlM mulMixed c

/-- The skewness of the doubles that are not NaN, from the one-pass update of the first three
moments; NaN below three values, zero without spread. -/
def skewOf (xs : List Float) : Float :=
  let step := fun (acc : Float × Float × Float × Nat) (x : Float) =>
    let (m1, m2, m3, n1) := acc
    if x.isNaN then acc
    else
      let n := n1 + 1
      let delta := x - m1
      let deltaN := delta / n.toFloat
      let term1 := delta * deltaN * n1.toFloat
      (m1 + deltaN, m2 + term1, m3 + term1 * deltaN * (n.toFloat - 2) - 3 * deltaN * m2, n)
  let (_, m2, m3, n) := xs.foldl step (0, 0, 0, 0)
  let ct := n.toFloat
  if n < 3 then nan
  else if m2 == 0 then 0
  else (ct * Float.pow (ct - 1) 0.5 / (ct - 2)) * (m3 / Float.pow m2 1.5)

/-- The middle quantile of the doubles that are not NaN: the value at the middle position, or
linear interpolation between the two around it. -/
def middleQuantile (xs : List Float) : Float :=
  let sorted := (xs.filter fun x => !x.isNaN).mergeSort fun a b => a ≤ b
  let n := sorted.length
  if n == 0 then nan
  else
    let idx := (n - 1) / 2
    let frac : Float := if (n - 1) % 2 == 0 then 0 else 0.5
    let v := sorted.getD idx nan
    if frac == 0 then v else v + (sorted.getD (idx + 1) nan - v) * frac

/-- The truth of a present value: a nonempty text, a nonzero number, a true boolean. -/
def cellTruth : Cell → Bool
  | .text s => !s.points.isEmpty
  | .int n => n != 0
  | .float x => x != 0
  | .bool b => b
  | _ => true

/-- The two cells compared by `op` as values compare: numbers with numbers and booleans, texts
with texts; other pairs fail naming the two types. -/
def compareCells (op : Op) (a b : Cell) : Except Fault Bool :=
  match a, b with
  | .text x, .text y =>
    let o := Text.compareLex x.points y.points
    .ok (if op == .gt then o == .gt else o == .lt)
  | x, y =>
    match cellNum x, cellNum y with
    | some p, some q => .ok (p.compare? q == some (if op == .gt then .gt else .lt))
    | _, _ => .error (.unorderable op a.typeName b.typeName)

/-- The label of the first row holding the greatest (`max`) or least present value, or a
missing cell when there is none. -/
def extremeLabel (max : Bool) (cells : List Cell) (labels : List Cell) : Except Fault Cell := do
  let best ← (cells.zip labels).foldlM (fun (best : Option (Cell × Cell)) (c, l) =>
    if c.isMissing then pure best
    else match best with
      | none => pure (some (c, l))
      | some (b, bl) => do
        let better ← compareCells (if max then .gt else .lt) c b
        pure (some (if better then (c, l) else (b, bl)))) none
  pure ((best.map (·.2)).getD .missing)

/-- The summary of one group's cells in a column of kind `kind`; `numbers` are the column's
cells already read as doubles, when the function needs that of a mixed column. -/
def summarize (kind : Kind) (agg : Agg) (cells : List Cell) (numbers : List Float)
    (labels : List Cell) : Except Fault Cell :=
  let present := cells.filter (!·.isMissing)
  match agg with
  | .prod => if kind == Kind.object then mixedProd cells else .ok (numericProd kind cells)
  | .sem =>
    let (m2, n) := deviations numbers
    .ok (.float (if n ≤ 1 then nan else (m2 / (n - 1).toFloat / n.toFloat).sqrt))
  | .skew => .ok (.float (skewOf numbers))
  | .quantile =>
    if kind == Kind.object then .error .quantileOfObjects
    else .ok (.float (middleQuantile (cells.map cellFloat)))
  | .any => .ok (.bool (present.any cellTruth))
  | .all => .ok (.bool (present.all cellTruth))
  | .idxmax => extremeLabel true cells labels
  | .idxmin => extremeLabel false cells labels
  | .count => .ok (.int present.length)
  | .size => .ok (.int cells.length)
  | .nunique => .ok (.int (distinctCount cells))
  | .first => .ok (present.headD .missing)
  | .last => .ok (present.getLastD .missing)
  | .std => .ok (.float (sampleVariance numbers).sqrt)
  | .sum => if kind == Kind.object then mixedSum cells else .ok (numericSum kind cells)
  | .mean =>
    if kind == Kind.object then do
      let xs ← mixedNumbers "mean" cells
      pure (.float (if xs.isEmpty then nan else xs.foldl (· + ·) 0 / xs.length.toFloat))
    else
      let (s, n) := compensatedSum (cells.map cellFloat)
      .ok (.float (if n == 0 then nan else s / n.toFloat))
  | .median =>
    if kind == Kind.object then (mixedMedian cells).map Cell.float
    else .ok (.float (medianOf (cells.map cellFloat)))
  | .var =>
    if kind == Kind.object then do
      let xs ← mixedNumbers "var" cells
      pure (.float (twoPassVariance xs))
    else .ok (.float (sampleVariance (cells.map cellFloat)))
  | .min | .max =>
    if kind == Kind.object then mixedExtreme agg cells
    else .ok (extreme (if agg == .max then greater else smaller) cells)

/-- The column's cells read as doubles for a standard deviation; a mixed column's text that is
no number stops it. -/
def deviationNumbers (c : Column) : Except Fault (Array Float) :=
  if c.kind == Kind.object then
    c.cells.mapM fun x =>
      match cellNumber? x with
      | some v => .ok v
      | none =>
        match x with
        | .text s => .error (.notANumber s)
        | _ => .ok nan
  else .ok (c.cells.map cellFloat)

/-- The column of summaries of the groups, each group a list of row positions; `labels` are the
rows' labels. Row labels of groups without a present value are blanks, held as doubles. -/
def summarizeColumn (c : Column) (agg : Agg) (groups : List (List Nat)) (labels : Array Cell) :
    Except Fault Column := do
  let numbers ← if agg == .std || agg == .sem || agg == .skew then deviationNumbers c else pure #[]
  let cells ← groups.mapM fun rows =>
    summarize c.kind agg (rows.map fun i => c.cells.getD i .missing)
      (rows.map fun i => numbers.getD i nan) (rows.map fun i => labels.getD i .missing)
  let kind := agg.resultKind c.kind
  if (agg == .idxmax || agg == .idxmin) && cells.any Cell.isMissing then
    pure ⟨.float64, (cells.map fun x => match x with
      | .int n => .float (Float.ofInt n)
      | _ => .float nan).toArray⟩
  else pure ⟨kind, cells.toArray⟩

end Tabula.Query
