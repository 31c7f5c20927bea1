import Tabula.Query.Compare
import Tabula.Query.Select
import Tabula.Regex.Match
import Tabula.Text.Blank

/-!
Filter rules: a column key, an operator and a value; on 64-bit integers and doubles a value that
reads as a number is a double first. `eq` … `le` compare (`compareColumn`); `contains` and `regex`
match the cell's text against the value as a pattern, and a syntax error of `regex` stops the run
with its value; `isnull` and `notnull` test for a missing cell; `in` looks a text cell up among the
comma-separated parts; any other operator keeps every row. A key picking one column drops the rows
it rejects, one picking several blanks the rejected cells instead. On a single column the key names
rows by label: a list or a mask picks rows, whose verdicts are moved back by label, and a single
label picks one cell, which has no text methods and whose comparison is no mask.
-/

namespace Tabula.Query

open Json

/-- Why processing stops: a fault, or a `regex` pattern with a syntax error, with its value. -/
inductive Stop where
  | fault (f : Fault)
  | badPattern (value : Value)

def lift {α : Type} (r : Except Fault α) : Except Stop α := r.mapError Stop.fault

/-- What a filter rule tests. -/
inductive Test where
  | compare (op : Op)
  | contains
  | regex
  | isNull
  | notNull
  | among
  | ignored

/-- The test an operator names. -/
def Test.ofValue (v : Value) : Test :=
  match v with
  | .str t =>
    if t.eqString "eq" then .compare .eq
    else if t.eqString "ne" then .compare .ne
    else if t.eqString "gt" then .compare .gt
    else if t.eqString "ge" then .compare .ge
    else if t.eqString "lt" then .compare .lt
    else if t.eqString "le" then .compare .le
    else if t.eqString "contains" then .contains
    else if t.eqString "regex" then .regex
    else if t.eqString "isnull" then .isNull
    else if t.eqString "notnull" then .notNull
    else if t.eqString "in" then .among
    else .ignored
  | _ => .ignored

/-- A filter rule as read from the configuration. -/
structure Rule where
  column : Value
  test : Test
  value : Value

/-- Reads the rule's column, operator and value, in that order. -/
def Rule.read (v : Value) : Except Fault Rule := do
  let column ← index v "column"
  let op ← index v "operator"
  let value ← index v "value"
  pure ⟨column, Test.ofValue op, value⟩

end Tabula.Query

namespace Tabula

/-- The value a rule compares with a column of this kind: on 64-bit integers and doubles a value
that reads as a number becomes that double; any other value stays as it is. -/
def Kind.ruleValue (kind : Kind) (v : Json.Value) : Json.Value :=
  if kind == Kind.float64 || kind == Kind.int64 then
    match Query.numberOf? v with
    | some x => .float x
    | none => v
  else v

/-- The class of the element type of a kind. -/
def Kind.dtypeClass : Kind → String
  | .int64 => "Int64DType"
  | .uint64 => "UInt64DType"
  | .float64 => "Float64DType"
  | .bool => "BoolDType"
  | .object => "ObjectDType"

end Tabula

namespace Tabula.Query

open Json

def seriesLabels (c : Column) (ls : RowLabels) : List Nat := (List.range c.height).map ls.at

/-- The value as the rule uses it: as the kind of the column reads it, when the key picks one
column of a frame or anything from a single column. -/
def Rule.usedValue (t : Table) (r : Rule) : Value :=
  match t with
  | .frame f =>
    match f.pickBy r.column with
    | .ok (.column _ c) => c.kind.ruleValue r.value
    | _ => r.value
  | .series _ c ls =>
    match seriesPickBy (seriesLabels c ls) r.column with
    | .ok _ => c.kind.ruleValue r.value
    | .error _ => r.value

/-- The value as a pattern: its text. -/
def patternSource : Value → List Nat
  | .str t => t.points
  | other => other.display.points

/-- The parts of an `in` value: split at commas, blanks stripped. -/
def amongParts (v : Value) : Except Fault (List Text) :=
  match v with
  | .str t => .ok ((t.points.splitOn 0x2C).map fun p => Text.strip ⟨p⟩)
  | other => .error (.noAttribute other.typeName "split")

/-- The cell as a pattern sees it. -/
def cellPoints (c : Cell) : List Nat := c.asText.points

/-- The pattern of a `contains` or `regex` rule. -/
def compilePattern (anchored : Bool) (value : Value) : Except Stop Regex.Pattern :=
  let src := patternSource value
  match Regex.compile src with
  | .ok p => .ok p
  | .error e => if anchored && e.isMalformed then .error (.badPattern value) else .error (.fault (.pattern src e))

/-- Which cells of the column pass the test; `parts` are the parts of an `in` value. -/
def passes (c : Column) (test : Test) (value : Value) (parts : List Text) :
    Except Stop (List Bool) :=
  let cells := c.cells.toList
  match test with
  | .compare op => lift (compareColumn c op value)
  | .contains => do
    let p ← compilePattern false value
    cells.mapM fun x => (p.search (cellPoints x)).mapError fun _ => .fault .brokenSpan
  | .regex => do
    let p ← compilePattern true value
    cells.mapM fun x => (p.matchStart (cellPoints x)).mapError fun _ => .fault .brokenSpan
  | .isNull => pure (cells.map Cell.isMissing)
  | .notNull => pure (cells.map fun x => !x.isMissing)
  | .among => pure (cells.map fun x => match x with
    | .text s => parts.contains s
    | _ => false)
  | .ignored => pure (cells.map fun _ => true)

def blankCell : Kind → Cell
  | .object | .bool => .missing
  | _ => .float (0.0 / 0.0)

/-- The column turned into one that can hold a blank: integers into doubles, booleans into a
mixed column. -/
def widen (c : Column) : Column :=
  match c.kind with
  | .int64 | .uint64 =>
    ⟨.float64, c.cells.map fun x => match x with
      | .int n => .float (Float.ofInt n)
      | other => other⟩
  | .bool => ⟨.object, c.cells⟩
  | _ => c

/-- Blanks the cells the masks reject, one mask per column (see the module comment). -/
def blankFrame (f : Frame) (masks : List (List Bool)) : Frame :=
  let pairs := f.columns.toList.zip masks
  let spoiled (k : Kind) : Bool := pairs.any fun ((_, c), m) => c.kind == k && m.any (· == false)
  let columns := pairs.map fun ((n, c), m) =>
    let w := if spoiled c.kind then widen c else c
    (n, ({ kind := w.kind, cells := ((w.cells.toList.zip m).map fun (x, keep) =>
      if keep then x else blankCell w.kind).toArray } : Column))
  { f with columns := columns.toArray }

/-- The masks of the picked columns, on the rows they have. -/
def maskColumns (cols : List Column) (test : Test) (value : Value) (parts : List Text) :
    Except Stop (List (List Bool)) :=
  match test with
  | .contains | .regex => .error (.fault (.noAttribute "DataFrame" "str"))
  | _ => cols.mapM fun c => passes c test value parts

/-- Spreads a mask over the rows a row mask kept, rejecting the rows it dropped. -/
def spreadMask (kept : List Bool) (mask : List Bool) : List Bool :=
  match kept with
  | [] => []
  | true :: rest => mask.headD false :: spreadMask rest mask.tail
  | false :: rest => false :: spreadMask rest mask

/-- The frame after a rule whose key picked `pick`. -/
def filterPicked (f : Frame) (pick : Pick) (r : Rule) (value : Value) (parts : List Text) :
    Except Stop Frame :=
  match pick with
  | .column _ c => do
    let mask ← passes c r.test value parts
    pure (f.keepRows mask)
  | .columns ps => do
    let masks ← maskColumns (ps.filterMap fun i => (f.columns[i]?).map (·.2)) r.test value parts
    let full := (List.range f.columns.size).map fun j =>
      match (ps.zip masks).find? (·.1 == j) with
      | some (_, m) => m
      | none => List.replicate f.height false
    pure (blankFrame f full)
  | .rows kept => do
    let sub := f.keepRows kept
    let masks ← maskColumns (sub.columns.toList.map (·.2)) r.test value parts
    pure (blankFrame f (masks.map (spreadMask kept)))

/-! ## Rules on a single column -/

/-- A single column keeping the rows where the mask holds, with their labels. -/
def keepSeriesRows (name : Text) (c : Column) (ls : RowLabels) (mask : List Bool) : Table :=
  let rows := ((List.range c.height).zip mask).filterMap fun (i, b) => if b then some i else none
  if rows == List.range c.height then .series name c ls
  else .series name (c.pick rows) (.kept (rows.map ls.at).toArray)

/-- A mask over the rows at positions `ps` of a column of `n` rows, moved onto the column's rows
by their labels: the positions must be the column's rows, each once, in any order. -/
def alignMask (n : Nat) (ps : List Nat) (mask : List Bool) : Except Fault (List Bool) :=
  if ps == List.range n then .ok mask
  else if !(List.range n).all ps.contains then .error .unalignable
  else if ps.length != n then .error (.maskAxis n ps.length)
  else .ok ((List.range n).map fun i => mask.getD (ps.idxOf i) false)

/-- The type name of one cell of a column of the kind, as a value on its own: a number kind's
cells are typed numbers, a mixed column's cells are the values themselves. -/
def scalarTypeName (kind : Kind) (x : Cell) : String :=
  match kind with
  | .int64 => "numpy.int64"
  | .uint64 => "numpy.uint64"
  | .float64 => "numpy.float64"
  | .bool => "numpy.bool"
  | .object => x.typeName

/-- What comparing one cell with a value gives: a truth value, typed when the cell is a typed
number, or truth values laid out in a block of `shape`. -/
inductive Verdict where
  | flag (typed : Bool) (b : Bool)
  | bits (shape : List Nat) (items : List Bool)

/-- A value of a mixed column against a value, as the values themselves compare: numbers and
booleans by value, a missing cell as NaN, texts in code-point order, and other pairs unequal and
without order. -/
def plainTest (op : Op) (x : Cell) (v : Value) : Except Fault Bool :=
  let a := match x with
    | .missing => some (Num.float (0.0 / 0.0))
    | c => cellNum c
  match a, valueNum v with
  | some a, some b => .ok (op.test (a.compare? b))
  | _, _ =>
    match x, v with
    | .text s, .str t => .ok (op.test (some (Text.compareLex s.points t.points)))
    | _, _ => unequal op (.unorderable op x.typeName v.typeName)

/-- A typed number against a list laid out as a block: item by item, the number stretched over
the block's shape. -/
def blockVerdict (kind : Kind) (op : Op) (x : Cell) (xs : List Value) : Except Fault Verdict := do
  let b ← (Block.build xs).mapError Fault.badBlock
  if b.kind == .text then
    match op with
    | .eq => pure (.bits b.shape (b.items.map fun _ => false))
    | .ne => pure (.bits b.shape (b.items.map fun _ => true))
    | _ => throw (.noLoop op kind.dtypeClass)
  else if b.kind == .object then
    pure (.bits b.shape (← b.items.mapM (cellAgainstValue kind op x)))
  else pure (.bits b.shape (b.items.map fun item => op.test (blockOrder kind x item)))

/-- One cell of a column of the kind against a value (see the module comment). -/
def cellVerdict (kind : Kind) (op : Op) (x : Cell) (v : Value) : Except Fault Verdict :=
  if kind == .object then (plainTest op x v).map (.flag false)
  else match v with
    | .null | .obj _ =>
      (unequal op (.unorderable op (numericTypeName kind) v.typeName)).map (.flag false)
    | .str _ => (unequal op (.noLoop op kind.dtypeClass)).map (.flag false)
    | .arr xs => blockVerdict kind op x xs
    | .int n =>
      if kind == .float64 && (Float.ofInt n).isInf then .error .intTooLarge
      else (numericTest kind op x v).map (.flag true)
    | _ => (numericTest kind op x v).map (.flag true)

/-- The rows of a column of `n` rows that a verdict keeps: a truth value is taken as a label and
names no row, and a block must be a flat mask with one entry per row. -/
def Verdict.rows (n : Nat) : Verdict → Except Fault (List Bool)
  | .flag typed b =>
    .error (if typed then .missingLabel (if b then "np.True_" else "np.False_")
      else .missingKey (.bool b))
  | .bits shape items =>
    if shape.headD 0 != n then .error (.maskLength (shape.headD 0) n)
    else if shape.length > 1 then .error (.tooManyIndices shape.length)
    else .ok items

/-- A rule on the one cell a key picks from a column of `n` rows (see the module comment). -/
def cellRule (kind : Kind) (x : Cell) (test : Test) (value : Value) (n : Nat) :
    Except Fault (List Bool) :=
  match test with
  | .compare op => do (← cellVerdict kind op x value).rows n
  | .contains | .regex =>
    .error (if kind == .object then .noAttribute x.typeName "astype"
      else .noAttribute "numpy.str_" "str")
  | .isNull => .error (.noAttribute (scalarTypeName kind x) "isna")
  | .notNull => .error (.noAttribute (scalarTypeName kind x) "notna")
  | .among => .error (.noAttribute (scalarTypeName kind x) "isin")
  | .ignored => .ok (List.replicate n true)

/-- A rule that tests something, on a single column, once its value and parts are known. -/
def Rule.onSeries (r : Rule) (name : Text) (c : Column) (ls : RowLabels) (value : Value)
    (parts : List Text) : Except Stop Table := do
  let labels := seriesLabels c ls
  let keep ← match ← lift (seriesPickBy labels r.column) with
    | .cell i => lift (cellRule c.kind (c.cells.getD i .missing) r.test value labels.length)
    | .rows ps => do
      let mask ← passes (c.pick ps) r.test value parts
      lift (alignMask labels.length ps mask)
  pure (keepSeriesRows name c ls keep)

/-- The table after one rule. -/
def Rule.apply (t : Table) (r : Rule) : Except Stop Table := do
  let value := r.usedValue t
  match r.test with
  | .ignored => pure t
  | test =>
    let parts ← match test with
      | .among => lift (amongParts value)
      | _ => pure []
    match t with
    | .series name c ls => r.onSeries name c ls value parts
    | .frame f =>
      let pick ← lift (f.pickBy r.column)
      let g ← filterPicked f pick r value parts
      pure (.frame g)

/-- The table after the rules, in order. -/
def applyFilters (t : Table) (rules : Value) : Except Stop Table := do
  let rs ← lift (members rules)
  rs.foldlM (fun t v => do
    let r ← lift (Rule.read v)
    r.apply t) t

end Tabula.Query
