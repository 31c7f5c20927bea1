import Tabula.Query.Access
import Tabula.Query.Block
import Tabula.Table.Frame

/-!
Comparing a column with a filter value. A number column compares numerically, an integer column
meeting a double as doubles and a boolean counting as 0 or 1; against a text it is equal nowhere
and refuses an order. A mixed column compares cell by cell, numbers with numbers and texts with
texts, and refuses an order at the first pair that has none. Missing cells, and every cell against
null or NaN, satisfy only `ne`. A list value is laid out as a block (`Block.build`) and compared
item by item when flat; a wider block gives a result too wide for a column.
-/

namespace Tabula.Query

open Json

/-- Numbers as comparisons see them: integers exactly, doubles as they are. -/
inductive Num where
  | int (n : Int)
  | float (x : Float)

/-- The order of two doubles, `none` when one is NaN. -/
def compareFloats (a b : Float) : Option Ordering :=
  if a < b then some .lt else if b < a then some .gt else if a == b then some .eq else none

/-- The exact order of an integer and a double, `none` when the double is NaN. -/
def compareIntFloat (n : Int) (x : Float) : Option Ordering :=
  if x.isNaN then none
  else if x.isInf then some (if x > 0 then .lt else .gt)
  else
    match Decimal.Binary.ofFloat? x with
    | none => none
    | some b =>
      let sign : Int := if Decimal.signBit x then -1 else 1
      let lhs : Int := n * Int.ofNat (Nat.pow 2 (-b.exponent).toNat)
      let rhs : Int := sign * (b.mantissa : Int) * Int.ofNat (Nat.pow 2 b.exponent.toNat)
      some (compare lhs rhs)

def Num.compare? : Num → Num → Option Ordering
  | .int a, .int b => some (compare a b)
  | .float a, .float b => compareFloats a b
  | .int a, .float b => compareIntFloat a b
  | .float a, .int b => (compareIntFloat b a).map Ordering.swap

/-- Does the operator hold of an order? An unordered pair satisfies only `ne`. -/
def Op.test (op : Op) : Option Ordering → Bool
  | none => op == .ne
  | some o =>
    match op with
    | .eq => o == .eq
    | .ne => o != .eq
    | .gt => o == .gt
    | .ge => o != .lt
    | .lt => o == .lt
    | .le => o != .gt

/-- A value as a number, when it is a number or a boolean. -/
def valueNum : Value → Option Num
  | .int n => some (.int n)
  | .float x => some (.float x)
  | .bool b => some (.int (if b then 1 else 0))
  | _ => none

/-- A cell as a number, when it is a number or a boolean. -/
def cellNum : Cell → Option Num
  | .int n => some (.int n)
  | .float x => some (.float x)
  | .bool b => some (.int (if b then 1 else 0))
  | _ => none

/-- Is the value null or NaN? -/
def isNullValue : Value → Bool
  | .null => true
  | .float x => x.isNaN
  | _ => false

/-- The type name of a number column's cells as they meet a value of another type. -/
def numericTypeName : Kind → String
  | .int64 | .uint64 => "int"
  | .float64 => "float"
  | .bool => "bool"
  | .object => "object"

/-- Equality holds nowhere and inequality everywhere; ordering is refused with `refuse`. -/
def unequal (op : Op) (refuse : Fault) : Except Fault Bool :=
  match op with
  | .eq => .ok false
  | .ne => .ok true
  | _ => .error refuse

/-- One cell of a number column against a value. A value that is neither a number nor a text
meets every cell, NaN included, as an object that has no order with numbers. -/
def numericTest (kind : Kind) (op : Op) (c : Cell) (v : Value) : Except Fault Bool :=
  if isNullValue v then .ok (op == Op.ne)
  else match valueNum v with
    | some b =>
      if c.isMissing then .ok (op == Op.ne)
      else
        let a := match c, b with
          | .int n, .float _ => if kind == Kind.bool then cellNum c else some (.float (Float.ofInt n))
          | _, _ => cellNum c
        match a with
        | some a => .ok (op.test (a.compare? b))
        | none => .ok (op == Op.ne)
    | none =>
      match v with
      | .str _ => if c.isMissing then .ok (op == Op.ne) else unequal op (.invalidComparison kind.name "str")
      | _ => unequal op (.unorderable op (numericTypeName kind) v.typeName)

/-- One cell of a mixed column against a value. -/
def mixedTest (op : Op) (c : Cell) (v : Value) : Except Fault Bool :=
  if isNullValue v || c.isMissing then .ok (op == Op.ne)
  else match cellNum c, valueNum v with
    | some a, some b => .ok (op.test (a.compare? b))
    | _, _ =>
      match c, v with
      | .text s, .str t => .ok (op.test (some (Text.compareLex s.points t.points)))
      | _, _ => unequal op (.unorderable op c.typeName v.typeName)

def cellTest (kind : Kind) (op : Op) (c : Cell) (v : Value) : Except Fault Bool :=
  if kind.isNumeric then numericTest kind op c v else mixedTest op c v

/-- The order of a number cell and a number of a block of numbers: doubles when either side is
one, else exact integers. -/
def blockOrder (kind : Kind) (c : Cell) (item : Value) : Option Ordering :=
  match cellNum c, valueNum item with
  | some a, some b =>
    let toFloat (x : Num) : Num := match x with
      | .int n => .float (Float.ofInt n)
      | x => x
    if kind == Kind.float64 || (match item with | .float _ => true | _ => false) then
      (toFloat a).compare? (toFloat b)
    else a.compare? b
  | _, _ => none

/-- A number cell against one value of a block of values, as the values themselves compare: numbers
by value, anything else equal to no number and without order. -/
def cellAgainstValue (kind : Kind) (op : Op) (c : Cell) (item : Value) : Except Fault Bool :=
  match valueNum item with
  | some b =>
    match cellNum c with
    | some a => .ok (op.test (a.compare? b))
    | none => .ok (op == Op.ne)
  | none => unequal op (.unorderable op (numericTypeName kind) item.typeName)

/-- The positions of a block's items met by each cell position when a column of `rows` cells
meets a block of `shape`, the block's last dimension stretched against the column, in order. -/
def stretchedPairs (rows : Nat) (shape : List Nat) : List (Nat × Nat) :=
  let last := shape.getLastD 1
  let outer := (shape.dropLast).foldl (· * ·) 1
  let width := max last rows
  (List.range outer).flatMap fun o =>
    (List.range width).map fun j =>
      (if rows == 1 then 0 else j, o * last + (if last == 1 then 0 else j))

/-- A number column against a block with more than one dimension: the shapes must stretch to a
common one, the values must compare, and the result is then too wide for a column. -/
def compareWide (col : Column) (op : Op) (b : Block) : Except Fault (List Bool) := do
  let rows := col.cells.size
  let last := b.shape.getLastD 1
  if !(last == rows || last == 1 || rows == 1) then throw (.broadcast [rows] b.shape)
  if b.kind == .object then
    for (i, k) in stretchedPairs rows b.shape do
      let _ ← cellAgainstValue col.kind op (col.cells.getD i .missing) (b.items.getD k .null)
  throw (.dataNotFlat (b.shape.dropLast ++ [max last rows]))

/-- A column against a list value laid out as a block (see the module comment). -/
def compareBlock (col : Column) (op : Op) (xs : List Value) : Except Fault (List Bool) := do
  let b ← (Block.build xs).mapError Fault.badBlock
  let cells := col.cells.toList
  if b.shape.headD 0 != cells.length then throw (.lengthMismatch cells.length b.shape)
  if col.kind.isNumeric then
    if b.kind == .text then
      match op with
      | .eq => pure (cells.map fun _ => false)
      | .ne => pure (cells.map fun _ => true)
      | _ => throw (.invalidComparison col.kind.name "ndarray")
    else if b.shape.length != 1 then compareWide col op b
    else if b.kind == .object then
      (cells.zip b.items).mapM fun (c, x) => cellAgainstValue col.kind op c x
    else pure ((cells.zip b.items).map fun (c, x) => op.test (blockOrder col.kind c x))
  else if b.shape.length != 1 then throw (.shapesDiffer cells.length b.shape)
  else (cells.zip b.items).mapM fun (c, x) => mixedTest op c x

/-- Which rows of the column satisfy `op` against the value (see the module comment). -/
def compareColumn (col : Column) (op : Op) (v : Value) : Except Fault (List Bool) :=
  let cells := col.cells.toList
  match v with
  | .arr xs => compareBlock col op xs
  | .str _ =>
    if col.kind.isNumeric then
      match op with
      | .eq => .ok (cells.map fun _ => false)
      | .ne => .ok (cells.map fun _ => true)
      | _ => .error (.invalidComparison col.kind.name "str")
    else cells.mapM fun c => mixedTest op c v
  | .int n =>
    if col.kind == Kind.float64 && (Float.ofInt n).isInf then .error .intTooLarge
    else cells.mapM fun c => cellTest col.kind op c v
  | _ => cells.mapM fun c => cellTest col.kind op c v

end Tabula.Query
