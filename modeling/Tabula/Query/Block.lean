import Tabula.Json.Value

/-!
Lists laid out as blocks, the way arrays are built from nested lists: every list at one depth must
have the same length, with elements only at the deepest level, and at most 64 dimensions; a list
that breaks this makes the block ragged. The elements' kinds join into one (`BlockKind.join`):
booleans give way to integers and integers to doubles, texts take in numbers and booleans, and
anything else makes the block hold the values themselves; each element is then converted.
-/

namespace Tabula.Query

open Json

/-- The element kinds of a block. -/
inductive BlockKind where
  | bool
  | int64
  | uint64
  | float64
  | text
  | object
  deriving DecidableEq, Repr

/-- The kind one element asks for. -/
def BlockKind.ofValue : Value → BlockKind
  | .bool _ => .bool
  | .int n =>
    if -9223372036854775808 ≤ n && n < 9223372036854775808 then .int64
    else if 0 ≤ n && n < 18446744073709551616 then .uint64
    else .object
  | .float _ => .float64
  | .str _ => .text
  | _ => .object

/-- The kind two kinds of elements meet in. -/
def BlockKind.join (a b : BlockKind) : BlockKind :=
  if a == .object || b == .object then .object
  else if a == .text || b == .text then .text
  else if a == b then a
  else if a == .bool then b
  else if b == .bool then a
  else .float64

/-- The name of a kind of numbers, as comparisons print it. -/
def BlockKind.name : BlockKind → String
  | .bool => "bool"
  | .int64 => "int64"
  | .uint64 => "uint64"
  | .float64 => "float64"
  | .text => "str"
  | .object => "object"

def BlockKind.isNumeric (k : BlockKind) : Bool := k != .text && k != .object

/-- Why a list is not a block. -/
inductive BlockError where
  | ragged (shape : List Nat)
  | tooDeep
  deriving DecidableEq, Repr

/-- A shape as a tuple: `(2,)`, `(2, 3)`. -/
def shapeText (shape : List Nat) : String :=
  match shape with
  | [n] => "(" ++ toString n ++ ",)"
  | ns => "(" ++ ", ".intercalate (ns.map toString) ++ ")"

def BlockError.message : BlockError → String
  | .ragged shape =>
    "setting an array element with a sequence. The requested array has an inhomogeneous shape " ++
      "after " ++ toString shape.length ++ " dimensions. The detected shape was " ++
      shapeText shape ++ " + inhomogeneous part."
  | .tooDeep =>
    "setting an array element with a sequence. The requested array would exceed the maximum " ++
      "number of dimension of 64."

def maxDims : Nat := 64

/-- The walk over a nested list: the dimensions it settled on (`depth` of them count), whether an
element fixed them, whether the list broke the pattern, and the kind of the elements so far. -/
structure ShapeScan where
  depth : Nat
  dims : Array Nat
  settled : Bool
  ragged : Bool
  kind : Option BlockKind

def setDim (dims : Array Nat) (i n : Nat) : Array Nat :=
  if i < dims.size then dims.set! i n else (dims ++ Array.replicate (i - dims.size) 0).push n

namespace ShapeScan

def init : ShapeScan := ⟨maxDims, #[], false, false, none⟩

/-- A list of length `n` met at depth `cur`: an error when it breaks the pattern (with the depth
that then counts), else the scan with its length recorded. -/
def meetList (s : ShapeScan) (cur n : Nat) : Except ShapeScan ShapeScan :=
  if cur + 1 > s.depth then .error s
  else if !s.settled then .ok { s with dims := setDim s.dims cur n }
  else if n != s.dims.getD cur 0 then .error { s with depth := cur }
  else .ok s

def addKind (s : ShapeScan) (v : Value) : ShapeScan :=
  let k := BlockKind.ofValue v
  { s with kind := some ((s.kind.map (·.join k)).getD k) }

/-- An element met at depth `cur`: the depth is then fixed there. -/
def meetElement (s : ShapeScan) (cur : Nat) (v : Value) : ShapeScan :=
  if cur > s.depth then { s with settled := true, ragged := true }
  else if s.depth != cur then
    let s' := { s with depth := cur, settled := true }
    if s.settled then { s' with ragged := true } else s'.addKind v
  else { s with settled := true }.addKind v

mutual
/-- Walks a value met at depth `cur`. -/
def visit (cur : Nat) (s : ShapeScan) : Value → ShapeScan
  | .arr xs =>
    match s.meetList cur xs.length with
    | .error s' => { s' with ragged := true }
    | .ok s' =>
      if xs.isEmpty then { s' with settled := true, depth := cur + 1 }
      else visitAll (cur + 1) s' xs
  | v => s.meetElement cur v

/-- Walks the items of a list, each at depth `cur`. -/
def visitAll (cur : Nat) (s : ShapeScan) : List Value → ShapeScan
  | [] => s
  | x :: rest => visitAll cur (visit cur s x) rest
end

end ShapeScan

/-- A list laid out as a block: its shape, its kind and its elements in order, converted. -/
structure Block where
  shape : List Nat
  kind : BlockKind
  items : List Value

/-- The elements of a value in order, lists opened. -/
def leaves : Value → List Value
  | .arr xs => flatLeaves xs
  | v => [v]
where
  flatLeaves : List Value → List Value
    | [] => []
    | x :: rest => leaves x ++ flatLeaves rest

/-- The text an element has in a text block. -/
def elementText : Value → Value
  | .int n => .str (Text.ofString (Value.intText n))
  | .float x => .str (Text.ofString x.shortestText)
  | .bool b => .str (Text.ofString (if b then "True" else "False"))
  | v => v

/-- An element converted to the block's kind. -/
def convertElement (k : BlockKind) (v : Value) : Value :=
  match k, v with
  | .float64, .int n => .float (Float.ofInt n)
  | .float64, .bool b => .float (if b then 1 else 0)
  | .int64, .bool b | .uint64, .bool b => .int (if b then 1 else 0)
  | .text, v => elementText v
  | _, v => v

/-- Lays a list out as a block (see the module comment). -/
def Block.build (xs : List Value) : Except BlockError Block :=
  let s := ShapeScan.visit 0 ShapeScan.init (.arr xs)
  if s.ragged then
    if s.depth == maxDims then .error .tooDeep
    else .error (.ragged (s.dims.toList.take s.depth))
  else
    let kind := s.kind.getD .float64
    .ok ⟨s.dims.toList.take s.depth, kind, (leaves (.arr xs)).map (convertElement kind)⟩

theorem BlockKind.join_self (k : BlockKind) : k.join k = k := by
  cases k <;> rfl

end Tabula.Query
