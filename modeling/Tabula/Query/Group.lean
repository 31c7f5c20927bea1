import Tabula.Query.Method
import Tabula.Text.Blank

/-!
Grouping and aggregation, on when `grouping` and its `enabled` are both true. The aggregations
are read first, each a column and a function, columns in order of first appearance; then the keys
must each name one column, the aggregated columns must exist (the missing ones are reported
sorted), and there must be some aggregation. The columns are summarized in order and the first
failure stops all. The result has one row per group of rows with present keys, in the order of the
keys: the key columns named `name_`, then one column per function named `column_function`.
-/

namespace Tabula.Query

open Json

/-- Do two values stand for the same dictionary key? Numbers and booleans by value. -/
def sameKey (a b : Value) : Bool :=
  match a, b with
  | .str s, .str t => s == t
  | .null, .null => true
  | x, y =>
    match valueNum x, valueNum y with
    | some p, some q => p.compare? q == some .eq || (isNullValue x && isNullValue y)
    | _, _ => false

/-- Aggregation requests: column keys with their functions, in order of first appearance. -/
abbrev Requests := List (Value × List Value)

def Requests.add (rs : Requests) (col f : Value) : Requests :=
  if rs.any (fun (k, _) => sameKey k col) then
    rs.map fun (k, fs) => if sameKey k col then (k, fs ++ [f]) else (k, fs)
  else rs ++ [(col, [f])]

/-- Reads the aggregations: each one's column, then its function. -/
def readRequests (aggs : Value) : Except Fault Requests := do
  let items ← members aggs
  items.foldlM (fun rs a => do
    let col ← index a "column"
    let f ← index a "function"
    match col with
    | .arr _ => throw (.unhashable "list")
    | .obj _ => throw (.unhashable "dict")
    | _ => pure (rs.add col f)) []

/-- Where the aggregated columns are missing, the keys that name none, sorted: numbers first,
then texts, then the rest. -/
def missingColumnKeys (f : Frame) (rs : Requests) : List Value :=
  let absent := (rs.map (·.1)).filter fun k => (f.positionsNamed k).isEmpty
  let rank (v : Value) : Nat := match v with
    | .int _ | .float _ | .bool _ => 0
    | .str _ => 1
    | _ => 2
  absent.mergeSort fun a b =>
    if rank a != rank b then rank a < rank b
    else match a, b with
      | .str s, .str t => Text.compareLex s.points t.points != .gt
      | x, y =>
        match valueNum x, valueNum y with
        | some p, some q => p.compare? q != some .gt
        | _, _ => true

/-- What gathering keys into an index has seen so far. -/
structure KeyScan where
  null : Bool
  float : Bool
  bool : Bool
  int : Bool
  unsigned : Bool
  signed : Bool

/-- Gathers keys into an index, in order: `none` once a key makes the index hold values of any
kind (a text, a list, an object, an integer beyond 64 bits, or unsigned and negative integers
together; integers after a null are not looked at), else what was seen. Converting an integer
too large for a double fails. -/
def scanKeys (s : KeyScan) : List Value → Except Fault (Option KeyScan)
  | [] => .ok (some s)
  | v :: rest =>
    match v with
    | .null => scanKeys { s with null := true } rest
    | .bool _ => scanKeys { s with bool := true } rest
    | .float _ => scanKeys { s with float := true } rest
    | .int n =>
      if (Float.ofInt n).isInf then .error .intTooLarge
      else if s.null then scanKeys { s with int := true } rest
      else
        let s := { s with
          int := true
          signed := s.signed || (n < 0 && -9223372036854775808 ≤ n)
          unsigned := s.unsigned || (9223372036854775808 ≤ n && n < 18446744073709551616) }
        if (s.unsigned && s.signed) || 18446744073709551616 ≤ n || n < -9223372036854775808 then
          .ok none
        else scanKeys s rest
    | _ => .ok none

/-- Are keys gathered into an index held as doubles? So when they are numbers, with some double
or some null besides integers, and nothing else. -/
def keysAsDoubles (keys : List Value) : Except Fault Bool := do
  match ← scanKeys ⟨false, false, false, false, false, false⟩ keys with
  | none => pure false
  | some s => pure (!s.bool && (s.float || (s.null && s.int)))

/-- The missing keys as a list of index items, as doubles or as given. -/
def missingKeysText (asDoubles : Bool) (keys : List Value) : String :=
  if asDoubles then
    "[" ++ ", ".intercalate (keys.map fun v => (numberOf? v).getD nan |>.shortestText) ++ "]"
  else listText keys

/-- The column an aggregation names, which exists. -/
def aggregatedColumn (f : Frame) (key : Value) : Option (Text × Column) :=
  match f.positionsNamed key with
  | i :: _ => f.columns[i]?
  | [] => none

/-- A label must be usable as a dictionary key. -/
def checkLabel (label : Value) : Except Fault Unit :=
  match label with
  | .arr _ => .error (.unhashable "list")
  | .obj _ => .error (.unhashable "dict")
  | _ => .ok ()

mutual

/-- What one function value gives on a column's groups: a name calls that method, a list calls
each of its entries (see `functionsOutcome`), and other values cannot be called. -/
def functionOutcome (grouping : Except Fault Grouping) (keysType : String) (name : Text)
    (c : Column) : Value → Except Fault Outcome
  | .str t =>
    match Method.ofName? t.toStringLossy keysType with
    | some m =>
      if t.toString?.isSome then m.outcome grouping name c
      else .error (.unknownAggregation t)
    | none => .error (.unknownAggregation t)
  | .null => .error .missingFunction
  | .obj _ => .error .nestedRenamer
  | .arr fs => do
    let labelled ← functionsOutcome grouping keysType name c (fs.any fun fv => fv matches .arr _) fs
    pure (.grid (← combineOutcomes labelled))
  | other => do
    let g ← grouping
    if g.groups.isEmpty then pure (.series (some name) g.keys ⟨c.kind, #[]⟩)
    else throw (.notCallable other.typeName)
termination_by v => sizeOf v

/-- The results of the entries of a function list, in order, each labelled: when some entry is a
list (`pairs`), every list entry must be a pair of a label and a function, and any other entry
labels itself; otherwise every entry labels itself. A label that cannot be a key fails after its
function has run; the first failure stops it. -/
def functionsOutcome (grouping : Except Fault Grouping) (keysType : String) (name : Text)
    (c : Column) (pairs : Bool) : List Value → Except Fault (List (Value × Outcome))
  | [] => .ok []
  | fv :: rest => do
    let (label, o) ← match pairs, fv with
      | true, .arr [a, b] => do pure (a, ← functionOutcome grouping keysType name c b)
      | true, .arr xs => throw (.notAPair xs.length)
      | _, other => do pure (other, ← functionOutcome grouping keysType name c other)
    checkLabel label
    pure ((label, o) :: (← functionsOutcome grouping keysType name c pairs rest))
termination_by fs => sizeOf fs

end

/-- The grouped and summarized frame (see the module comment). -/
def aggregateFrame (t : Table) (keys : Value) (rs : Requests) : Except Fault Frame := do
  let groupers ← readGroupers t keys
  let f ← match t with
    | .frame f => pure f
    | .series .. => throw .nestedRenamer
  let asDoubles ← keysAsDoubles (rs.map (·.1))
  let absent := missingColumnKeys f rs
  if !absent.isEmpty then
    throw (.missingText ("Column(s) " ++ missingKeysText asDoubles absent ++ " do not exist"))
  if rs.isEmpty then throw .nothingToJoin
  let grouping := Grouping.build groupers (RowIndex.ofFrame f) f.height
  let blocks ← rs.mapM fun (k, fs) => do
    let (n, c) := (aggregatedColumn f k).getD (⟨[]⟩, default)
    let pairs := fs.any fun fv => fv matches .arr _
    let labelled ← functionsOutcome grouping keys.typeName n c pairs fs
    pure (n, ← combineOutcomes labelled)
  let grid ← combineColumns blocks
  let grid ← grid.resetIndex
  grid.flatten

/-- The table after grouping, when the configuration asks for it. -/
def applyGrouping (t : Table) (config : Value) : Except Fault Table := do
  let grouping ← index config "grouping"
  if !grouping.truthy then return t
  let enabled ← index grouping "enabled"
  if !enabled.truthy then return t
  let keys ← index grouping "columns"
  let aggs ← index config "aggregations"
  let rs ← readRequests aggs
  pure (.frame (← aggregateFrame t keys rs))

theorem functionsOutcome_nil (grouping : Except Fault Grouping) (keysType : String) (name : Text) (c : Column)
    (pairs : Bool) : functionsOutcome grouping keysType name c pairs [] = .ok [] := by
  simp [functionsOutcome]

end Tabula.Query
