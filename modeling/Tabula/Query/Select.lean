import Tabula.Query.Access
import Tabula.Query.Labels
import Tabula.Query.Compare
import Tabula.Table.Frame

/-!
Looking columns up by a key. On a frame a text names the columns carrying it (one stands alone,
several form a frame), a non-empty list of booleans is a row mask, and any other list is gathered
into an index (`Labels.ofKeys`) whose labels name columns one by one, an empty list naming none;
an object is refused. On a single column the same keys name rows by their labels, and a number
picks the cell of the row it labels (`seriesPickBy`). A missing label is reported with the index
when no label is found, and otherwise by the list of labels not found.
-/
namespace Tabula.Query

open Json

/-- What a key picks from a frame. -/
inductive Pick where
  | column (name : Text) (c : Column)
  | columns (positions : List Nat)
  | rows (mask : List Bool)

/-- Does a key name the column? Only a text can. -/
def keyNames (key : Value) (name : Text) : Bool :=
  match key with
  | .str t => t == name
  | _ => false

/-- Is the list a row mask: non-empty, and booleans only? -/
def isRowMask (xs : List Value) : Bool :=
  !xs.isEmpty && xs.all fun v => match v with
    | .bool _ => true
    | _ => false

end Tabula.Query

namespace Tabula

open Json Query

/-- The positions of the columns a key names. -/
def Frame.positionsNamed (f : Frame) (key : Value) : List Nat :=
  (List.range f.columns.size).filter fun i =>
    match f.columns[i]? with
    | some (n, _) => keyNames key n
    | none => false

/-- Do two labels stand for the same dictionary key? Numbers and booleans by value. -/
def sameLabel (a b : Value) : Bool :=
  match a, b with
  | .str s, .str t => s == t
  | .null, .null => true
  | x, y =>
    match valueNum x, valueNum y with
    | some p, some q => p.compare? q == some .eq
    | _, _ => false

def Frame.positionsOfLabel (f : Frame) : Label → List Nat
  | .value v => f.positionsNamed v
  | .tuple _ => []

/-- The positions a list of keys picks along an axis named `axis`, where `find` gives the
positions a label names, or why not all are there. An empty list picks nothing. -/
def Query.Labels.positionsAlong (axis : String) (find : Label → List Nat) (keys : List Value) :
    Except Fault (List Nat) := do
  let labels ← (Labels.ofKeys keys).mapError fun e => match e with
    | .notFlat => Fault.indexNotFlat
    | .deep n => Fault.indexDepth n
  if let some t := labels.items.findSome? Label.unhashable? then throw (.unhashable t)
  if labels.items.isEmpty then return []
  let found := labels.items.map find
  if found.all List.isEmpty then
    throw (.missingText ("None of [" ++ labels.text ++ "] are in the [" ++ axis ++ "]"))
  let absent := (labels.items.zip found).filterMap fun (l, ps) =>
    match l, ps with
    | .value v, [] => some v
    | _, _ => none
  let unique := absent.foldl (fun acc k => if acc.any (sameLabel k) then acc else acc ++ [k]) []
  if unique.isEmpty then pure found.flatten
  else throw (.missingText (listText unique ++ " not in index"))

/-- The positions of the columns a list of keys names, or why not all are there. -/
def Frame.positionsOf (f : Frame) (keys : List Value) : Except Fault (List Nat) :=
  Labels.positionsAlong "columns" f.positionsOfLabel keys

/-- What the key picks from the frame (see the module comment). -/
def Frame.pickBy (f : Frame) (key : Value) : Except Fault Pick :=
  match key with
  | .obj _ => .error .objectIndexer
  | .arr xs =>
    if isRowMask xs then
      if xs.length == f.height then
        .ok (.rows (xs.map fun v => match v with
          | .bool b => b
          | _ => false))
      else .error (.wrongLength xs.length f.height)
    else (f.positionsOf xs).map Pick.columns
  | _ =>
    match f.positionsNamed key with
    | [] => .error (.missingKey key)
    | [i] =>
      match f.columns[i]? with
      | some (n, c) => .ok (.column n c)
      | none => .error (.missingKey key)
    | ps => .ok (.columns ps)

def Frame.take (f : Frame) (ps : List Nat) : Frame :=
  { f with columns := (ps.filterMap fun i => f.columns[i]?).toArray }

def Frame.keepRows (f : Frame) (mask : List Bool) : Frame :=
  f.pick (((List.range f.height).zip mask).filterMap fun (i, b) => if b then some i else none)

/-- Selecting by a key: the table the key picks. -/
def Frame.select (f : Frame) (key : Value) : Except Fault Table := do
  match ← f.pickBy key with
  | Pick.column n c => pure (.series n c f.labels)
  | .columns ps => pure (.frame (f.take ps))
  | .rows mask => pure (.frame (f.keepRows mask))

theorem Frame.take_height (f : Frame) (ps : List Nat) : (f.take ps).height = f.height := rfl

end Tabula

namespace Tabula.Query

open Json

/-- What a key picks from a single column. -/
inductive SeriesPick where
  | cell (row : Nat)
  | rows (positions : List Nat)

/-- Does the label stand for the row label `m`? Numbers and booleans by value. -/
def Label.namesRow (l : Label) (m : Nat) : Bool :=
  match l with
  | .value v =>
    match valueNum v with
    | some x => x.compare? (.int m) == some .eq
    | none => false
  | .tuple _ => false

/-- The position of the row that a single key labels: an integer, or a whole double, equal to
the row's label. -/
def rowOfKey (labels : List Nat) (key : Value) : Option Nat :=
  match key with
  | .int _ | .float _ => labels.findIdx? (Label.value key).namesRow
  | _ => none

/-- What a key picks from a single column whose rows carry `labels`. An object is refused; a
non-empty list of booleans is a row mask; any other list names rows by their labels, as a list of
keys names columns; a single key picks the cell of the row it labels. -/
def seriesPickBy (labels : List Nat) (key : Value) : Except Fault SeriesPick :=
  match key with
  | .obj _ => .error .objectIndexer
  | .arr xs =>
    if isRowMask xs then
      if xs.length == labels.length then
        .ok (.rows (((List.range labels.length).zip xs).filterMap fun (i, v) =>
          if v matches .bool true then some i else none))
      else .error (.maskLength xs.length labels.length)
    else
      (Labels.positionsAlong "index" (fun l => (labels.findIdx? l.namesRow).toList) xs).map
        SeriesPick.rows
  | k =>
    match rowOfKey labels k with
    | some i => .ok (.cell i)
    | none => .error (.missingKey k)

end Tabula.Query
