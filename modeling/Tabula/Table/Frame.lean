import Tabula.Table.Cell

/-!
Columns, frames and tables.

A frame is a list of named columns of one height. Row operations (keeping some rows, reordering
them) act on every column alike through a list of row positions, so they keep names, kinds and
the frame's shape. Rows carry labels: the positions they had when the frame was read. While no
row has been dropped or moved the labels are those positions in order (`RowLabels.positions`);
picking rows in any other way records the labels of the rows kept. A table is what a query
produces: a frame, or a single named column when the query selected one column by name alone.
-/

namespace Tabula

/-- A column: its kind and its cells, top to bottom. -/
structure Column where
  kind : Kind
  cells : Array Cell
  deriving Inhabited

namespace Column

def pick (c : Column) (rows : List Nat) : Column :=
  ⟨c.kind, (rows.map fun i => c.cells.getD i .missing).toArray⟩

def height (c : Column) : Nat := c.cells.size

end Column

/-- The labels of a frame's rows. -/
inductive RowLabels where
  | positions
  | kept (labels : Array Nat)
  deriving Inhabited

/-- The label of row `i`. -/
def RowLabels.at (ls : RowLabels) (i : Nat) : Nat :=
  match ls with
  | .positions => i
  | .kept ls => ls.getD i i

/-- Named columns of equal height, and the labels of their rows. A name is a text, which may hold a
lone surrogate when it came from the configuration. -/
structure Frame where
  height : Nat
  columns : Array (Text × Column)
  labels : RowLabels := .positions
  deriving Inhabited

namespace Frame

def names (f : Frame) : List Text := f.columns.toList.map (·.1)

def columnsNamed (f : Frame) (name : Text) : List Column :=
  f.columns.toList.filterMap fun (n, c) => if n == name then some c else none

/-- The label of row `i`. -/
def labelOf (f : Frame) (i : Nat) : Nat :=
  match f.labels with
  | .positions => i
  | .kept ls => ls.getD i i

def rowLabels (f : Frame) : List Nat := (List.range f.height).map f.labelOf

/-- The rows at the given positions, in that order. Picking every row in order leaves the frame
as it is; any other choice records the labels of the rows picked. -/
def pick (f : Frame) (rows : List Nat) : Frame :=
  if rows == List.range f.height then f
  else ⟨rows.length, f.columns.map fun (n, c) => (n, c.pick rows), .kept (rows.map f.labelOf).toArray⟩

def positions (f : Frame) : List Nat := List.range f.height

def row (f : Frame) (i : Nat) : List Cell := f.columns.toList.map fun (_, c) => c.cells.getD i .missing

def namesDistinct (f : Frame) : Bool :=
  let ns := f.names
  ns.eraseDups.length == ns.length

theorem pick_height (f : Frame) (rows : List Nat) : (f.pick rows).height = rows.length := by
  unfold pick
  split
  · next h => simp_all
  · rfl

end Frame

/-- The result of a query: a frame, or one named column with the labels of its rows. -/
inductive Table where
  | frame (f : Frame)
  | series (name : Text) (c : Column) (labels : RowLabels)
  deriving Inhabited

end Tabula
