import Tabula.Table.Frame

/-!
Writing a table as CSV text.

The first line holds the column names, each following line one row; every line ends with a line
feed. A field is quoted when it holds a comma, a quote or a line feed, a quote inside being
doubled. A line whose only field is empty is written `""`, so that it is not a blank line. Cells
are written by `Cell.asField`: doubles in their shortest form, missing values empty. The text is
a sequence of code points, lone surrogates included, as the cells hold them.
-/

namespace Tabula.Csv

def needsQuotes (cs : List Nat) : Bool := cs.any fun c => c == 0x2C || c == 0x22 || c == 0x0A

def doubleQuotes : List Nat → List Nat
  | [] => []
  | c :: rest => if c == 0x22 then 0x22 :: 0x22 :: doubleQuotes rest else c :: doubleQuotes rest

def writeField (t : Text) : List Nat :=
  if needsQuotes t.points then 0x22 :: doubleQuotes t.points ++ [0x22] else t.points

def writeLine : List Text → List Nat
  | [⟨[]⟩] => [0x22, 0x22]
  | fields => (fields.map writeField).intersperse [0x2C] |>.flatten

def linesText (lines : List (List Nat)) : Text := ⟨lines.flatMap (· ++ [0x0A])⟩

/-- A frame as CSV text (see the module comment). -/
def writeFrame (f : Frame) : Text :=
  let header := writeLine f.names
  let rows := (List.range f.height).map fun i => writeLine ((f.row i).map Cell.asField)
  linesText (header :: rows)

def writeSeries (name : Text) (c : Column) : Text :=
  let rows := c.cells.toList.map fun cell => writeLine [cell.asField]
  linesText (writeLine [name] :: rows)

def writeTable : Table → Text
  | .frame f => writeFrame f
  | .series name c _ => writeSeries name c

end Tabula.Csv
