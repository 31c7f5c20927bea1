import Tabula.Table.Frame
import Tabula.Json.Write
import Tabula.Text.Utf8

/-!
Writing a table as JSON records: a frame as one object per row, keyed by the column names in
order, a single column as an array of its cells. Two spaces of indentation per level, integers
exact, doubles in the record form `Float.recordText`, missing values and non-finite doubles
`null`, strings in ASCII with `\u` escapes. A frame whose column names repeat has no record form,
nor has a table with a text holding a surrogate: the first such text is reported.
-/

namespace Tabula.Table

/-- One character of a string in the record form: as in `Json.asciiPoint`, except that `/` is
escaped and the delete character is written as it is. -/
def recordPoint (n : Nat) : List Char :=
  if n == 0x2F then ['\\', '/'] else if n == 0x7F then [Char.ofNat 0x7F] else Json.asciiPoint n

def recordString (t : Text) : String :=
  String.ofList ('"' :: t.points.flatMap recordPoint ++ ['"'])

/-- A single value in the record form. -/
def scalarJson : Cell → String
  | .int n => Json.Value.intText n
  | .float x => if x.isNaN || x.isInf then "null" else x.recordText
  | .bool b => if b then "true" else "false"
  | .text s => recordString s
  | _ => "null"

/-- An array of items, each already written, whose opening bracket stands at `depth` levels of
two spaces: the items one level deeper, the closing bracket at `depth`. -/
def arrayAt (depth : Nat) (items : List String) : String :=
  let pad (n : Nat) : String := String.ofList (List.replicate (2 * n) ' ')
  match items with
  | [] => "[\n\n" ++ pad depth ++ "]"
  | _ => "[\n" ++ ",\n".intercalate (items.map (pad (depth + 1) ++ ·)) ++ "\n" ++ pad depth ++ "]"

/-- A cell in the record form, standing at `depth` levels: arrays and tuples are lists of their
items. -/
def cellJson (depth : Nat) : Cell → String
  | .array _ items | .tuple items => arrayAt depth (items.map scalarJson)
  | c => scalarJson c

def arrayOf (items : List String) : String := arrayAt 0 items

/-- One row as an object. -/
def rowObject (names : List Text) (cells : List Cell) : String :=
  let fields := (names.zip cells).map fun (n, c) =>
    "    " ++ recordString n ++ ":" ++ cellJson 2 c
  "\x7b\n" ++ ",\n".intercalate fields ++ "\n  \x7d"

/-- Why a table has no record form: repeated column names, or a text that UTF-8 cannot encode. -/
inductive RecordsError where
  | repeatedNames
  | unencodable (e : Text.Utf8.EncodeError)
  deriving DecidableEq, Repr

def RecordsError.kind : RecordsError → String
  | .repeatedNames => "ValueError"
  | .unencodable _ => "UnicodeEncodeError"

def RecordsError.message : RecordsError → String
  | .repeatedNames => "DataFrame columns must be unique for orient='records'."
  | .unencodable e => e.message

/-- The texts a cell writes, in order. -/
def cellTexts : Cell → List Text
  | .text s => [s]
  | .array _ items | .tuple items => items.filterMap fun c => match c with
    | .text s => some s
    | _ => none
  | _ => []

/-- The first of the cells' texts, in order, that holds a surrogate: the run of surrogates in it,
counted within that text. -/
def unencodableCell? (cells : List Cell) : Option Text.Utf8.EncodeError :=
  cells.findSome? fun c => (cellTexts c).findSome? Text.Utf8.surrogateRun?

/-- A table in the record form (see the module comment). -/
def records : Table → Except RecordsError String
  | .frame f =>
    if !f.namesDistinct then .error .repeatedNames
    else
      let rows := (List.range f.height).map f.row
      match f.names.findSome? Text.Utf8.surrogateRun?, unencodableCell? rows.flatten with
      | some e, _ | none, some e => .error (.unencodable e)
      | none, none => .ok (arrayOf (rows.map (rowObject f.names)))
  | .series _ c _ =>
    match unencodableCell? c.cells.toList with
    | some e => .error (.unencodable e)
    | none => .ok (arrayOf (c.cells.toList.map (cellJson 1)))

end Tabula.Table
