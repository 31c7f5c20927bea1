import Tabula.Table.Array
import Tabula.Text.Quoted

/-!
Cells and column kinds. A column holds 64-bit signed or unsigned integers, doubles, booleans or
mixed values (texts, booleans, whole numbers and missing values; in a column of doubles NaN marks a
missing value), and keeps only the cells its kind allows. A mixed cell may also be an array of one
kind or a tuple of single values. A text is a sequence of code points and may hold a lone
surrogate. A cell prints as a text filter sees it (`Cell.asText`, missing is `nan`) and as a CSV
field (`Cell.asField`, missing is empty).
-/

namespace Tabula

/-- The kind of a column. -/
inductive Kind where
  | int64
  | uint64
  | float64
  | bool
  | object
  deriving DecidableEq, Repr, Inhabited

/-- The kind's name as the column listing reports it. -/
def Kind.name : Kind → String
  | .int64 => "int64"
  | .uint64 => "uint64"
  | .float64 => "float64"
  | .bool => "bool"
  | .object => "object"

/-- Numbers and booleans; comparisons with text are refused for these kinds. -/
def Kind.isNumeric : Kind → Bool
  | .object => false
  | _ => true

/-- One value of a column. -/
inductive Cell where
  | int (n : Int)
  | float (x : Float)
  | bool (b : Bool)
  | text (s : Text)
  | missing
  | array (kind : Kind) (items : List Cell)
  | tuple (items : List Cell)
  deriving Inhabited

namespace Cell

/-- Missing: the missing value, or NaN. -/
def isMissing : Cell → Bool
  | .missing => true
  | .float x => x.isNaN
  | _ => false

def boolText (b : Bool) : String := if b then "True" else "False"

/-- A single value in source form: texts quoted, numbers and booleans as `asText` writes them.
A nested array or tuple, which single values never are, is written `[...]` or `(...)`. -/
def spelled : Cell → String
  | .int n => Table.intText n
  | .float x => x.shortestText
  | .bool b => boolText b
  | .text s => Text.quoted s
  | .missing => "nan"
  | .array _ _ => "[...]"
  | .tuple _ => "(...)"

/-- The items of an array of kind `k`, as its text is made from them. -/
def arrayItems (k : Kind) (items : List Cell) : Table.ArrayItems :=
  match k with
  | .float64 => .floats (items.map fun c => match c with
    | .float x => x
    | .int n => Float.ofInt n
    | _ => 0.0 / 0.0)
  | .int64 | .uint64 => .ints (items.map fun c => match c with
    | .int n => n
    | _ => 0)
  | .bool => .bools (items.map fun c => match c with
    | .bool b => b
    | _ => false)
  | .object => .values (items.map spelled)

/-- The cell as text: integers in decimal, doubles in their shortest form, `True`/`False`,
texts as they are, `nan` for a missing value, arrays in bracket layout and tuples in source
form. -/
def asText : Cell → Text
  | .int n => Text.ofString (Table.intText n)
  | .float x => Text.ofString x.shortestText
  | .bool b => Text.ofString (boolText b)
  | .text s => s
  | .missing => Text.ofString "nan"
  | .array k items => Text.ofString (arrayItems k items).text
  | .tuple items =>
    Text.ofString ("(" ++ ", ".intercalate (items.map spelled) ++
      (if items.length == 1 then "," else "") ++ ")")

/-- The cell as a CSV field: like `asText`, but a missing value or NaN is empty. -/
def asField (c : Cell) : Text := if c.isMissing then ⟨[]⟩ else c.asText

/-- The name of the type of a value in a mixed column, as messages give it. -/
def typeName : Cell → String
  | .int _ => "int"
  | .float _ => "float"
  | .bool _ => "bool"
  | .text _ => "str"
  | .missing => "float"
  | .array _ _ => "ndarray"
  | .tuple _ => "tuple"

end Cell

end Tabula
