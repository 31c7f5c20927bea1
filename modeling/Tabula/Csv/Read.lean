import Tabula.Csv.Record
import Tabula.Csv.Infer
import Tabula.Text.Utf8

/-!
Reading a table from CSV bytes. The bytes must be UTF-8; they are split by `records`, a leading
byte-order mark passed over. The first record names the columns, the others are rows; when the
first row has more fields than there are names, the leading surplus fields of every row are row
labels, which the table does not keep. An empty name becomes `Unnamed: i`, a repeated name gets the
first free suffix `.1`, `.2`, …, and each column's kind is inferred by `inferColumn`.
-/

namespace Tabula.Csv

/-- Why bytes are not a table. -/
inductive ReadError where
  | encoding (e : Text.Utf8.DecodeError)
  | split (e : SplitError)
  | noColumns
  deriving DecidableEq, Repr

/-- The message of a reading failure. -/
def ReadError.message : ReadError → String
  | .encoding e => e.message
  | .split (.tooManyFields ex l saw) =>
    "Error tokenizing data. C error: Expected " ++ toString ex ++ " fields in line " ++
      toString l ++ ", saw " ++ toString saw ++ "\n"
  | .split (.openQuote r) =>
    "Error tokenizing data. C error: EOF inside string starting at row " ++ toString r
  | .split .overflow =>
    "Error tokenizing data. C error: Buffer overflow caught - possible malformed input file.\n"
  | .noColumns => "No columns to parse from file"

def countOf (counts : List (String × Nat)) (name : String) : Nat :=
  ((counts.find? (·.1 == name)).map (·.2)).getD 0

def setCount (counts : List (String × Nat)) (name : String) (n : Nat) : List (String × Nat) :=
  (name, n) :: counts.filter (·.1 != name)

/-- The search for a free suffix of `old`, starting from `cur`. -/
def freeName (header : Array String) (old : String) :
    Nat → List (String × Nat) → String → Nat → String × Nat × List (String × Nat)
  | 0, counts, col, cur => (col, cur, counts)
  | fuel + 1, counts, col, cur =>
    if cur == 0 then (col, cur, counts)
    else
      let counts := setCount counts old (cur + 1)
      let col := old ++ "." ++ toString cur
      if header.contains col then freeName header old fuel counts col (cur + 1)
      else freeName header old fuel counts col (countOf counts col)

/-- Renames repeated names, visiting positions in the given order. -/
def dedupe (order : List Nat) (header : Array String) : Array String :=
  let fuel := 4 * (header.size + 1) * (header.size + 1)
  let step := fun (acc : Array String × List (String × Nat)) (i : Nat) =>
    let (h, counts) := acc
    let old := h.getD i ""
    let (col, cur, counts) := freeName h old fuel counts old (countOf counts old)
    (h.set! i col, setCount counts col (cur + 1))
  (order.foldl step (header, [])).1

/-- Column names from the header record (see the module comment). -/
def columnNames (fields : Array String) : Array String :=
  let named := fields.mapIdx fun i s => if s.isEmpty then "Unnamed: " ++ toString i else s
  let idx := List.range fields.size
  let unnamed := idx.filter fun i => (fields.getD i "").isEmpty
  let given := idx.filter fun i => !(fields.getD i "").isEmpty
  dedupe (given ++ unnamed) named

/-- The table read from bytes (see the module comment). -/
def readTable (bytes : List UInt8) : Except ReadError Frame := do
  let _ ← (Text.Utf8.decode bytes).mapError ReadError.encoding
  let recs ← (records bytes.toArray).mapError ReadError.split
  match recs.toList with
  | [] => .error .noColumns
  | header :: rows =>
    let names := columnNames header
    let width := (rows.head?.map Array.size).getD header.size
    let lead := width - header.size
    let cols := names.mapIdx fun j name =>
      let fields := rows.map fun r => r.getD (lead + j) ""
      (Text.ofString name, if rows.isEmpty then (⟨.object, #[]⟩ : Column) else inferColumn fields)
    pure { height := rows.length, columns := cols }

end Tabula.Csv
