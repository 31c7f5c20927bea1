import Tabula.Table.Frame
import Tabula.Decimal.Read

/-!
The kind of a column read from text. The fields are tried as 64-bit integers, then unsigned
64-bit integers (when some integer does not fit in 64 signed bits), then booleans, then doubles,
and finally text; fields spelled like a missing value are missing in every kind. A missing field
turns integers into doubles and booleans into a mixed column; unsigned integers are taken only
with no field missing and none negative, and the column is text otherwise.
-/

namespace Tabula.Csv

/-- The fields that stand for a missing value. -/
def missingWords : List String :=
  ["-1.#IND", "1.#QNAN", "1.#IND", "-1.#QNAN", "#N/A N/A", "#N/A", "N/A", "n/a", "NA", "<NA>",
   "#NA", "NULL", "null", "NaN", "-NaN", "nan", "-nan", "None", ""]

def isMissingWord (s : String) : Bool := missingWords.contains s

/-- The outcome of reading a column as integers. -/
inductive IntRead where
  | ok (values : List (Option Int))
  | overflow
  | invalid

def isIntSpace (c : Char) : Bool := Decimal.isFieldSpace c

/-- An integer field between `lo` and `hi`: `none` when it is not an integer, `some none` when its
digits leave the range (judged as soon as they do), `some (some v)` otherwise. -/
def readInt (lo hi : Int) (s : String) : Option (Option Int) :=
  let cs := s.toList.dropWhile isIntSpace
  let (neg, cs) := match cs with
    | '-' :: r => (true, r)
    | '+' :: r => (false, r)
    | r => (false, r)
  let ds := cs.takeWhile Decimal.isDigit
  let rest := cs.dropWhile Decimal.isDigit
  if ds.isEmpty then none
  else
    let n : Int := Decimal.natOfDigits ds
    let v := if neg then -n else n
    if v < lo || v > hi then some none
    else if (rest.dropWhile isIntSpace).isEmpty then some (some v) else none

def int64Min : Int := -9223372036854775808
def int64Max : Int := 9223372036854775807
def uint64Max : Int := 18446744073709551615

/-- Reads a column as 64-bit integers; the first field that fails decides. -/
def readInt64 : List String → IntRead
  | [] => .ok []
  | s :: rest =>
    if isMissingWord s then
      match readInt64 rest with
      | .ok vs => .ok (none :: vs)
      | r => r
    else match readInt int64Min int64Max s with
      | none => .invalid
      | some none => .overflow
      | some (some v) =>
        match readInt64 rest with
        | .ok vs => .ok (some v :: vs)
        | r => r

/-- One field read as an unsigned integer. A field with a minus sign is only noted. -/
inductive UnsignedField where
  | value (n : Nat)
  | missing
  | negative
  | overflow
  | invalid
  deriving DecidableEq

def unsignedField (s : String) : UnsignedField :=
  if isMissingWord s then .missing
  else match s.toList.dropWhile isIntSpace with
    | '-' :: _ => .negative
    | _ =>
      match readInt 0 uint64Max s with
      | none => .invalid
      | some none => .overflow
      | some (some v) => .value v.toNat

/-- The outcome of reading a column as unsigned integers. -/
inductive UnsignedRead where
  | ok (values : List Nat) (big negative missing : Bool)
  | overflow
  | invalid

def isStop : UnsignedField → Bool
  | .overflow | .invalid => true
  | _ => false

/-- Reads a column as 64-bit unsigned integers; the first field that fails decides. -/
def readUInt64 (fields : List String) : UnsignedRead :=
  let rs := fields.map unsignedField
  match rs.find? isStop with
  | some .overflow => .overflow
  | some _ => .invalid
  | none =>
    let vals := rs.map fun r => match r with | .value n => n | _ => 0
    .ok vals (vals.any (· > int64Max.toNat)) (rs.contains .negative) (rs.contains .missing)

/-- A boolean field: `true` or `false` in any case. -/
def readBool? (s : String) : Option Bool :=
  let w := s.toList.map Char.toLower
  if w == "true".toList then some true else if w == "false".toList then some false else none

def textColumn (markMissing : Bool) (fields : List String) : Column :=
  ⟨.object, (fields.map fun s =>
    if markMissing && isMissingWord s then .missing else .text (Text.ofString s)).toArray⟩

/-- The fields as booleans, or `none`. -/
def boolColumn? (fields : List String) : Option Column :=
  let vals := fields.map fun s => if isMissingWord s then some none else (readBool? s).map some
  if vals.any Option.isNone then none
  else
    let cells := vals.map fun v => v.getD none
    if cells.any Option.isNone then
      some ⟨.object, (cells.map fun v => match v with | some b => Cell.bool b | none => .missing).toArray⟩
    else some ⟨.bool, (cells.map fun v => Cell.bool (v.getD false)).toArray⟩

/-- The fields as doubles, or `none`. -/
def floatColumn? (fields : List String) : Option Column :=
  let vals := fields.map fun s =>
    if isMissingWord s then some (0.0 / 0.0) else Decimal.readField? s.toList
  if vals.any Option.isNone then none
  else some ⟨.float64, (vals.map fun v => Cell.float (v.getD 0)).toArray⟩

/-- Integers with missing values become doubles; the least integer is then missing as well. -/
def intColumn (vals : List (Option Int)) : Column :=
  if vals.any Option.isNone then
    ⟨.float64, (vals.map fun v => match v with
      | some n => if n == int64Min then Cell.float (0.0 / 0.0) else Cell.float (Float.ofInt n)
      | none => Cell.float (0.0 / 0.0)).toArray⟩
  else ⟨.int64, (vals.map fun v => Cell.int (v.getD 0)).toArray⟩

/-- The kinds after integers: booleans, doubles, text. -/
def laterKinds (fields : List String) : Column :=
  match boolColumn? fields with
  | some c => c
  | none =>
    match floatColumn? fields with
    | some c => c
    | none => textColumn true fields

/-- The column read from its fields (see the module comment). -/
def inferColumn (fields : List String) : Column :=
  match readInt64 fields with
    | .ok vals => intColumn vals
    | .invalid => laterKinds fields
    | .overflow =>
      match readUInt64 fields with
      | .overflow => textColumn true fields
      | .invalid => laterKinds fields
      | .ok vals big negative missing =>
        if big && (negative || missing) then textColumn false fields
        else if negative then textColumn true fields
        else ⟨.uint64, (vals.map fun (v : Nat) => Cell.int v).toArray⟩

end Tabula.Csv
