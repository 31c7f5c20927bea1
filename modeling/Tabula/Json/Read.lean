import Tabula.Json.Value
import Tabula.Decimal.Read

/-!
Reading JSON text, as code points, into a value or an error with its position. Besides standard
JSON it takes `NaN`, `Infinity` and `-Infinity`. An integer keeps all its digits, up to 4300; a
number with a fraction or an exponent becomes the nearest double. A control character in a string
is refused, and a `\u` escape of a high surrogate followed by one of a low surrogate makes one code
point. Containers may nest `maxDepth` deep.
-/

namespace Tabula.Json

/-- Why a text is not a JSON value. -/
inductive Defect where
  | expectingValue
  | expectingPropertyName
  | expectingColon
  | expectingComma
  | unterminatedString
  | invalidControl
  | invalidEscape
  | invalidUnicodeEscape
  | extraData
  | byteOrderMark
  | tooDeep (array : Bool)
  | tooManyDigits (count : Nat)
  deriving DecidableEq, Repr

/-- A defect at an offset of the text. -/
structure Error where
  defect : Defect
  pos : Nat
  deriving DecidableEq, Repr

/-- How deep containers may nest. -/
def maxDepth : Nat := 991

/-- The most digits an integer may have. -/
def maxDigits : Nat := 4300

def Defect.text : Defect → String
  | .expectingValue => "Expecting value"
  | .expectingPropertyName => "Expecting property name enclosed in double quotes"
  | .expectingColon => "Expecting ':' delimiter"
  | .expectingComma => "Expecting ',' delimiter"
  | .unterminatedString => "Unterminated string starting at"
  | .invalidControl => "Invalid control character at"
  | .invalidEscape => "Invalid \\escape"
  | .invalidUnicodeEscape => "Invalid \\uXXXX escape"
  | .extraData => "Extra data"
  | .byteOrderMark => "Unexpected UTF-8 BOM (decode using utf-8-sig)"
  | .tooDeep a =>
    "maximum recursion depth exceeded while decoding a JSON " ++
      (if a then "array" else "object") ++ " from a unicode string"
  | .tooManyDigits n =>
    "Exceeds the limit (4300 digits) for integer string conversion: value has " ++ toString n ++
      " digits; use sys.set_int_max_str_digits() to increase the limit"

/-- Line and column (both from 1) of an offset. -/
def lineColumn (doc : List Nat) (pos : Nat) : Nat × Nat :=
  let before := doc.take pos
  let line := before.count 0x0A + 1
  let col := (before.reverse.takeWhile (· != 0x0A)).length + 1
  (line, col)

/-- The message of a defect in `doc`: the reason, then where, except for the defects that carry no
position in their text. -/
def Error.message (doc : List Nat) (e : Error) : String :=
  match e.defect with
  | .tooDeep _ | .tooManyDigits _ => e.defect.text
  | f =>
    let (l, c) := lineColumn doc e.pos
    f.text ++ ": line " ++ toString l ++ " column " ++ toString c ++ " (char " ++ toString e.pos ++ ")"

def isSpace (n : Nat) : Bool := n == 0x20 || n == 0x09 || n == 0x0A || n == 0x0D

def skipSpace : List Nat → Nat → List Nat × Nat
  | c :: r, pos => if isSpace c then skipSpace r (pos + 1) else (c :: r, pos)
  | [], pos => ([], pos)

def isDigitPoint (n : Nat) : Bool := 0x30 ≤ n && n ≤ 0x39

def hexVal? (n : Nat) : Option Nat :=
  if 0x30 ≤ n && n ≤ 0x39 then some (n - 0x30)
  else if 0x61 ≤ n && n ≤ 0x66 then some (n - 0x61 + 10)
  else if 0x41 ≤ n && n ≤ 0x46 then some (n - 0x41 + 10)
  else none

/-- Four hexadecimal digits, `none` if one is not. -/
def hex4? : List Nat → Option Nat
  | [a, b, c, d] => do
    let a ← hexVal? a; let b ← hexVal? b; let c ← hexVal? c; let d ← hexVal? d
    pure (((a * 16 + b) * 16 + c) * 16 + d)
  | _ => none

/-- The character a one-letter escape stands for. -/
def simpleEscape? (n : Nat) : Option Nat :=
  if n == 0x22 || n == 0x5C || n == 0x2F then some n
  else if n == 0x62 then some 0x08
  else if n == 0x66 then some 0x0C
  else if n == 0x6E then some 0x0A
  else if n == 0x72 then some 0x0D
  else if n == 0x74 then some 0x09
  else none

def isHigh (n : Nat) : Bool := 0xD800 ≤ n && n ≤ 0xDBFF
def isLow (n : Nat) : Bool := 0xDC00 ≤ n && n ≤ 0xDFFF

/-- The body of a string after its opening quote at `begin`; `s` starts at offset `pos`. Returns
the text, the rest after the closing quote and its offset. -/
def readString (begin : Nat) : List Nat → Nat → Array Nat → Except Error (Text × List Nat × Nat)
  | [], _, _ => .error ⟨.unterminatedString, begin⟩
  | c :: r, pos, acc =>
    if c == 0x22 then .ok (⟨acc.toList⟩, r, pos + 1)
    else if c == 0x5C then
      match r with
      | [] => .error ⟨.unterminatedString, begin⟩
      | 0x75 :: r' =>
        -- four digits and at least one more character must follow the `u`
        if r'.length < 5 then .error ⟨.invalidUnicodeEscape, pos + 1⟩
        else match hex4? (r'.take 4) with
          | none => .error ⟨.invalidUnicodeEscape, pos + 1⟩
          | some u =>
            let rest := r'.drop 4
            if isHigh u && rest.length > 6 && rest.take 2 == [0x5C, 0x75] then
              match hex4? ((rest.drop 2).take 4) with
              | none => .error ⟨.invalidUnicodeEscape, pos + 7⟩
              | some v =>
                if isLow v then
                  readString begin (rest.drop 6) (pos + 12)
                    (acc.push (0x10000 + (u - 0xD800) * 0x400 + (v - 0xDC00)))
                else readString begin rest (pos + 6) (acc.push u)
            else readString begin rest (pos + 6) (acc.push u)
      | e :: r' =>
        match simpleEscape? e with
        | some v => readString begin r' (pos + 2) (acc.push v)
        | none => .error ⟨.invalidEscape, pos⟩
    else if c ≤ 0x1F then .error ⟨.invalidControl, pos⟩
    else readString begin r (pos + 1) (acc.push c)
termination_by s _ _ => s.length
decreasing_by all_goals (simp only [List.length_drop, List.length_cons]; omega)

def spanDigits (s : List Nat) : List Nat × List Nat := (s.takeWhile isDigitPoint, s.dropWhile isDigitPoint)

def digitValue (ds : List Nat) : Nat := ds.foldl (fun n d => n * 10 + (d - 0x30)) 0

def numberSign : List Nat → Bool × List Nat
  | 0x2D :: r => (true, r)
  | r => (false, r)

/-- The integer part of a number, `0` alone or a nonzero digit and more digits, and the rest. -/
def numberWhole : List Nat → Option (List Nat × List Nat)
  | 0x30 :: r => some ([0x30], r)
  | c :: r =>
    if 0x31 ≤ c && c ≤ 0x39 then
      let (ds, r') := spanDigits r
      some (c :: ds, r')
    else none
  | [] => none

/-- The digits of a fraction, when a point and a digit come first, and the rest. -/
def numberFraction (s : List Nat) : Option (List Nat) × List Nat :=
  match s with
  | 0x2E :: d :: r =>
    if isDigitPoint d then
      let (ds, r') := spanDigits r
      (some (d :: ds), r')
    else (none, s)
  | _ => (none, s)

/-- An exponent, when `e` or `E`, an optional sign and a digit come first, and the rest. -/
def numberExponent (s : List Nat) : Option Int × List Nat :=
  match s with
  | e :: r =>
    if e == 0x65 || e == 0x45 then
      let (eneg, r1) := match r with
        | 0x2D :: t => (true, t)
        | 0x2B :: t => (false, t)
        | t => (false, t)
      let (eds, r2) := spanDigits r1
      if eds.isEmpty then (none, s)
      else (some (if eneg then -(digitValue eds : Int) else digitValue eds), r2)
    else (none, s)
  | [] => (none, s)

/-- A number at offset `pos`: an integer, or a double when it has a fraction or an exponent. -/
def readNumber (s : List Nat) (pos : Nat) : Except Error (Value × List Nat × Nat) :=
  let (neg, s1) := numberSign s
  match numberWhole s1 with
  | none => .error ⟨.expectingValue, pos⟩
  | some (intDs, s2) =>
    let (fracDs, s3) := numberFraction s2
    let (expPart, s4) := numberExponent s3
    let used := s.length - s4.length
    match fracDs, expPart with
    | none, none =>
      if intDs.length > maxDigits then .error ⟨.tooManyDigits intDs.length, pos⟩
      else
        let n := digitValue intDs
        .ok (.int (if neg then -(n : Int) else n), s4, pos + used)
    | _, _ =>
      let fd := fracDs.getD []
      let m := digitValue (intDs ++ fd)
      let x := Decimal.nearest m (expPart.getD 0 - (fd.length : Int))
      .ok (.float (if neg then -x else x), s4, pos + used)

def startsWith (s : List Nat) (word : String) : Bool := s.take word.length == word.toList.map Char.toNat

mutual
/-- One value at offset `pos`, nested `depth` deep; `fuel` bounds the steps. -/
def readValue (fuel depth : Nat) (s : List Nat) (pos : Nat) : Except Error (Value × List Nat × Nat) :=
  match fuel with
  | 0 => .error ⟨.expectingValue, pos⟩
  | fuel + 1 =>
    match s with
    | [] => .error ⟨.expectingValue, pos⟩
    | c :: r =>
      if c == 0x22 then (readString pos r (pos + 1) #[]).map fun (t, r', p) => (.str t, r', p)
      else if c == 0x7B then
        if depth ≥ maxDepth then .error ⟨.tooDeep false, pos⟩
        else
          let (r1, p1) := skipSpace r (pos + 1)
          match r1 with
          | 0x7D :: r2 => .ok (.obj [], r2, p1 + 1)
          | _ => readFields fuel (depth + 1) r1 p1 []
      else if c == 0x5B then
        if depth ≥ maxDepth then .error ⟨.tooDeep true, pos⟩
        else
          let (r1, p1) := skipSpace r (pos + 1)
          match r1 with
          | 0x5D :: r2 => .ok (.arr [], r2, p1 + 1)
          | _ => readItems fuel (depth + 1) r1 p1 #[]
      else if startsWith s "null" then .ok (.null, s.drop 4, pos + 4)
      else if startsWith s "true" then .ok (.bool true, s.drop 4, pos + 4)
      else if startsWith s "false" then .ok (.bool false, s.drop 5, pos + 5)
      else if startsWith s "NaN" then .ok (.float (0.0 / 0.0), s.drop 3, pos + 3)
      else if startsWith s "Infinity" then .ok (.float (Decimal.tenPow 400), s.drop 8, pos + 8)
      else if startsWith s "-Infinity" then .ok (.float (-Decimal.tenPow 400), s.drop 9, pos + 9)
      else readNumber s pos

/-- The items of an array after its opening bracket and blanks. -/
def readItems (fuel depth : Nat) (s : List Nat) (pos : Nat) (acc : Array Value) :
    Except Error (Value × List Nat × Nat) :=
  match fuel with
  | 0 => .error ⟨.expectingValue, pos⟩
  | fuel + 1 => do
    let (v, r, p) ← readValue fuel depth s pos
    let (r1, p1) := skipSpace r p
    match r1 with
    | 0x5D :: r2 => .ok (.arr (acc.push v).toList, r2, p1 + 1)
    | 0x2C :: r2 =>
      let (r3, p3) := skipSpace r2 (p1 + 1)
      readItems fuel depth r3 p3 (acc.push v)
    | _ => .error ⟨.expectingComma, p1⟩

/-- The fields of an object after its opening brace and blanks. -/
def readFields (fuel depth : Nat) (s : List Nat) (pos : Nat) (acc : List (Text × Value)) :
    Except Error (Value × List Nat × Nat) :=
  match fuel with
  | 0 => .error ⟨.expectingValue, pos⟩
  | fuel + 1 =>
    match s with
    | 0x22 :: r => do
      let (k, r1, p1) ← readString pos r (pos + 1) #[]
      let (r2, p2) := skipSpace r1 p1
      match r2 with
      | 0x3A :: r3 =>
        let (r4, p4) := skipSpace r3 (p2 + 1)
        let (v, r5, p5) ← readValue fuel depth r4 p4
        let acc := Value.setField acc k v
        let (r6, p6) := skipSpace r5 p5
        match r6 with
        | 0x7D :: r7 => .ok (.obj acc, r7, p6 + 1)
        | 0x2C :: r7 =>
          let (r8, p8) := skipSpace r7 (p6 + 1)
          readFields fuel depth r8 p8 acc
        | _ => .error ⟨.expectingComma, p6⟩
      | _ => .error ⟨.expectingColon, p2⟩
    | _ => .error ⟨.expectingPropertyName, pos⟩
end

/-- Reads a whole JSON text (see the module comment). -/
def parse (doc : List Nat) : Except Error Value :=
  match doc with
  | 0xFEFF :: _ => .error ⟨.byteOrderMark, 0⟩
  | _ =>
    let (s, p) := skipSpace doc 0
    match readValue (3 * doc.length + 3) 0 s p with
    | .error e => .error e
    | .ok (v, r, p1) =>
      let (r', p2) := skipSpace r p1
      if r'.isEmpty then .ok v else .error ⟨.extraData, p2⟩

def parseString (s : String) : Except Error Value := parse (s.toList.map Char.toNat)

end Tabula.Json
