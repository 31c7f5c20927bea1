import Tabula.Text.Blank
import Tabula.Text.Unicode

/-!
Reading decimal numbers. `readNumber?` reads a number written by a person: blanks around it, a
sign, digits with single underscores between them, a fraction and an exponent, or `inf`,
`infinity` and `nan` in any case, digits of any script counting as ASCII digits; its value is the
double nearest to the exact decimal. `readField?` reads a number field of a table the way the
table reader does, keeping at most seventeen significant digits and scaling in floating point, so
its answer can differ from the nearest double in the last place.
-/

namespace Tabula.Decimal

def tenPow (k : Nat) : Float := Float.ofScientific 1 false k

/-- The double nearest to `m · 10^e`, with the exponent clamped where the answer is `0` or `∞`. -/
def nearest (m : Nat) (e : Int) : Float :=
  if m == 0 then 0
  else
    let lead := e + ((toString m).length : Int)
    if lead > 311 then Float.ofScientific 1 false 400
    else if lead < -345 then 0
    else if e ≥ 0 then Float.ofScientific m false e.toNat
    else Float.ofScientific m true (-e).toNat

def isDigit (c : Char) : Bool := '0' ≤ c && c ≤ '9'

def digitVal (c : Char) : Nat := c.toNat - '0'.toNat

/-- A run of digits with single underscores between digits: the digits and the rest. -/
def digitRun : List Char → List Char × List Char
  | [] => ([], [])
  | [c] => if isDigit c then ([c], []) else ([], [c])
  | c :: '_' :: tl@(d :: _) =>
    if isDigit c && isDigit d then
      let (ds, r) := digitRun tl
      (c :: ds, r)
    else if isDigit c then ([c], '_' :: tl) else ([], c :: '_' :: tl)
  | c :: tl@(_ :: _) =>
    if isDigit c then
      let (ds, r) := digitRun tl
      (c :: ds, r)
    else ([], c :: tl)

def natOfDigits (ds : List Char) : Nat := ds.foldl (fun n c => n * 10 + digitVal c) 0

def lowerAscii (cs : List Char) : List Char := cs.map Char.toLower

/-- The unsigned part of a person-written number: a value, or `none`. -/
def readUnsigned? (cs : List Char) : Option Float :=
  let w := lowerAscii cs
  if w == "inf".toList || w == "infinity".toList then some (tenPow 400)
  else if w == "nan".toList then some (0.0 / 0.0)
  else
    let (intDs, r1) := digitRun cs
    let (fracDs, r2) := match r1 with
      | '.' :: r => digitRun r
      | r => ([], r)
    if intDs.isEmpty && fracDs.isEmpty then none
    else
      let expPart : Option Int := match r2 with
        | [] => some 0
        | c :: r =>
          if c == 'e' || c == 'E' then
            let (neg, r') := match r with
              | '-' :: t => (true, t)
              | '+' :: t => (false, t)
              | t => (false, t)
            let (eds, r'') := digitRun r'
            if eds.isEmpty || !r''.isEmpty then none
            else some (if neg then -(natOfDigits eds : Int) else natOfDigits eds)
          else none
      expPart.map fun ex =>
        nearest (natOfDigits (intDs ++ fracDs)) (ex - (fracDs.length : Int))

/-- A text as a number is read from it: code points below 127 as they are, other blanks as spaces
and other decimal digits as their ASCII digits. It stops at the first other code point, seen as a
`?`, which no number contains. -/
def asciiForm : List Nat → List Char
  | [] => []
  | n :: rest =>
    if n < 127 then Char.ofNat n :: asciiForm rest
    else if Text.isBlank n then ' ' :: asciiForm rest
    else ((Unicode.decimalValue? n).map fun d => Char.ofNat (48 + d) :: asciiForm rest).getD ['?']

def isAsciiBlank (c : Char) : Bool := c == ' ' || ('\t' ≤ c && c ≤ '\r')

/-- Reads a person-written number (see the module comment). -/
def readNumber? (t : Text) : Option Float :=
  let cs := asciiForm t.points
  match ((cs.dropWhile isAsciiBlank).reverse.dropWhile isAsciiBlank).reverse with
  | '-' :: r => (readUnsigned? r).map (fun x => -x)
  | '+' :: r => readUnsigned? r
  | r => readUnsigned? r

def isFieldSpace (c : Char) : Bool :=
  c == ' ' || c == '\t' || c == '\n' || c == '\r' || c.toNat == 0x0B || c.toNat == 0x0C

/-- Mantissa digits: at most seventeen enter `acc`, further integer digits raise the exponent. -/
def fieldInteger : List Char → Float → Nat → Int → Float × Nat × Int × List Char
  | c :: rest, acc, n, ex =>
    if isDigit c then
      if n < 17 then fieldInteger rest (acc * 10 + (digitVal c).toFloat) (n + 1) ex
      else fieldInteger rest acc n (ex + 1)
    else (acc, n, ex, c :: rest)
  | [], acc, n, ex => (acc, n, ex, [])

/-- Fraction digits while fewer than seventeen digits are taken; later ones are skipped. -/
def fieldFraction : List Char → Float → Nat → Nat → Float × Nat × Nat × List Char
  | c :: rest, acc, n, k =>
    if isDigit c then
      if n < 17 then fieldFraction rest (acc * 10 + (digitVal c).toFloat) (n + 1) (k + 1)
      else fieldFraction rest acc n k
    else (acc, n, k, c :: rest)
  | [], acc, n, k => (acc, n, k, [])

/-- An integer as a 32-bit signed word holds it, wrapping around. -/
def wrap32 (n : Int) : Int := (n + 2147483648) % 4294967296 - 2147483648

/-- At most seventeen exponent digits. -/
def fieldExponent : List Char → Nat → Nat → Nat × Nat × List Char
  | c :: rest, v, n =>
    if isDigit c && n < 17 then fieldExponent rest (v * 10 + digitVal c) (n + 1)
    else (v, n, c :: rest)
  | [], v, n => (v, n, [])

/-- `x` scaled by `10^ex` in floating point, `none` past the largest exponent. -/
def scaleField (x : Float) (ex : Int) : Option Float :=
  if ex > 308 then none
  else if ex > 0 then some (x * tenPow ex.toNat)
  else if ex < -308 then
    if ex < -616 then some 0 else some (x / tenPow (-308 - ex).toNat / tenPow 308)
  else some (x / tenPow (-ex).toNat)

/-- The words a field may use for an infinity, compared without regard to case. -/
def infinityWord? (cs : List Char) : Option Float :=
  let w := lowerAscii cs
  let inf := tenPow 400
  if w == "inf".toList || w == "+inf".toList || w == "infinity".toList ||
      w == "+infinity".toList then some inf
  else if w == "-inf".toList || w == "-infinity".toList then some (-inf)
  else none

/-- The number part of a field, without the infinity words. -/
def readFieldNumber? (cs : List Char) : Option Float :=
  let s0 := cs.dropWhile isFieldSpace
  let (neg, s1) := match s0 with
    | '-' :: r => (true, r)
    | '+' :: r => (false, r)
    | r => (false, r)
  let (x, n, ex, s2) := fieldInteger s1 0 0 0
  let (x, n, ex, s3) := match s2 with
    | '.' :: r =>
      let (x', n', k, r') := fieldFraction r x n 0
      (x', n', ex - (k : Int), r')
    | r => (x, n, ex, r)
  if n == 0 then none
  else
    let x := if neg then -x else x
    let (ex, s4) := match s3 with
      | c :: r =>
        if c == 'e' || c == 'E' then
          let (eneg, r') := match r with
            | '-' :: t => (true, t)
            | '+' :: t => (false, t)
            | t => (false, t)
          let (v, k, r'') := fieldExponent r' 0 0
          let v := wrap32 v
          if k == 0 then (ex, s3) else (wrap32 (if eneg then ex - v else ex + v), r'')
        else (ex, s3)
      | [] => (ex, [])
    match scaleField x ex with
    | none => none
    | some y =>
      if y.isInf then none
      else if (s4.dropWhile isFieldSpace).isEmpty then some y else none

/-- Reads a table field as a number (see the module comment). -/
def readField? (cs : List Char) : Option Float :=
  match readFieldNumber? cs with
  | some x => some x
  | none => infinityWord? cs

end Tabula.Decimal
