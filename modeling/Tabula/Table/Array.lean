import Tabula.Decimal.Format

/-!
Arrays as text: the items in brackets, padded to a common layout. Integers are right-aligned,
booleans are ` True` and `False`, and doubles share one layout: positional unless some nonzero
magnitude is at least `1e8` or below `1e-4` or the range is wider than a factor of a thousand,
with the shortest digits cut at eight places; otherwise exponent notation with at most nine
significant digits. Lines hold at most 74 characters after the opening bracket.
-/

namespace Tabula.Table

open Decimal

/-- The items of an array, as its text is made from them. -/
inductive ArrayItems where
  | floats (xs : List Float)
  | ints (ns : List Int)
  | bools (bs : List Bool)
  | values (spelled : List String)

def blanks (n : Nat) : String := String.ofList (List.replicate n ' ')

def alignRight (w : Nat) (s : String) : String := blanks (w - s.length) ++ s

/-- `b` rounded to `p` places after the point, in units of `10^-p`, a tie going to an even last
digit. -/
def roundPlaces (b : Binary) (p : Nat) : Nat :=
  let t : Int := -(p : Int)
  let (q, exact) := quotientDecBin b.mantissa b.exponent t
  if exact then q
  else match compareDecBin (2 * q + 1) t (2 * b.mantissa) b.exponent with
    | .gt => q
    | .lt => q + 1
    | .eq => if q % 2 == 0 then q else q + 1

/-- The digits before and after the point of `s`, which is nonzero and has no trailing zero. -/
def pointParts (s : Scientific) : String × String :=
  let ds := digitsOf s.digits
  if s.exponent ≥ 0 then (String.ofList (ds ++ zeros s.exponent.toNat), "")
  else
    let k := (-s.exponent).toNat
    if ds.length > k then
      (String.ofList (ds.take (ds.length - k)), String.ofList (ds.drop (ds.length - k)))
    else ("0", String.ofList (zeros (k - ds.length) ++ ds))

def arrayPlaces : Nat := 8

/-- A finite double positionally: the integer part with its sign, and the fraction digits. -/
def positionalParts (x : Float) : String × String :=
  let sign := if signBit x then "-" else ""
  match Binary.ofFloat? x with
  | none => (sign ++ "0", "")
  | some b =>
    if b.mantissa == 0 then (sign ++ "0", "")
    else
      let s := b.shortest
      if s.exponent ≥ -(arrayPlaces : Int) then
        let (i, f) := pointParts s
        (sign ++ i, f)
      else
        let r := roundPlaces b arrayPlaces
        if r == 0 then (sign ++ "0", "")
        else
          let (i, f) := pointParts (Scientific.normalize ⟨r, -(arrayPlaces : Int)⟩)
          (sign ++ i, f)

/-- A finite double in exponent notation: the leading digit with its sign, the fraction digits,
and the exponent. -/
def scientificParts (x : Float) : String × String × Int :=
  let sign := if signBit x then "-" else ""
  match Binary.ofFloat? x with
  | none => (sign ++ "0", "", 0)
  | some b =>
    if b.mantissa == 0 then (sign ++ "0", "", 0)
    else
      let s := b.shortest
      let s := if digitCount s.digits > arrayPlaces + 1 then (b.roundTo (arrayPlaces + 1)).normalize else s
      let ds := digitsOf s.digits
      (sign ++ String.ofList (ds.take 1), String.ofList (ds.drop 1), s.exponent + (ds.length : Int) - 1)

def exponentText (w : Nat) (e : Int) : String :=
  (if e < 0 then "-" else "+") ++ String.ofList (padded w e.natAbs)

def isFinite (x : Float) : Bool := !x.isNaN && !x.isInf

/-- Does an array of these doubles print in exponent notation? -/
def needsExponent (xs : List Float) : Bool :=
  let mags := (xs.filter fun x => isFinite x && x != 0).map Float.abs
  match mags.max?, mags.min? with
  | some hi, some lo => hi ≥ 1e8 || lo < 0.0001 || hi / lo > 1000
  | _, _ => false

def nonFiniteText (w : Nat) (x : Float) : String :=
  alignRight w (if x.isNaN then "nan" else if x < 0 then "-inf" else "inf")

def widest (ss : List String) : Nat := ss.foldl (fun m s => max m s.length) 0

/-- The integer part must leave room for `nan`, `inf` or `-inf` when such items are present. -/
def roomForNonFinite (xs : List Float) (padLeft padRight : Nat) : Nat :=
  if xs.all isFinite then padLeft
  else
    let neg := if xs.any (fun x => x.isInf && x < 0) then 1 else 0
    max padLeft (max (3 - (padRight + 1)) (3 + neg - (padRight + 1)))

/-- The doubles of an array, each laid out (see the module comment). -/
def floatWords (xs : List Float) : List String :=
  let finite := xs.filter isFinite
  if needsExponent xs then
    let parts := finite.map scientificParts
    let expWidth := widest (parts.map fun (_, _, e) => exponentText 2 e) - 1
    let fracWidth := widest (parts.map fun (_, f, _) => f)
    let padLeft := widest (parts.map fun (i, _, _) => i)
    let padRight := expWidth + 2 + fracWidth
    let padLeft := roomForNonFinite xs padLeft padRight
    xs.map fun x =>
      if isFinite x then
        let (i, f, e) := scientificParts x
        alignRight padLeft i ++ "." ++ f ++ String.ofList (zeros (fracWidth - f.length)) ++ "e" ++
          exponentText expWidth e
      else nonFiniteText (padLeft + padRight + 1) x
  else
    let parts := finite.map positionalParts
    let padLeft := widest (parts.map (·.1))
    let padRight := widest (parts.map (·.2))
    let padLeft := roomForNonFinite xs padLeft padRight
    xs.map fun x =>
      if isFinite x then
        let (i, f) := positionalParts x
        alignRight padLeft i ++ "." ++ f ++ blanks (padRight - f.length)
      else nonFiniteText (padLeft + padRight + 1) x

def intText (n : Int) : String := if n < 0 then "-" ++ toString n.natAbs else toString n.natAbs

/-- The items, each laid out. -/
def ArrayItems.words : ArrayItems → List String
  | .floats xs => floatWords xs
  | .ints ns =>
    let w := match ns.max?, ns.min? with
      | some hi, some lo => max (intText hi).length (intText lo).length
      | _, _ => 0
    ns.map fun n => alignRight w (intText n)
  | .bools bs => bs.map fun b => if b then " True" else "False"
  | .values ss => ss

def arrayLineWidth : Nat := 74

/-- Adds a word to the current line, or starts a new line with it when the line would grow past
the width (a line holding no word yet is never broken). -/
def extendArrayLine (acc : String × String) (w : String) : String × String :=
  let (done, line) := acc
  if line.length + w.length > arrayLineWidth && line.length > 1 then
    (done ++ String.ofList (line.toList.reverse.dropWhile (· == ' ')).reverse ++ "\n", " " ++ w)
  else (done, line ++ w)

/-- Words in brackets, separated by blanks and broken into lines (see the module comment). -/
def bracketWords (words : List String) : String :=
  match words with
  | [] => "[]"
  | w :: rest =>
    let (done, line) := (w :: rest).dropLast.foldl
      (fun acc w => let (d, l) := extendArrayLine acc w; (d, l ++ " ")) ("", " ")
    let (done, line) := extendArrayLine (done, line) ((w :: rest).getLastD "")
    "[" ++ String.ofList ((done ++ line).toList.drop 1) ++ "]"

def ArrayItems.text (a : ArrayItems) : String := bracketWords a.words

end Tabula.Table
