import Tabula.Decimal.Shortest

/-!
Printed forms of doubles.

* `Float.shortestText`: the shortest digits that read back, positional when the leading digit's
  exponent is between -4 and 15, otherwise `d.ddde±XX`; a whole number keeps `.0`. Infinities are
  `inf` and `-inf`, NaN is `nan`, negative zero is `-0.0`.
* `Float.generalText p`: `p` significant digits rounded to nearest (a tie to an even digit, judged
  on the exact binary value), trailing zeros dropped, positional when that exponent is between -4
  and `p - 1`.
* `Float.recordText`: ten places computed in floating point, the form of numbers in JSON records.
-/

namespace Tabula.Decimal

/-- Where a printed number switches to exponent notation and how it spells its parts. -/
structure Notation where
  /-- Positional notation is used when the leading digit's exponent lies in `[lowest, highest]`. -/
  lowest : Int
  highest : Int
  /-- A whole number printed positionally keeps `.0`. -/
  pointZero : Bool
  /-- The least number of digits of an exponent. -/
  exponentDigits : Nat
  deriving Repr

/-- The shortest form: positional from `1e-4` up to below `1e16`, whole numbers keep `.0`. -/
def Notation.shortest : Notation := ⟨-4, 15, true, 2⟩

/-- The general form with `p` digits: positional from `1e-4` up to below `10^p`. -/
def Notation.general (p : Nat) : Notation := ⟨-4, (p : Int) - 1, false, 2⟩

def zeros (n : Nat) : List Char := List.replicate n '0'

def padded (w : Nat) (n : Nat) : List Char :=
  let ds := digitsOf n
  zeros (w - ds.length) ++ ds

/-- The text of `s`, whose digits carry no trailing zero and are not zero. -/
def Scientific.render (n : Notation) (s : Scientific) : List Char :=
  let ds := digitsOf s.digits
  let len := ds.length
  let E : Int := s.exponent + (len : Int) - 1
  if n.lowest ≤ E && E ≤ n.highest then
    if E < 0 then '0' :: '.' :: (zeros ((-E).toNat - 1) ++ ds)
    else
      let k := E.toNat + 1
      if k ≥ len then ds ++ zeros (k - len) ++ (if n.pointZero then ['.', '0'] else [])
      else ds.take k ++ '.' :: ds.drop k
  else
    let mant := match ds with
      | [] => ['0']
      | [d] => [d]
      | d :: rest => d :: '.' :: rest
    mant ++ 'e' :: (if E < 0 then '-' else '+') :: padded n.exponentDigits E.natAbs

/-- `p` significant digits of a nonzero `b`, rounded to nearest with ties to an even digit. -/
def Binary.roundTo (b : Binary) (p : Nat) : Scientific :=
  let E := decimalExponent b.mantissa b.exponent
  let t := E - (p : Int) + 1
  let (q, exact) := quotientDecBin b.mantissa b.exponent t
  let r :=
    if exact then q
    else match compareDecBin (2 * q + 1) t (2 * b.mantissa) b.exponent with
      | .gt => q
      | .lt => q + 1
      | .eq => if q % 2 == 0 then q else q + 1
  if r == Nat.pow 10 p then ⟨Nat.pow 10 (p - 1), t + 1⟩ else ⟨r, t⟩

end Tabula.Decimal

namespace Float

open Tabula.Decimal

/-- The shortest text that reads back as `x` (see the module comment). -/
def shortestText (x : Float) : String :=
  if x.isNaN then "nan"
  else
    let sign := if signBit x then "-" else ""
    match Binary.ofFloat? x with
    | none => sign ++ "inf"
    | some b =>
      if b.mantissa == 0 then sign ++ "0.0"
      else sign ++ String.ofList (b.shortest.render Notation.shortest)

/-- `x` with `p` significant digits in the general form; `x` is finite. -/
def generalText (p : Nat) (x : Float) : String :=
  if x.isNaN then "nan"
  else
    let sign := if signBit x then "-" else ""
    match Binary.ofFloat? x with
    | none => sign ++ "inf"
    | some b =>
      if b.mantissa == 0 then sign ++ "0"
      else sign ++ String.ofList ((b.roundTo p).normalize.render (Notation.general p))

/-- `f` without its trailing zeros (at most `fuel` of them), and how many were dropped. -/
def stripZeros : Nat → Nat → Nat × Nat
  | 0, f => (f, 0)
  | fuel + 1, f =>
    if f != 0 && f % 10 == 0 then
      let (g, z) := stripZeros fuel (f / 10)
      (g, z + 1)
    else (f, 0)

/-- The fraction digits of the record form: `frac` written in `10 - z` places, `z` being its
trailing zeros, which are dropped. -/
def recordFraction (frac : Nat) : List Char :=
  let (f, z) := stripZeros 10 frac
  padded (10 - z) f

/-- A finite double as JSON records print it: ten places computed in floating point with the
last place rounded half-way up only from an odd digit or zero, and the general form with ten
digits beyond `1e16 - 1` and below `1e-15`. -/
def recordText (x : Float) : String :=
  let neg := x < 0
  let v := if neg then -x else x
  if v > (1e16 : Float) - 1 || (v != 0 && v < 1e-15) then generalText 10 x
  else
    let whole := v.toUInt64
    let tmp := (v - whole.toFloat) * 1e10
    let frac := tmp.toUInt64
    let diff := tmp - frac.toFloat
    let frac :=
      if diff > 0.5 then frac + 1
      else if diff == 0.5 && (frac == 0 || frac % 2 == 1) then frac + 1
      else frac
    let (whole, frac) := if frac ≥ 10000000000 then (whole + 1, (0 : UInt64)) else (whole, frac)
    let fracText := if frac == 0 then ['0'] else recordFraction frac.toNat
    (if neg then "-" else "") ++ Nat.repr whole.toNat ++ "." ++ String.ofList fracText

end Float
