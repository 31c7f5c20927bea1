/-!
Finite doubles as exact binary fractions, and exact comparison with decimal fractions.

A finite nonzero double is `mantissa · 2^exponent`. Every decision about decimal digits in this
library (shortest digits, rounding to a number of places) is made by comparing such a value with
`digits · 10^t` in natural-number arithmetic, so no step of it depends on floating-point rounding.
-/

namespace Tabula.Decimal

/-- The magnitude of a finite double: `mantissa · 2^exponent`. `lowerCloser` marks the values at
the bottom of a binade, whose neighbour below is half as far away as the one above. -/
structure Binary where
  mantissa : Nat
  exponent : Int
  lowerCloser : Bool
  deriving DecidableEq, Repr

/-- The decimal value `digits · 10^exponent`. -/
structure Scientific where
  digits : Nat
  exponent : Int
  deriving DecidableEq, Repr

/-- Is the sign bit of `x` set? True of `-0.0`, false of `0.0`. -/
def signBit (x : Float) : Bool := x.toBits >>> 63 == 1

/-- The magnitude of a finite double, `none` for infinities and NaN. -/
def Binary.ofFloat? (x : Float) : Option Binary :=
  let bits := x.toBits
  let e := ((bits >>> 52) &&& 0x7FF).toNat
  let f := (bits &&& 0xFFFFFFFFFFFFF).toNat
  if e == 0x7FF then none
  else if e == 0 then some ⟨f, -1074, false⟩
  else some ⟨f + Nat.pow 2 52, (e : Int) - 1075, f == 0 && e > 1⟩

def compareDecBin (a : Nat) (t : Int) (b : Nat) (s : Int) : Ordering :=
  compare (a * Nat.pow 10 t.toNat * Nat.pow 2 (-s).toNat) (b * Nat.pow 2 s.toNat * Nat.pow 10 (-t).toNat)

/-- `⌊b · 2^s / 10^t⌋` and whether the division is exact. -/
def quotientDecBin (b : Nat) (s : Int) (t : Int) : Nat × Bool :=
  let num := b * Nat.pow 2 s.toNat * Nat.pow 10 (-t).toNat
  let den := Nat.pow 2 (-s).toNat * Nat.pow 10 t.toNat
  (num / den, num % den == 0)

/-- The decimal exponent `E` with `10^E ≤ m · 2^e < 10^(E+1)`, for `m > 0`. -/
def decimalExponent (m : Nat) (e : Int) : Int :=
  let guess : Int := ((Nat.log2 m : Int) + e) * 30103 / 100000
  let down (k : Int) : Int := if compareDecBin 1 k m e == .gt then k - 1 else k
  let up (k : Int) : Int := if compareDecBin 1 (k + 1) m e == .gt then k else k + 1
  up (up (down (down guess)))

/-- Drops trailing zero digits, raising the exponent to match. -/
def Scientific.normalize (s : Scientific) : Scientific :=
  go 20 s
where
  go : Nat → Scientific → Scientific
    | 0, s => s
    | fuel + 1, s =>
      if s.digits != 0 && s.digits % 10 == 0 then go fuel ⟨s.digits / 10, s.exponent + 1⟩
      else s

def digitsOf (n : Nat) : List Char := (toString n).toList

def digitCount (n : Nat) : Nat := (digitsOf n).length

end Tabula.Decimal
