import Tabula.Decimal.Binary

/-!
The shortest decimal that reads back as a given double.

Reading rounds to the nearest double, a tie going to the even mantissa, so the decimals that read
back as `x = m · 2^e` are those in the interval between the midpoints to its two neighbours, ends
included exactly when `m` is even. For 1, 2, … 17 significant digits the two decimals on that grid
next to `x` are tested; the first grid with a hit wins, of two hits the nearer one, and of two
equally near the one with an even last digit. Seventeen digits always suffice.
-/

namespace Tabula.Decimal

namespace Binary

/-- Is `c · 10^t` inside the reading interval of `b`? All values are measured in units of
`2^(exponent - 2)`, where `b` itself is `4m`. -/
def reads (b : Binary) (c : Nat) (t : Int) : Bool :=
  let s := b.exponent - 2
  let low := if b.lowerCloser then 4 * b.mantissa - 1 else 4 * b.mantissa - 2
  let high := 4 * b.mantissa + 2
  let lo := compareDecBin c t low s
  let hi := compareDecBin c t high s
  if b.mantissa % 2 == 0 then lo != .lt && hi != .gt else lo == .gt && hi == .lt

/-- The decimal with `p` significant digits nearest to `b` that reads back, if any. -/
def candidate (b : Binary) (E : Int) (p : Nat) : Option Scientific :=
  let t := E - (p : Int) + 1
  let (c0, exact) := quotientDecBin b.mantissa b.exponent t
  if exact then some ⟨c0, t⟩
  else
    let c1 := c0 + 1
    match b.reads c0 t, b.reads c1 t with
    | false, false => none
    | true, false => some ⟨c0, t⟩
    | false, true => some ⟨c1, t⟩
    | true, true =>
      match compareDecBin (2 * c0 + 1) t (2 * b.mantissa) b.exponent with
      | .gt => some ⟨c0, t⟩
      | .lt => some ⟨c1, t⟩
      | .eq => some (if c0 % 2 == 0 then ⟨c0, t⟩ else ⟨c1, t⟩)

/-- The shortest decimal that reads back as `b`, without trailing zeros; `b` is nonzero. -/
def shortest (b : Binary) : Scientific :=
  let E := decimalExponent b.mantissa b.exponent
  let found := (List.range 17).findSome? fun i => b.candidate E (i + 1)
  let s := found.getD ⟨(quotientDecBin b.mantissa b.exponent (E - 16)).1, E - 16⟩
  s.normalize

end Binary

end Tabula.Decimal
