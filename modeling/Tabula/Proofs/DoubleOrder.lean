import Mathlib
import Tabula.Query.Compare

/-!
How doubles compare. A double that is not NaN unpacks to one of negative infinity, a negative
number, a zero, a positive number or positive infinity, and floating-point comparison orders these
by band, then by exponent and then by mantissa, both counted downwards below zero
(`unpacked_compare_eq`). So on doubles that are not NaN the comparison is the order of a key in a
lexicographic product of integers: a total preorder, in which the two zeros are equal
(`compareFloats_eq`, with `Std.TransCmp unpackedCmp`).
-/

open Float.Model

namespace Tabula

def unpacked (x : Float) : UnpackedFloat := x.toModel.unpack

/-- The band of an unpacked double on the line: negative infinity, negative, zero, positive,
positive infinity. NaN stands with the zeros, though nothing compares with it. -/
def unpackedBand : UnpackedFloat → Int
  | .infinity .negative => -2
  | .finite .negative .. => -1
  | .zero _ | .notANumber => 0
  | .finite .positive .. => 1
  | .infinity .positive => 2

def unpackedExp : UnpackedFloat → Int
  | .finite .negative _ e _ => -e
  | .finite .positive _ e _ => e
  | _ => 0

def unpackedMant : UnpackedFloat → Int
  | .finite .negative m _ _ => -(m : Int)
  | .finite .positive m _ _ => m
  | _ => 0

/-- The order of unpacked doubles by band, exponent and mantissa. -/
def unpackedCmp : UnpackedFloat → UnpackedFloat → Ordering :=
  compareLex (compareOn unpackedBand) (compareLex (compareOn unpackedExp) (compareOn unpackedMant))

instance : Std.TransCmp unpackedCmp := by
  unfold unpackedCmp
  infer_instance

theorem compare_natCast (a b : Nat) : compare (a : Int) (b : Int) = compare a b := by
  simp only [Int.compare_eq_ite_lt, Nat.compare_eq_ite_lt]
  simp

theorem compare_neg (a b : Int) : compare (-a) (-b) = compare b a := by
  rcases Int.lt_trichotomy a b with h | rfl | h
  · rw [Int.compare_eq_gt.2 (by omega), Int.compare_eq_gt.2 h]
  · simp
  · rw [Int.compare_eq_lt.2 (by omega), Int.compare_eq_lt.2 h]

theorem unpacked_compare_eq {a b : UnpackedFloat} (ha : a ≠ .notANumber) (hb : b ≠ .notANumber) :
    a.compare b = some (unpackedCmp a b) := by
  cases a with
  | notANumber => exact absurd rfl ha
  | infinity s =>
    cases b with
    | notANumber => exact absurd rfl hb
    | infinity t => cases s <;> cases t <;> rfl
    | zero t => cases s <;> rfl
    | finite t m e h => cases s <;> cases t <;> rfl
  | zero s =>
    cases b with
    | notANumber => exact absurd rfl hb
    | infinity t => cases t <;> rfl
    | zero t => rfl
    | finite t m e h => cases t <;> rfl
  | finite s m e h =>
    cases b with
    | notANumber => exact absurd rfl hb
    | infinity t => cases s <;> cases t <;> rfl
    | zero t => cases s <;> rfl
    | finite t m' e' h' =>
      -- below zero both the exponent and the mantissa order is reversed
      cases s <;> cases t <;> simp [UnpackedFloat.compare, unpackedCmp, compareLex, compareOn,
        unpackedBand, unpackedExp, unpackedMant, compare_neg, compare_natCast, Ordering.swap_then,
        Int.compare_swap, Nat.compare_swap, show compare (-1 : Int) 1 = .lt by decide,
        show compare (1 : Int) (-1) = .gt by decide]

theorem unpacked_ne_nan {x : Float} (h : x.isNaN = false) : unpacked x ≠ .notANumber := by
  intro hu
  change (unpacked x).isNaN = false at h
  rw [hu] at h
  cases h

theorem unpacked_of_isNaN {x : Float} (h : x.isNaN = true) : unpacked x = .notANumber := by
  change (unpacked x).isNaN = true at h
  cases hu : unpacked x <;> simp_all [UnpackedFloat.isNaN]

theorem float_lt_iff (x y : Float) : x < y ↔ (unpacked x).compare (unpacked y) = some .lt := by
  change x.lt y = true ↔ _
  simp only [Float.lt, decide_eq_true_iff]
  change ((unpacked x).compare (unpacked y) == some .lt) = true ↔ _
  simp

theorem float_le_iff (x y : Float) : x ≤ y ↔ ((unpacked x).compare (unpacked y)).any (·.isLE) := by
  change x.le y = true ↔ _
  simp only [Float.le, decide_eq_true_iff]
  rfl

theorem float_beq_iff (x y : Float) :
    (x == y) = true ↔ (unpacked x).compare (unpacked y) = some .eq := by
  change ((unpacked x).compare (unpacked y) == some .eq) = true ↔ _
  simp

theorem compareFloats_eq {x y : Float} (hx : x.isNaN = false) (hy : y.isNaN = false) :
    Query.compareFloats x y = some (unpackedCmp (unpacked x) (unpacked y)) := by
  have hxy := unpacked_compare_eq (unpacked_ne_nan hx) (unpacked_ne_nan hy)
  have hyx := unpacked_compare_eq (unpacked_ne_nan hy) (unpacked_ne_nan hx)
  rw [@Std.OrientedCmp.eq_swap _ unpackedCmp _ (unpacked y) (unpacked x)] at hyx
  unfold Query.compareFloats
  cases h : unpackedCmp (unpacked x) (unpacked y) <;> simp_all [float_lt_iff, float_beq_iff]

theorem float_le_iff_isLE {x y : Float} (hx : x.isNaN = false) (hy : y.isNaN = false) :
    x ≤ y ↔ (unpackedCmp (unpacked x) (unpacked y)).isLE := by
  rw [float_le_iff, unpacked_compare_eq (unpacked_ne_nan hx) (unpacked_ne_nan hy)]
  rfl

end Tabula
