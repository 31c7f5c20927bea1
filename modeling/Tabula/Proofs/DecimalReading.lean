import Tabula.Proofs.DoubleRounding

/-!
Reading a decimal gives the double it reads back as. A value `m · 10^e` that reads back as the
finite double `b` (`Binary.ReadsBack`) lies between half the least subnormal and the overflow
threshold (`ReadsBack.range`), so none of the reader's clamps applies, and the model computes a
product or quotient of two doubles that rounds to `b`: of two exact doubles on the fast path
(`ofScientific_fast`), of the mantissa and a power of ten on the slow one
(`ofScientific_unpacked`). Hence `Float.ofScientific` and `nearest` give `b`
(`ofScientific_readsBack`, `nearest_readsBack`).
-/

namespace Tabula.Decimal

open Float.Model UnpackedFloat

namespace Binary

variable {b : Binary} {v : ℚ}

/-- Whatever reads back as a finite double lies between half the least subnormal and the
overflow threshold. -/
theorem ReadsBack.range (hb : b.Finite) (h : b.ReadsBack v) :
    (2 : ℚ) ^ (-1075 : Int) ≤ v ∧ v < 2 ^ (1024 : Int) := by
  obtain ⟨hlo, hhi, -, -⟩ := h.bounds
  have hm1 : (1 : ℚ) ≤ b.mantissa := by exact_mod_cast hb.canonical.pos
  have hm2 : (b.mantissa : ℚ) + 1 ≤ 2 ^ 53 := by exact_mod_cast hb.canonical.lt
  have he1 : (2 : ℚ) ^ (-1074 : Int) ≤ 2 ^ b.exponent :=
    zpow_le_zpow_right₀ (by norm_num) hb.canonical.low
  have he2 : (2 : ℚ) ^ b.exponent ≤ 2 ^ (971 : Int) :=
    zpow_le_zpow_right₀ (by norm_num) hb.canonical.high
  constructor
  · calc (2 : ℚ) ^ (-1075 : Int) = 1 / 2 * 2 ^ (-1074 : Int) := by
          rw [show (-1075 : Int) = -1 + -1074 by norm_num, zpow_add₀ (by norm_num)]
          norm_num
      _ ≤ ((b.mantissa : ℚ) - 1 / 2) * 2 ^ b.exponent :=
          mul_le_mul (by linarith only [hm1]) he1 (by positivity) (by linarith only [hm1])
      _ ≤ v := hlo
  · calc v ≤ ((b.mantissa : ℚ) + 1 / 2) * 2 ^ b.exponent := hhi
      _ < 2 ^ 53 * 2 ^ (971 : Int) :=
          mul_lt_mul (by linarith only [hm2]) he2 (by positivity) (by positivity)
      _ = 2 ^ (1024 : Int) := by
          rw [show (1024 : Int) = 53 + 971 by norm_num, zpow_add₀ (by norm_num)]
          norm_num

theorem ReadsBack.pos (hb : b.Finite) (h : b.ReadsBack v) : 0 < v :=
  lt_of_lt_of_le (by positivity) (h.range hb).1

end Binary

theorem two_zpow_le_ten_zpow {e : Int} (he : 0 ≤ e) : (2 : ℚ) ^ e ≤ 10 ^ e := by
  rw [← Int.toNat_of_nonneg he, zpow_natCast, zpow_natCast]
  exact pow_le_pow_left₀ (by norm_num) (by norm_num) _

theorem ten_zpow_le_two_zpow {e : Int} (he : e ≤ 0) : (10 : ℚ) ^ e ≤ 2 ^ e := by
  rw [show e = -((-e).toNat : Int) by omega, zpow_neg, zpow_neg, zpow_natCast, zpow_natCast]
  exact inv_anti₀ (by positivity) (pow_le_pow_left₀ (by norm_num) (by norm_num) _)

theorem Binary.ReadsBack.digits_ne_zero {b : Binary} (hb : b.Finite) {m : Nat} {e : Int}
    (hv : b.ReadsBack (m * 10 ^ e)) : m ≠ 0 := by
  rintro rfl
  have := hv.pos hb
  simp at this

theorem Binary.ReadsBack.exponent_le {b : Binary} (hb : b.Finite) {m : Nat} {e : Int}
    (hv : b.ReadsBack (m * 10 ^ e)) : e ≤ 2048 := by
  by_contra he
  have hm1 : (1 : ℚ) ≤ m := by exact_mod_cast Nat.one_le_iff_ne_zero.mpr (hv.digits_ne_zero hb)
  have h1 : (2 : ℚ) ^ (1024 : Int) ≤ 2 ^ e := zpow_le_zpow_right₀ (by norm_num) (by omega)
  have h2 : (2 : ℚ) ^ e ≤ 10 ^ e := two_zpow_le_ten_zpow (by omega)
  have h3 : (10 : ℚ) ^ e ≤ m * 10 ^ e := le_mul_of_one_le_left (by positivity) hm1
  linarith [(hv.range hb).2]

theorem Binary.ReadsBack.exponent_ge {b : Binary} (hb : b.Finite) {m : Nat} {e : Int}
    (hv : b.ReadsBack (m * 10 ^ e)) : -(2048 + (m.log2 : Int)) ≤ e := by
  by_contra he
  have h1 : (m : ℚ) < 2 ^ (m.log2 + 1) := by exact_mod_cast Nat.lt_log2_self
  have h2 : (10 : ℚ) ^ e ≤ 2 ^ e := ten_zpow_le_two_zpow (by omega)
  have h3 : (2 : ℚ) ^ (m.log2 + 1) * 2 ^ e ≤ 2 ^ (-1075 : Int) := by
    rw [← zpow_natCast, ← zpow_add₀ (by norm_num)]
    exact zpow_le_zpow_right₀ (by norm_num) (by push_cast; omega)
  have h4 : (m : ℚ) * 10 ^ e < 2 ^ (m.log2 + 1) * 2 ^ e :=
    mul_lt_mul h1 h2 (by positivity) (by positivity)
  linarith [(hv.range hb).1]

/-- The model's reading of `m · 10^e`, for a value that reads back as `b`, is `b`: the value is
neither refused as zero nor as infinite, and the product or quotient computed is rounded to
`b`. -/
theorem ofScientific_unpacked {b : Binary} (hb : b.Finite) (m : Nat) (e : Int)
    (hv : b.ReadsBack (m * 10 ^ e)) :
    UnpackedFloat.ofScientific Format.binary64 m e =
      .finite .positive b.mantissa b.exponent hb.canonical.pos := by
  have hm0 := hv.digits_ne_zero hb
  have hbits : (2 : Int) ^ Format.binary64.exponentBits = 2048 := rfl
  unfold UnpackedFloat.ofScientific
  rw [dif_neg hm0, hbits, if_neg (not_lt.mpr (hv.exponent_le hb)),
    if_neg (not_lt.mpr (hv.exponent_ge hb))]
  split
  · next he =>
    -- a product: `m` shifted to 53 bits times the power of ten
    apply mul_readsBack b hb
    · rw [binary64_mantissaBits, Nat.shiftLeft_eq]
      refine (Nat.le_log2 (by positivity)).mpr ?_
      calc 2 ^ 52 ≤ m * 2 ^ 53 := by
            have := Nat.one_le_iff_ne_zero.mpr hm0
            calc 2 ^ 52 ≤ 1 * 2 ^ 53 := by norm_num
              _ ≤ m * 2 ^ 53 := Nat.mul_le_mul_right _ this
        _ ≤ m * 2 ^ 53 * 10 ^ e.toNat := Nat.le_mul_of_pos_right _ (by positivity)
    · obtain ⟨k, rfl⟩ := Int.eq_ofNat_of_zero_le he
      rw [binary64_mantissaBits, Nat.shiftLeft_eq]
      convert hv using 1
      simp only [Int.toNat_natCast, zpow_natCast, Int.add_zero]
      push_cast
      rw [show (2 : ℚ) ^ (-53 : Int) = 1 / 2 ^ 53 by norm_num]
      ring
  · next he =>
    -- a quotient: `m` over the power of ten
    obtain ⟨k, rfl⟩ := Int.exists_eq_neg_ofNat (by omega : e ≤ 0)
    apply div_readsBack b hb
    convert hv using 1
    simp only [neg_neg, Int.toNat_natCast, zpow_zero, mul_one, zpow_neg, zpow_natCast]
    push_cast
    rw [div_eq_mul_inv]

def Binary.Finite.toFloat {b : Binary} (hb : b.Finite) (s : Sign) : Float :=
  Float.ofModel (Float.Model.pack (.finite s b.mantissa b.exponent hb.canonical.pos))

theorem model_unpack_pack_finite (s : Sign) {m : Nat} {e : Int} (hm : 0 < m) (h : Canonical m e) :
    (Float.Model.pack (.finite s m e hm)).unpack = .finite s m e hm :=
  unpack_pack_finite s hm h

theorem eq_toFloat_of_binary {x : Float} {b : Binary} (h : Binary.ofFloat? x = some b)
    (hm : 0 < b.mantissa) : x = (Binary.finite_of_ofFloat? h hm).toFloat (signOf x) := by
  conv_lhs => rw [← ofModel_pack_unpack x, (unpack_of_binary x b h hm).1]
  rfl

theorem neg_toFloat {b : Binary} (hb : b.Finite) (s : Sign) : -(hb.toFloat s) = hb.toFloat (-s) := by
  show Float.ofModel (Float.Model.pack (Float.Model.pack (.finite s b.mantissa b.exponent
    hb.canonical.pos)).unpack.neg) = _
  rw [model_unpack_pack_finite _ _ hb.canonical]
  rfl

/-- With a mantissa below `2^53` and at most 22 places, reading multiplies or divides two exactly
converted doubles, and the rounded result is `b`. -/
theorem ofScientific_fast {b : Binary} (hb : b.Finite) {m k : Nat} (hm : m < 2 ^ 53) (hk : k ≤ 22)
    (neg : Bool) (hv : b.ReadsBack (m * 10 ^ (if neg then -(k : Int) else k))) :
    Float.ofScientific m neg k = hb.toFloat .positive := by
  have hm0 : 0 < m := Nat.pos_of_ne_zero (hv.digits_ne_zero hb)
  obtain ⟨m', e', hcan', hofNat, hnorm, hval⟩ := ofNat_exact hm0 hm
  have hks : k < Float.exactlyRepresentablePowersOfTen.size := by
    show k < 23
    omega
  obtain ⟨c, d, hcanc, htab, hvalc⟩ := tenPower_exact hks
  have hconv : (m.toUInt64.toFloat).toModel.unpack = .finite .positive m' e' hcan'.pos := by
    show (Float.Model.pack (UnpackedFloat.ofNat Format.binary64 m.toUInt64.toNat)).unpack = _
    rw [show m.toUInt64.toNat = m by simp; omega, hofNat, model_unpack_pack_finite _ _ hcan']
  rw [Float.ofScientific, dif_pos ⟨hm, hk⟩]
  cases neg with
  | false =>
    show Float.ofModel (Float.Model.pack (UnpackedFloat.mul Format.binary64
      (m.toUInt64.toFloat).toModel.unpack Float.exactlyRepresentablePowersOfTen[k].toModel.unpack)) = _
    have hbits : 52 ≤ (m' * c).log2 :=
      (Nat.le_log2 (Nat.mul_pos hcan'.pos hcanc.pos).ne').mpr (le_trans hnorm (Nat.le_mul_of_pos_right _ hcanc.pos))
    have hprod : ((m' * c : Nat) : ℚ) * 2 ^ (e' + d) = m * 10 ^ ((k : Nat) : Int) := by
      rw [zpow_natCast, ← hval, ← hvalc, zpow_add₀ (by norm_num)]
      push_cast
      ring
    rw [hconv, htab, mul_readsBack b hb hcan'.pos hcanc.pos hbits (by rw [hprod]; simpa using hv)]
    rfl
  | true =>
    show Float.ofModel (Float.Model.pack (UnpackedFloat.div Format.binary64
      (m.toUInt64.toFloat).toModel.unpack Float.exactlyRepresentablePowersOfTen[k].toModel.unpack)) = _
    have hquot : (m' : ℚ) * 2 ^ e' / (c * 2 ^ d) = m * 10 ^ (-(k : Int)) := by
      rw [hval, hvalc, zpow_neg, zpow_natCast, div_eq_mul_inv]
    rw [hconv, htab, div_readsBack b hb hcan'.pos hcanc.pos (by rw [hquot]; simpa using hv)]
    rfl

theorem ofScientific_readsBack {b : Binary} (hb : b.Finite) (m : Nat) (neg : Bool) (k : Nat)
    (hv : b.ReadsBack (m * 10 ^ (if neg then -(k : Int) else k))) :
    Float.ofScientific m neg k = hb.toFloat .positive := by
  by_cases hfast : m < 2 ^ 53 ∧ k ≤ 22
  · exact ofScientific_fast hb hfast.1 hfast.2 neg hv
  · rw [Float.ofScientific, dif_neg hfast]
    show Float.ofModel (Float.Model.pack (UnpackedFloat.ofScientific Format.binary64 m _)) = _
    rw [ofScientific_unpacked hb m _ (by cases neg <;> simpa [Int.negOfNat_eq] using hv)]
    rfl

theorem digits_bounds {m : Nat} (hm : 0 < m) :
    10 ^ ((toString m).length - 1) ≤ m ∧ m < 10 ^ (toString m).length := by
  simp only [Nat.toString_eq_repr]
  have hpos : 0 < m.repr.length := Nat.length_repr_pos
  refine ⟨?_, (Nat.length_repr_le_iff hpos).mp le_rfl⟩
  rcases Nat.lt_or_ge (m.repr.length - 1) 1 with h1 | h1
  · rw [show m.repr.length - 1 = 0 by omega, pow_zero]
    exact hm
  · have := mt (@Nat.length_repr_le_iff m _ h1).mpr (by omega)
    omega

theorem overflow_lt_ten_pow : (2 : ℚ) ^ (1024 : Int) < 10 ^ (310 : Int) := by
  have h : (2 : ℕ) ^ 1024 < 10 ^ 310 := by decide +kernel
  rw [show (1024 : Int) = ((1024 : Nat) : Int) from rfl,
    show (310 : Int) = ((310 : Nat) : Int) from rfl, zpow_natCast, zpow_natCast]
  exact_mod_cast h

theorem ten_pow_lt_underflow : (10 : ℚ) ^ (-346 : Int) < 2 ^ (-1075 : Int) := by
  have h : (2 : ℕ) ^ 1075 < 10 ^ 346 := by decide +kernel
  rw [zpow_neg, zpow_neg, show (346 : Int) = ((346 : Nat) : Int) from rfl,
    show (1075 : Int) = ((1075 : Nat) : Int) from rfl, zpow_natCast, zpow_natCast]
  exact inv_strictAnti₀ (by positivity) (by exact_mod_cast h)

/-- The nearest double to `m · 10^e` is `b` whenever the exact value reads back as `b`: such a
value is far from the clamps for zero and infinity. -/
theorem nearest_readsBack {b : Binary} (hb : b.Finite) (m : Nat) (e : Int)
    (hv : b.ReadsBack (m * 10 ^ e)) : nearest m e = hb.toFloat .positive := by
  obtain ⟨hlow, hhigh⟩ := hv.range hb
  have hm0 : 0 < m := Nat.pos_of_ne_zero (hv.digits_ne_zero hb)
  obtain ⟨hd1, hd2⟩ := digits_bounds hm0
  generalize hlen : (toString m).length = len at hd1 hd2
  have hlen1 : 1 ≤ len := by
    rcases Nat.eq_zero_or_pos len with rfl | h
    · simp at hd2
      omega
    · exact h
  -- the value lies between the powers of ten of its leading digit
  have hv1 : (10 : ℚ) ^ (e + len - 1) ≤ m * 10 ^ e := by
    rw [show e + len - 1 = ((len - 1 : Nat) : Int) + e by omega, zpow_add₀ (by norm_num),
      zpow_natCast]
    exact mul_le_mul_of_nonneg_right (by exact_mod_cast hd1) (by positivity)
  have hv2 : (m : ℚ) * 10 ^ e < 10 ^ (e + len) := by
    rw [show e + len = (len : Int) + e by omega, zpow_add₀ (by norm_num), zpow_natCast]
    exact mul_lt_mul_of_pos_right (by exact_mod_cast hd2) (by positivity)
  have hlead_hi : ¬ e + (len : Int) > 311 := by
    intro h
    have h1 : (10 : ℚ) ^ (310 : Int) ≤ 10 ^ (e + len - 1) :=
      zpow_le_zpow_right₀ (by norm_num) (by omega)
    exact lt_irrefl _ ((h1.trans hv1).trans_lt (hhigh.trans overflow_lt_ten_pow))
  have hlead_lo : ¬ e + (len : Int) < -345 := by
    intro h
    have h1 : (10 : ℚ) ^ (e + len) ≤ 10 ^ (-346 : Int) :=
      zpow_le_zpow_right₀ (by norm_num) (by omega)
    exact lt_irrefl _ ((hlow.trans_lt hv2).trans_le (h1.trans ten_pow_lt_underflow.le))
  unfold nearest
  rw [if_neg (by simpa using hm0.ne')]
  dsimp only
  rw [hlen, if_neg hlead_hi, if_neg hlead_lo]
  split
  · next he =>
    apply ofScientific_readsBack hb
    simpa [Int.toNat_of_nonneg he] using hv
  · next he =>
    apply ofScientific_readsBack hb
    rw [if_pos rfl, show -(((-e).toNat : Nat) : Int) = e by omega]
    exact hv

end Tabula.Decimal
