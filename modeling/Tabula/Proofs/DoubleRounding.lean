import Tabula.Proofs.Doubles

/-!
Rounding in the logical model of `Float`, measured against exact rationals.

A rational reads back as a finite double `b` when it lies between the midpoints to `b`'s two
neighbours (`Binary.ReadsBack`). Rounding shifts the mantissa to the format's exponent, keeping
in a round bit and a sticky bit where the dropped fraction lies against one half (`Holds`), and
then rounds to nearest, ties to even (`Nearest`). Whatever reads back as `b` is rounded to `b`
(`roundWithAccuracy_readsBack`), so a product or quotient of two finite doubles whose exact value
reads back as `b` is `b` (`mul_readsBack`, `div_readsBack`). A whole number below `2^53` and the
table of powers of ten up to `10^22` convert exactly (`ofNat_exact`, `tenPower_exact`).
-/

namespace Tabula

open Float.Model UnpackedFloat

/-! ### The extended mantissa of a fraction -/

/-- `em` holds the fraction `N / D`: its integer part, and in the round and sticky bits where the
remainder lies against one half. -/
def Holds (em : ExtendedMantissa) (N D : Nat) : Prop :=
  em.mantissa = N / D ∧ em.roundBit = decide (D ≤ 2 * (N % D)) ∧
    em.stickyBit = decide (N % D ≠ 0 ∧ 2 * (N % D) ≠ D)

theorem holds_ofMantissaAndAccuracy (N D : Nat) (hD : 0 < D) :
    Holds (ExtendedMantissa.ofMantissaAndAccuracy (N / D) (accuracyOfFraction (N % D) D)) N D := by
  have hr := Nat.mod_lt N hD
  unfold accuracyOfFraction
  split
  · next h0 =>
    refine ⟨rfl, ?_, ?_⟩ <;> simp [ExtendedMantissa.ofMantissaAndAccuracy, h0, hD.ne']
  · next h0 =>
    rcases Nat.lt_trichotomy (2 * (N % D)) D with hlt | heq | hgt
    · rw [(Nat.compare_eq_lt).mpr hlt]
      refine ⟨rfl, ?_, ?_⟩ <;> simp [ExtendedMantissa.ofMantissaAndAccuracy] <;> omega
    · rw [(Nat.compare_eq_eq).mpr heq]
      refine ⟨rfl, ?_, ?_⟩ <;> simp [ExtendedMantissa.ofMantissaAndAccuracy] <;> omega
    · rw [(Nat.compare_eq_gt).mpr hgt]
      refine ⟨rfl, ?_, ?_⟩ <;> simp [ExtendedMantissa.ofMantissaAndAccuracy] <;> omega

theorem holds_exact (M : Nat) : Holds (ExtendedMantissa.ofMantissaAndAccuracy M .exact) M 1 := by
  refine ⟨by simp [ExtendedMantissa.ofMantissaAndAccuracy], ?_, ?_⟩ <;>
    simp [ExtendedMantissa.ofMantissaAndAccuracy, Nat.mod_one]

/-- Shifting right by one halves the fraction: the bit shifted out becomes the round bit, and
the old round and sticky bits go into the sticky bit. -/
theorem Holds.shiftRightOne {em : ExtendedMantissa} {N D : Nat} (h : Holds em N D) (hD : 0 < D) :
    Holds em.shiftRightOne N (2 * D) := by
  obtain ⟨hm, hr, hs⟩ := h
  have hlt := Nat.mod_lt N hD
  -- the remainder by `2D` is the remainder by `D` and, if the quotient is odd, one more `D`
  have hmod : N % (2 * D) = N % D + D * (N / D % 2) := by
    rw [Nat.mul_comm 2 D, Nat.mod_mul]
  have hdiv : N / (2 * D) = N / D / 2 := by
    rw [Nat.div_div_eq_div_mul, Nat.mul_comm]
  refine ⟨by simp [ExtendedMantissa.shiftRightOne, hm, hdiv], ?_, ?_⟩
  · simp only [ExtendedMantissa.shiftRightOne, hm, hmod]
    rw [Bool.eq_iff_iff]
    simp only [bne_iff_ne, ne_eq, decide_eq_true_eq]
    rcases Nat.mod_two_eq_zero_or_one (N / D) with hp | hp <;> rw [hp] <;> omega
  · simp only [ExtendedMantissa.shiftRightOne, hr, hs, hmod]
    rw [Bool.eq_iff_iff]
    simp only [Bool.or_eq_true, decide_eq_true_eq]
    rcases Nat.mod_two_eq_zero_or_one (N / D) with hp | hp <;> rw [hp] <;> omega

theorem shiftRight_succ (em : ExtendedMantissa) (k : Nat) :
    em >>> (k + 1) = (em >>> k).shiftRightOne := rfl

theorem Holds.shiftRight {em : ExtendedMantissa} {N D : Nat} (h : Holds em N D) (hD : 0 < D)
    (k : Nat) : Holds (em >>> k) N (D * 2 ^ k) := by
  induction k with
  | zero =>
    change Holds em N (D * 2 ^ 0)
    simpa using h
  | succ k ih =>
    rw [shiftRight_succ, Nat.pow_succ, ← Nat.mul_assoc, Nat.mul_comm _ 2]
    exact ih.shiftRightOne (by positivity)

/-- `m` is the integer nearest to `N / D`, a tie going to the even one. -/
def Nearest (m N D : Nat) : Prop :=
  2 * m * D ≤ 2 * N + D ∧ 2 * N ≤ 2 * m * D + D ∧
    (m % 2 = 1 → 2 * m * D ≠ 2 * N + D ∧ 2 * N ≠ 2 * m * D + D)

theorem Holds.roundedMantissa_eq {em : ExtendedMantissa} {N D m : Nat} (h : Holds em N D)
    (hD : 0 < D) (hn : Nearest m N D) : em.roundedMantissa = m := by
  obtain ⟨mant, rb, sb⟩ := em
  obtain ⟨hm, hr, hs⟩ := h
  simp only at hm hr hs
  subst hm hr hs
  obtain ⟨hlo, hhi, hodd⟩ := hn
  have hN := Nat.div_add_mod N D
  have hlt := Nat.mod_lt N hD
  generalize N / D = q at hN ⊢
  generalize N % D = r at hN hlt ⊢
  subst hN
  -- the quotient is `m` or one below it
  have hq : q = m ∨ q + 1 = m := by
    have h1 : q < m + 1 := by
      by_contra hc
      have : (m + 1) * D ≤ q * D := Nat.mul_le_mul_right D (by omega)
      nlinarith
    have h2 : m < q + 2 := by
      by_contra hc
      have : (q + 2) * D ≤ m * D := Nat.mul_le_mul_right D (by omega)
      nlinarith
    omega
  simp only [ExtendedMantissa.roundedMantissa]
  rcases hq with rfl | rfl
  · -- the remainder is at most half: kept, or a tie on an even quotient
    have hP : 2 * q * D = 2 * (D * q) := by ring
    rw [hP] at hlo hhi hodd
    rcases Nat.lt_or_ge (2 * r) D with h2 | h2
    · rw [decide_eq_false (by omega)]
      by_cases hr0 : r = 0
      · rw [decide_eq_false (by omega)]
        rfl
      · rw [decide_eq_true (by omega)]
        rfl
    · have hq2 : q % 2 = 0 := by
        rcases Nat.mod_two_eq_zero_or_one q with h | h
        · exact h
        · exact absurd (by omega) (hodd h).2
      rw [decide_eq_true (by omega), decide_eq_false (by omega)]
      simp [ExtendedMantissa.accuracy, Accuracy.roundToNearestEven, hq2]
  · -- the remainder is at least half: rounded up, a tie only from an odd quotient
    have hP : 2 * (q + 1) * D = 2 * (D * q) + 2 * D := by ring
    rw [hP] at hlo hhi hodd
    rw [decide_eq_true (by omega)]
    rcases Nat.lt_or_ge D (2 * r) with h2 | h2
    · rw [decide_eq_true (by omega)]
      rfl
    · have hq2 : q % 2 = 1 := by
        rcases Nat.mod_two_eq_zero_or_one q with h | h
        · exact absurd (by omega) (hodd (by omega)).1
        · exact h
      rw [decide_eq_false (by omega)]
      simp [ExtendedMantissa.accuracy, Accuracy.roundToNearestEven, hq2]

theorem nearest_of_rat {m N D : Nat} (hD : 0 < D)
    (hlo : (2 * m : ℚ) ≤ 2 * (N / D) + 1) (hhi : 2 * ((N : ℚ) / D) ≤ 2 * m + 1)
    (hodd : m % 2 = 1 → (2 * m : ℚ) ≠ 2 * (N / D) + 1 ∧ 2 * ((N : ℚ) / D) ≠ 2 * m + 1) :
    Nearest m N D := by
  have hD' : (0 : ℚ) < D := by exact_mod_cast hD
  refine ⟨?_, ?_, fun h => ?_⟩
  · have : (2 * m * D : ℚ) ≤ 2 * N + D := by
      have := mul_le_mul_of_nonneg_right hlo hD'.le
      rwa [add_mul, mul_assoc 2 ((N : ℚ) / D), div_mul_cancel₀ _ hD'.ne', one_mul] at this
    exact_mod_cast this
  · have : (2 * N : ℚ) ≤ 2 * m * D + D := by
      have := mul_le_mul_of_nonneg_right hhi hD'.le
      rwa [add_mul, mul_assoc 2 ((N : ℚ) / D), div_mul_cancel₀ _ hD'.ne', one_mul] at this
    exact_mod_cast this
  · obtain ⟨h1, h2⟩ := hodd h
    refine ⟨fun hc => h1 ?_, fun hc => h2 ?_⟩
    · have hc' : (2 * m * D : ℚ) = 2 * N + D := by exact_mod_cast hc
      field_simp
      linarith
    · have hc' : (2 * N : ℚ) = 2 * m * D + D := by exact_mod_cast hc
      field_simp
      linarith

end Tabula

namespace Tabula.Decimal

/-- The midpoint to the neighbour below `b`, in units of `2^(exponent - 2)` where `b` itself is
`4 · mantissa`. The neighbour below is half as far at the bottom of a binade (`lowerCloser`). -/
def Binary.lower (b : Binary) : ℚ :=
  (4 * b.mantissa - if b.lowerCloser then 1 else 2 : ℚ) * 2 ^ (b.exponent - 2)

/-- The midpoint to the neighbour above `b`. -/
def Binary.upper (b : Binary) : ℚ := (4 * b.mantissa + 2 : ℚ) * 2 ^ (b.exponent - 2)

/-- The rationals that read back as the finite double `b`: those between the midpoints to its two
neighbours, ends included exactly when the mantissa is even. -/
def Binary.ReadsBack (b : Binary) (v : ℚ) : Prop :=
  if b.mantissa % 2 = 0 then b.lower ≤ v ∧ v ≤ b.upper else b.lower < v ∧ v < b.upper

/-- The fields of a finite nonzero double: a canonical mantissa and exponent, with `lowerCloser`
set exactly at the bottom of a binade above the subnormals. -/
structure Binary.Finite (b : Binary) : Prop where
  canonical : Canonical b.mantissa b.exponent
  lowerCloser_iff : b.lowerCloser = true ↔ b.mantissa = 2 ^ 52 ∧ -1074 < b.exponent

theorem Binary.finite_of_ofFloat? {x : Float} {b : Binary} (h : Binary.ofFloat? x = some b)
    (hm : 0 < b.mantissa) : b.Finite :=
  ⟨(unpack_of_binary x b h hm).2, lowerCloser_iff x b h⟩

namespace Binary

variable {b : Binary} {v : ℚ}

theorem ReadsBack.closed (h : b.ReadsBack v) : b.lower ≤ v ∧ v ≤ b.upper := by
  unfold ReadsBack at h
  split at h
  · exact h
  · exact ⟨h.1.le, h.2.le⟩

theorem ReadsBack.of_between (hlo : b.lower < v) (hhi : v < b.upper) : b.ReadsBack v := by
  unfold ReadsBack
  split
  · exact ⟨hlo.le, hhi.le⟩
  · exact ⟨hlo, hhi⟩

/-- What the ends of the interval give in units of `2^exponent`: at least half a unit below the
mantissa (a quarter at the bottom of a binade), at most half a unit above, and strictly for an odd
mantissa. -/
theorem ReadsBack.bounds (h : b.ReadsBack v) :
    ((b.mantissa : ℚ) - 1 / 2) * 2 ^ b.exponent ≤ v ∧ v ≤ ((b.mantissa : ℚ) + 1 / 2) * 2 ^ b.exponent ∧
      (b.lowerCloser = true → ((b.mantissa : ℚ) - 1 / 4) * 2 ^ b.exponent ≤ v) ∧
      (b.mantissa % 2 = 1 → ((b.mantissa : ℚ) - 1 / 2) * 2 ^ b.exponent < v ∧
        v < ((b.mantissa : ℚ) + 1 / 2) * 2 ^ b.exponent) := by
  have hpow : (2 : ℚ) ^ (b.exponent - 2) = 2 ^ b.exponent / 4 := by
    rw [zpow_sub₀ (by norm_num)]
    norm_num
  have hp : (0 : ℚ) < 2 ^ b.exponent := by positivity
  obtain ⟨hlo, hhi⟩ := h.closed
  unfold lower at hlo
  unfold upper at hhi
  rw [hpow] at hlo hhi
  refine ⟨?_, by linarith, fun hl => ?_, fun hodd => ?_⟩
  · split at hlo <;> nlinarith
  · rw [if_pos hl] at hlo
    linarith
  · unfold ReadsBack lower upper at h
    rw [if_neg (by omega), hpow] at h
    obtain ⟨h1, h2⟩ := h
    split at h1 <;> constructor <;> nlinarith

end Binary

theorem exponent_lt_of_pow {a c : Int} {v : ℚ} (h1 : 2 ^ a ≤ v) (h2 : v < 2 ^ c) : a < c :=
  (zpow_lt_zpow_iff_right₀ (by norm_num : (1 : ℚ) < 2)).mp (lt_of_le_of_lt h1 h2)

theorem fraction_lt_pow (N D : Nat) (hD : 0 < D) (E : Int) :
    (N : ℚ) / D * 2 ^ E < 2 ^ (((N / D).log2 : Int) + 1 + E) := by
  have hD' : (0 : ℚ) < D := by exact_mod_cast hD
  have hlt : (N : ℚ) / D < (N / D + 1 : Nat) := by
    rw [div_lt_iff₀ hD']
    have := Nat.lt_div_mul_add (a := N) hD
    push_cast
    exact_mod_cast (by linarith : N < (N / D + 1) * D)
  have hlog : ((N / D + 1 : Nat) : ℚ) ≤ 2 ^ ((N / D).log2 + 1) := by
    exact_mod_cast Nat.lt_log2_self
  rw [zpow_add₀ (by norm_num), show ((N / D).log2 : Int) + 1 = ((N / D).log2 + 1 : Nat) by push_cast; ring,
    zpow_natCast]
  exact mul_lt_mul_of_pos_right (lt_of_lt_of_le hlt hlog) (by positivity)

theorem pow_le_fraction (N D : Nat) (E : Int) (hM : 0 < N / D) :
    (2 : ℚ) ^ (((N / D).log2 : Int) + E) ≤ (N : ℚ) / D * 2 ^ E := by
  have hle : ((2 ^ (N / D).log2 : Nat) : ℚ) ≤ (N : ℚ) / D :=
    le_trans (by exact_mod_cast Nat.log2_self_le hM.ne') (Nat.cast_div_le)
  rw [zpow_add₀ (by norm_num), zpow_natCast]
  push_cast at hle
  exact mul_le_mul_of_nonneg_right hle (by positivity)

theorem two_zpow_add_nat (n : Nat) (e : Int) : (2 : ℚ) ^ ((n : Int) + e) = 2 ^ n * 2 ^ e := by
  rw [zpow_add₀ (by norm_num), zpow_natCast]

/-- Where the first shift of rounding puts a value that reads back as `b`: at `b`'s exponent, or
one below it for a value under the bottom of a binade. -/
theorem target_cases (b : Binary) (hb : b.Finite)
    (N D : Nat) (hD : 0 < D) (E : Int) (hc : 52 ≤ (N / D).log2 ∨ E ≤ -1074)
    (hv : b.ReadsBack ((N : ℚ) / D * 2 ^ E)) :
    max (((N / D).log2 : Int) + 1 + E - 53) (-1074) = b.exponent ∨
      (max (((N / D).log2 : Int) + 1 + E - 53) (-1074) = b.exponent - 1 ∧ b.lowerCloser = true ∧
        (N : ℚ) / D * 2 ^ E < 2 ^ ((52 : Nat) + b.exponent)) := by
  obtain ⟨hlo, hhi, hlcv, -⟩ := hv.bounds
  have F1 := fraction_lt_pow N D hD E
  have hlow := hb.canonical.low
  set v := (N : ℚ) / D * 2 ^ E
  have hp : (0 : ℚ) < 2 ^ b.exponent := by positivity
  have hm53 : (b.mantissa : ℚ) + 1 / 2 < 2 ^ 53 := by
    have : (b.mantissa : ℚ) + 1 ≤ 2 ^ 53 := by exact_mod_cast hb.canonical.lt
    linarith
  -- the value is below `2^(53 + e)`, so the target is at most `e`
  have F3 : v < 2 ^ ((53 : Nat) + b.exponent) := by
    rw [two_zpow_add_nat]
    nlinarith
  have hup : ((N / D).log2 : Int) + 1 + E - 53 ≤ b.exponent := by
    rcases Nat.eq_zero_or_pos (N / D) with h0 | h0
    · have hE : E ≤ -1074 := hc.resolve_left (by rw [h0]; decide)
      rw [h0]
      simp only [Nat.log2_zero, Nat.cast_zero]
      omega
    · have := exponent_lt_of_pow (pow_le_fraction N D E h0) F3
      omega
  by_cases he : b.exponent = -1074
  · left
    omega
  have hm52 : 2 ^ 52 ≤ b.mantissa := hb.canonical.normal.resolve_left he
  by_cases hv52 : 2 ^ ((52 : Nat) + b.exponent) ≤ v
  · -- at or above the bottom of `b`'s binade the target is `e`
    left
    have := exponent_lt_of_pow hv52 F1
    omega
  · -- below it the mantissa is the binade's lowest, and the target is one lower
    right
    rw [not_le, two_zpow_add_nat] at hv52
    have hm : b.mantissa = 2 ^ 52 := by
      have : (b.mantissa : ℚ) < 2 ^ 52 + 1 := by nlinarith
      have : b.mantissa < 2 ^ 52 + 1 := by exact_mod_cast this
      omega
    have hl : b.lowerCloser = true := hb.lowerCloser_iff.mpr ⟨hm, by omega⟩
    have h51 : 2 ^ ((51 : Nat) + b.exponent) ≤ v := by
      have := hlcv hl
      rw [hm] at this
      rw [two_zpow_add_nat]
      push_cast at this
      nlinarith
    have hlow51 := exponent_lt_of_pow h51 F1
    have hpos : 0 < N / D := by
      rcases Nat.eq_zero_or_pos (N / D) with h0 | h0
      · have hE : E ≤ -1074 := hc.resolve_left (by rw [h0]; decide)
        rw [h0] at hlow51
        simp only [Nat.log2_zero, Nat.cast_zero] at hlow51
        omega
      · exact h0
    have hbelow := exponent_lt_of_pow (pow_le_fraction N D E hpos)
      (by rw [two_zpow_add_nat]; exact hv52)
    refine ⟨by omega, hl, by rw [two_zpow_add_nat]; exact hv52⟩

theorem fraction_shift (N D k : Nat) (E : Int) :
    (N : ℚ) / ((D * 2 ^ k : Nat) : ℚ) * 2 ^ (E + k) = (N : ℚ) / D * 2 ^ E := by
  rw [zpow_add₀ (by norm_num), zpow_natCast]
  push_cast
  rcases Nat.eq_zero_or_pos D with rfl | hD
  · simp
  · field_simp

/-- At `b`'s own exponent, a value that reads back as `b` has `b`'s mantissa as its nearest
integer. -/
theorem nearest_at_exponent (b : Binary) (N D : Nat) (hD : 0 < D) (E : Int) (k : Nat)
    (hk : E + k = b.exponent) (hv : b.ReadsBack ((N : ℚ) / D * 2 ^ E)) :
    Nearest b.mantissa N (D * 2 ^ k) := by
  obtain ⟨hlo, hhi, -, hodd⟩ := hv.bounds
  have hw := fraction_shift N D k E
  rw [hk] at hw
  rw [← hw] at hlo hhi hodd
  have hp : (0 : ℚ) < 2 ^ b.exponent := by positivity
  refine nearest_of_rat (by positivity) ?_ ?_ fun h => ?_
  · have := le_of_mul_le_mul_right hlo hp
    push_cast at this ⊢
    linarith
  · have := le_of_mul_le_mul_right hhi hp
    push_cast at this ⊢
    linarith
  · obtain ⟨h1, h2⟩ := hodd h
    have h1' := lt_of_mul_lt_mul_right h1 hp.le
    have h2' := lt_of_mul_lt_mul_right h2 hp.le
    push_cast at h1' h2' ⊢
    constructor <;> intro hc <;> linarith

/-- One exponent below the bottom of a binade, a value that reads back as the binade's lowest
double, `2^52 · 2^e`, and lies under it has `2^53` as its nearest integer. -/
theorem nearest_below_binade (b : Binary) (hm : b.mantissa = 2 ^ 52) (hl : b.lowerCloser = true)
    (N D : Nat) (hD : 0 < D) (E : Int) (k : Nat) (hk : E + k = b.exponent - 1)
    (hv : b.ReadsBack ((N : ℚ) / D * 2 ^ E))
    (hlt : (N : ℚ) / D * 2 ^ E < 2 ^ ((52 : Nat) + b.exponent)) :
    Nearest (2 ^ 53) N (D * 2 ^ k) := by
  obtain ⟨-, -, hlcv, -⟩ := hv.bounds
  have hlo := hlcv hl
  have hw := fraction_shift N D k E
  rw [hk] at hw
  rw [← hw] at hlo hlt
  rw [hm, two_zpow_add_nat] at *
  have hp : (0 : ℚ) < 2 ^ (b.exponent - 1) := by positivity
  have hsplit : (2 : ℚ) ^ b.exponent = 2 * 2 ^ (b.exponent - 1) := by
    rw [← zpow_one_add₀ (by norm_num)]
    ring_nf
  rw [hsplit] at hlo hlt
  refine nearest_of_rat (by positivity) ?_ ?_ fun h => absurd h (by norm_num)
  · have := le_of_mul_le_mul_right (by linarith : ((2 : ℚ) ^ 52 - 1 / 4) * 2 * 2 ^ (b.exponent - 1) ≤
      (N : ℚ) / ((D * 2 ^ k : Nat) : ℚ) * 2 ^ (b.exponent - 1)) hp
    push_cast at this ⊢
    linarith
  · have := lt_of_mul_lt_mul_right (by linarith : (N : ℚ) / ((D * 2 ^ k : Nat) : ℚ) *
      2 ^ (b.exponent - 1) < 2 ^ 52 * 2 * 2 ^ (b.exponent - 1)) hp.le
    push_cast at this ⊢
    linarith

end Tabula.Decimal

namespace Tabula

open Float.Model UnpackedFloat Decimal

theorem binary64_targetExponent (t : Int) :
    Format.binary64.targetExponent t = max (t - 53) (-1074) := rfl

theorem shift_canonical (m : Nat) (e : Int) (hm : m < 2 ^ 53) (he : -1074 ≤ e) :
    shiftToTargetExponent Format.binary64 m e .exact = (⟨m, false, false⟩, e) := by
  have hk : m.log2 ≤ 52 := by
    rcases Nat.eq_zero_or_pos m with rfl | hpos
    · simp
    · have := (Nat.log2_lt hpos.ne').mpr hm
      omega
  have hs : (Format.binary64.targetExponent (totalExponent m e) - e).toNat = 0 := by
    rw [binary64_targetExponent, totalExponent]
    omega
  simp only [shiftToTargetExponent, shiftToExponent, hs, Nat.cast_zero, Int.add_zero]
  rfl

theorem shift_overflow (e : Int) (he : -1074 ≤ e) :
    shiftToTargetExponent Format.binary64 (2 ^ 53) e .exact = (⟨2 ^ 52, false, false⟩, e + 1) := by
  have hs : (Format.binary64.targetExponent (totalExponent (2 ^ 53) e) - e).toNat = 1 := by
    rw [binary64_targetExponent, totalExponent, Nat.log2_two_pow]
    omega
  simp only [shiftToTargetExponent, shiftToExponent, hs]
  rfl

/-- Rounding to nearest, ties to even, of `N / D · 2^E`, a value that reads back as the finite
double `b`, gives `b`. The mantissa `N / D` comes with the accuracy of its remainder and has enough
bits for the format, or sits at the lowest exponent. -/
theorem roundWithAccuracy_readsBack (s : Sign) (b : Binary) (hb : b.Finite)
    (N D : Nat) (hD : 0 < D) (E : Int) (acc : Accuracy)
    (hacc : Holds (ExtendedMantissa.ofMantissaAndAccuracy (N / D) acc) N D)
    (hc : 52 ≤ (N / D).log2 ∨ E ≤ -1074) (hv : b.ReadsBack ((N : ℚ) / D * 2 ^ E)) :
    roundWithAccuracy Format.binary64 s (N / D) E acc = .finite s b.mantissa b.exponent hb.canonical.pos := by
  have htarget : Format.binary64.targetExponent (totalExponent (N / D) E) =
      max (((N / D).log2 : Int) + 1 + E - 53) (-1074) := by
    rw [binary64_targetExponent, totalExponent]
  have hlow := hb.canonical.low
  generalize hk : (Format.binary64.targetExponent (totalExponent (N / D) E) - E).toNat = k
  have hEk : E + k = Format.binary64.targetExponent (totalExponent (N / D) E) := by
    rw [htarget] at hk ⊢
    omega
  have hfirst : shiftToTargetExponent Format.binary64 (N / D) E acc =
      (ExtendedMantissa.ofMantissaAndAccuracy (N / D) acc >>> k, E + k) := by
    simp only [shiftToTargetExponent, shiftToExponent, hk]
  have hholds := hacc.shiftRight hD k
  rw [htarget] at hEk
  rw [roundWithAccuracy, hfirst]
  dsimp only
  rcases target_cases b hb N D hD E hc hv with hT | ⟨hT, hl, hlt⟩
  · -- rounded at `b`'s exponent to `b`'s mantissa
    rw [hholds.roundedMantissa_eq (by positivity)
      (nearest_at_exponent b N D hD E k (by omega) hv), hEk, hT,
      shift_canonical _ _ hb.canonical.lt hlow]
    dsimp only
    rw [dif_neg hb.canonical.pos.ne']
  · -- rounded one exponent lower up to `2^53`, which the second shift halves
    have hm := (hb.lowerCloser_iff.mp hl).1
    rw [hholds.roundedMantissa_eq (by positivity)
      (nearest_below_binade b hm hl N D hD E k (by omega) hv hlt), hEk, hT,
      shift_overflow _ (by omega)]
    dsimp only
    rw [dif_neg (by positivity)]
    congr 1
    · exact hm.symm
    · omega

theorem mul_readsBack (b : Binary) (hb : b.Finite)
    {m₁ m₂ : Nat} {e₁ e₂ : Int} (h₁ : 0 < m₁) (h₂ : 0 < m₂) (hbits : 52 ≤ (m₁ * m₂).log2)
    (hv : b.ReadsBack ((m₁ * m₂ : Nat) * 2 ^ (e₁ + e₂))) :
    mul Format.binary64 (.finite .positive m₁ e₁ h₁) (.finite .positive m₂ e₂ h₂) =
      .finite .positive b.mantissa b.exponent hb.canonical.pos := by
  have h := roundWithAccuracy_readsBack .positive b hb (m₁ * m₂) 1 (by decide) (e₁ + e₂)
    .exact (by simpa using holds_exact (m₁ * m₂)) (.inl (by simpa using hbits))
    (by simpa using hv)
  simp only [Nat.div_one] at h
  exact h

/-- The quotient `divCore` computes has enough bits for the format, or sits at the lowest
exponent: the dividend is shifted up until the quotient reaches `2^52`. -/
theorem divCore_bits (m₁ m₂ : Nat) (e₁ e₂ : Int) (h₁ : 0 < m₁) (h₂ : 0 < m₂) :
    52 ≤ ((m₁ <<< (e₁ - e₂ - min (e₁ - e₂) (Format.binary64.targetExponent
      (totalExponent m₁ e₁ - totalExponent m₂ e₂))).toNat) / m₂).log2 ∨
      min (e₁ - e₂) (Format.binary64.targetExponent
        (totalExponent m₁ e₁ - totalExponent m₂ e₂)) ≤ -1074 := by
  rw [binary64_targetExponent, totalExponent, totalExponent]
  generalize hsh : (e₁ - e₂ - min (e₁ - e₂) (max ((m₁.log2 : Int) + 1 + e₁ -
    ((m₂.log2 : Int) + 1 + e₂) - 53) (-1074))).toNat = sh
  by_cases hlow : min (e₁ - e₂) (max ((m₁.log2 : Int) + 1 + e₁ - ((m₂.log2 : Int) + 1 + e₂) - 53)
    (-1074)) ≤ -1074
  · exact .inr hlow
  left
  -- the shift lifts the dividend's leading bit 53 places above the divisor's
  have hsh' : m₂.log2 + 53 ≤ m₁.log2 + sh := by omega
  have hq : 2 ^ 52 * m₂ ≤ m₁ <<< sh := by
    have hm₂ : m₂ < 2 ^ (m₂.log2 + 1) := Nat.lt_log2_self
    have hm₁ : 2 ^ m₁.log2 ≤ m₁ := Nat.log2_self_le h₁.ne'
    calc 2 ^ 52 * m₂ ≤ 2 ^ 52 * 2 ^ (m₂.log2 + 1) := Nat.mul_le_mul_left _ hm₂.le
      _ = 2 ^ (m₂.log2 + 53) := by rw [← Nat.pow_add]; ring_nf
      _ ≤ 2 ^ (m₁.log2 + sh) := Nat.pow_le_pow_right (by decide) hsh'
      _ = 2 ^ m₁.log2 * 2 ^ sh := Nat.pow_add _ _ _
      _ ≤ m₁ * 2 ^ sh := Nat.mul_le_mul_right _ hm₁
      _ = m₁ <<< sh := (Nat.shiftLeft_eq _ _).symm
  have hpos : 2 ^ 52 ≤ (m₁ <<< sh) / m₂ := (Nat.le_div_iff_mul_le h₂).mpr (by linarith)
  exact (Nat.le_log2 (by positivity)).mpr hpos

theorem div_readsBack (b : Binary) (hb : b.Finite)
    {m₁ m₂ : Nat} {e₁ e₂ : Int} (h₁ : 0 < m₁) (h₂ : 0 < m₂)
    (hv : b.ReadsBack ((m₁ : ℚ) * 2 ^ e₁ / (m₂ * 2 ^ e₂))) :
    UnpackedFloat.div Format.binary64 (.finite .positive m₁ e₁ h₁) (.finite .positive m₂ e₂ h₂) =
      .finite .positive b.mantissa b.exponent hb.canonical.pos := by
  unfold UnpackedFloat.div divCore
  dsimp only
  generalize hT : min (e₁ - e₂) (Format.binary64.targetExponent
    (totalExponent m₁ e₁ - totalExponent m₂ e₂)) = T
  have hbits := divCore_bits m₁ m₂ e₁ e₂ h₁ h₂
  rw [hT] at hbits
  apply roundWithAccuracy_readsBack .positive b hb _ m₂ h₂ T _
    (holds_ofMantissaAndAccuracy _ m₂ h₂) hbits
  -- the shift and the target exponent together make up the exponent of the quotient
  have hle : T ≤ e₁ - e₂ := by rw [← hT]; exact min_le_left _ _
  have hshift : (((m₁ <<< (e₁ - e₂ - T).toNat : Nat) : ℚ)) / m₂ * 2 ^ T =
      (m₁ : ℚ) * 2 ^ e₁ / (m₂ * 2 ^ e₂) := by
    rw [Nat.shiftLeft_eq]
    push_cast
    rw [← zpow_natCast, show (((e₁ - e₂ - T).toNat : Nat) : Int) = e₁ - e₂ - T by omega]
    have hm₂ : (m₂ : ℚ) ≠ 0 := by exact_mod_cast h₂.ne'
    rw [zpow_sub₀ (by norm_num), zpow_sub₀ (by norm_num)]
    field_simp
  rw [hshift]
  exact hv

theorem roundWithAccuracy_canonical (s : Sign) {m : Nat} {e : Int} (hcan : Canonical m e) :
    roundWithAccuracy Format.binary64 s m e .exact = .finite s m e hcan.pos := by
  rw [roundWithAccuracy, shift_canonical m e hcan.lt hcan.low]
  dsimp only
  rw [show ExtendedMantissa.roundedMantissa ⟨m, false, false⟩ = m from rfl,
    shift_canonical m e hcan.lt hcan.low]
  dsimp only
  rw [dif_neg hcan.pos.ne']

/-- A whole number below `2^53` converts exactly, its leading bit moved to the top of the
mantissa. -/
theorem ofNat_exact {m : Nat} (hm : 0 < m) (hlt : m < 2 ^ 53) :
    ∃ (m' : Nat) (e' : Int) (hcan : Canonical m' e'),
      ofNat Format.binary64 m = .finite .positive m' e' hcan.pos ∧ 2 ^ 52 ≤ m' ∧
        (m' : ℚ) * 2 ^ e' = m := by
  have hL : m.log2 ≤ 52 := by
    have := (Nat.log2_lt hm.ne').mpr hlt
    omega
  have hlo : 2 ^ m.log2 ≤ m := Nat.log2_self_le hm.ne'
  have hhi : m < 2 ^ (m.log2 + 1) := Nat.lt_log2_self
  have hnorm : 2 ^ 52 ≤ m <<< (52 - m.log2) :=
    calc 2 ^ 52 = 2 ^ m.log2 * 2 ^ (52 - m.log2) := by
          rw [← Nat.pow_add]
          congr 1
          omega
      _ ≤ m * 2 ^ (52 - m.log2) := Nat.mul_le_mul_right _ hlo
      _ = m <<< (52 - m.log2) := (Nat.shiftLeft_eq _ _).symm
  have hcan : Canonical (m <<< (52 - m.log2)) ((m.log2 : Int) - 52) := by
    refine ⟨by omega, ?_, by omega, by omega, .inr hnorm⟩
    calc m <<< (52 - m.log2) = m * 2 ^ (52 - m.log2) := Nat.shiftLeft_eq _ _
      _ < 2 ^ (m.log2 + 1) * 2 ^ (52 - m.log2) := Nat.mul_lt_mul_of_pos_right hhi (by positivity)
      _ = 2 ^ 53 := by
          rw [← Nat.pow_add]
          congr 1
          omega
  refine ⟨_, _, hcan, ?_, hnorm, ?_⟩
  · have hcmp : compare (m : Int) 0 = .gt := by
      rw [compare_gt_iff_gt]
      omega
    have hT : Format.binary64.targetExponent (totalExponent m 0) = (m.log2 : Int) - 52 := by
      rw [binary64_targetExponent, totalExponent]
      omega
    have hs : (0 - ((m.log2 : Int) - 52)).toNat = 52 - m.log2 := by omega
    have he : (0 : Int) - ((52 - m.log2 : Nat) : Int) = (m.log2 : Int) - 52 := by omega
    simp only [UnpackedFloat.ofNat, UnpackedFloat.ofInt, UnpackedFloat.normalize, hcmp,
      UnpackedFloat.round, Int.toNat_natCast, hT, decreaseExponent, hs, he]
    exact roundWithAccuracy_canonical .positive hcan
  · rw [Nat.shiftLeft_eq]
    push_cast
    rw [← zpow_natCast, mul_assoc, ← zpow_add₀ (by norm_num),
      show (((52 - m.log2 : Nat) : Int)) + ((m.log2 : Int) - 52) = 0 by omega]
    simp

theorem zpow_toNat_div (B : ℚ) (d : Int) : B ^ d = B ^ d.toNat / B ^ (-d).toNat := by
  rcases le_or_gt 0 d with hd | hd
  · rw [show (-d).toNat = 0 by omega, pow_zero, div_one, ← zpow_natCast, Int.toNat_of_nonneg hd]
  · rw [show d.toNat = 0 by omega, pow_zero, ← zpow_natCast, Int.toNat_of_nonneg (by omega),
      zpow_neg, one_div, inv_inv]

theorem mul_zpow_of_cross {c q : Nat} {d : Int} (h : c * 2 ^ d.toNat = q * 2 ^ (-d).toNat) :
    (c : ℚ) * 2 ^ d = q := by
  have hq : ((c * 2 ^ d.toNat : Nat) : ℚ) = ((q * 2 ^ (-d).toNat : Nat) : ℚ) := by rw [h]
  push_cast at hq
  rw [zpow_toNat_div 2, mul_div_assoc', hq]
  field_simp

theorem tenPowers_exact : ∀ k : Fin 23,
    (Binary.ofFloat? (Float.exactlyRepresentablePowersOfTen.getD k 0)).any (fun b =>
      decide (0 < b.mantissa ∧
        b.mantissa * 2 ^ b.exponent.toNat = 10 ^ (k : Nat) * 2 ^ (-b.exponent).toNat)) = true ∧
    signBit (Float.exactlyRepresentablePowersOfTen.getD k 0) = false := by
  decide

theorem tenPower_exact {k : Nat} (hk : k < Float.exactlyRepresentablePowersOfTen.size) :
    ∃ (c : Nat) (d : Int) (hcan : Canonical c d),
      Float.exactlyRepresentablePowersOfTen[k].toModel.unpack = .finite .positive c d hcan.pos ∧
        (c : ℚ) * 2 ^ d = 10 ^ k := by
  have hk' : k < 23 := hk
  obtain ⟨hany, hsign⟩ := tenPowers_exact ⟨k, hk'⟩
  simp only [Array.getD_eq_getD_getElem?, Array.getElem?_eq_getElem hk, Option.getD_some]
    at hany hsign
  obtain ⟨b, hb, hprop⟩ := (Option.any_eq_true _ _).mp hany
  simp only [decide_eq_true_eq] at hprop
  obtain ⟨hpos, hcross⟩ := hprop
  obtain ⟨hunpack, hcan⟩ := unpack_of_binary _ b hb hpos
  refine ⟨b.mantissa, b.exponent, hcan, ?_, ?_⟩
  · rw [hunpack, signOf, hsign]
    rfl
  · exact_mod_cast mul_zpow_of_cross hcross

end Tabula
