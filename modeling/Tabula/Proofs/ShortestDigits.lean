import Tabula.Proofs.DecimalReading
import Tabula.Proofs.RecordNumbers

/-!
The shortest digits of a double read back as it. `reads` decides `Binary.ReadsBack` by exact
whole-number comparisons (`compareDecBin_eq`, `reads_iff`), so every candidate the search returns
reads back (`candidate_readsBack`). The decimal exponent estimate is never above the true one
(`decimalExponent_le`), and below it the grid of seventeen digits is finer than the interval that
reads back, so the search always ends with a candidate (`candidate_seventeen`). Dropping trailing
zeros keeps the value (`normalize_value`), so `shortest` gives nonzero digits that read back
(`shortest_readsBack`).
-/

namespace Tabula.Decimal

theorem compare_congr {α β : Type} [LinearOrder α] [LinearOrder β] {x y : α} {x' y' : β}
    (hlt : x < y ↔ x' < y') (hgt : y < x ↔ y' < x') : compare x y = compare x' y' := by
  rcases lt_trichotomy x' y' with h | h | h
  · rw [compare_lt_iff_lt.mpr (hlt.mpr h), compare_lt_iff_lt.mpr h]
  · have hxy : x = y := le_antisymm (not_lt.mp fun h' => lt_irrefl y' (h ▸ hgt.mp h'))
      (not_lt.mp fun h' => lt_irrefl x' (h ▸ hlt.mp h'))
    rw [compare_eq_iff_eq.mpr hxy, compare_eq_iff_eq.mpr h]
  · rw [compare_gt_iff_gt.mpr (hgt.mpr h), compare_gt_iff_gt.mpr h]

theorem cast_lt_iff_of_scaled {A B : Nat} {A' B' P : ℚ} (hP : 0 < P) (hA : (A : ℚ) = A' * P)
    (hB : (B : ℚ) = B' * P) : A < B ↔ A' < B' := by
  rw [← mul_lt_mul_iff_of_pos_right hP, ← hA, ← hB]
  exact Nat.cast_lt.symm

theorem compareDecBin_eq (a : Nat) (t : Int) (b : Nat) (s : Int) :
    compareDecBin a t b s = compare ((a : ℚ) * 10 ^ t) ((b : ℚ) * 2 ^ s) := by
  unfold compareDecBin
  simp only [Nat.pow_eq]
  -- both sides are the rationals times `10^(-t) · 2^(-s)` made whole
  have hP : (0 : ℚ) < 10 ^ (-t).toNat * 2 ^ (-s).toNat := by positivity
  have hL : ((a * 10 ^ t.toNat * 2 ^ (-s).toNat : Nat) : ℚ) =
      a * 10 ^ t * (10 ^ (-t).toNat * 2 ^ (-s).toNat) := by
    rw [zpow_toNat_div 10 t]
    push_cast
    field_simp
  have hR : ((b * 2 ^ s.toNat * 10 ^ (-t).toNat : Nat) : ℚ) =
      b * 2 ^ s * (10 ^ (-t).toNat * 2 ^ (-s).toNat) := by
    rw [zpow_toNat_div 2 s]
    push_cast
    field_simp
  exact compare_congr (cast_lt_iff_of_scaled hP hL hR) (cast_lt_iff_of_scaled hP hR hL)

section Compare

variable {α : Type} [LinearOrder α] (x y : α)

theorem compare_ne_lt : (compare x y != .lt) = true ↔ y ≤ x := by
  rw [bne_iff_ne, ne_eq, compare_lt_iff_lt, not_lt]

theorem compare_ne_gt : (compare x y != .gt) = true ↔ x ≤ y := by
  rw [bne_iff_ne, ne_eq, compare_gt_iff_gt, not_lt]

end Compare

namespace Binary

theorem reads_iff {b : Binary} (hm : 0 < b.mantissa) (c : Nat) (t : Int) :
    b.reads c t = true ↔ b.ReadsBack (c * 10 ^ t) := by
  have hlow : (((if b.lowerCloser then 4 * b.mantissa - 1 else 4 * b.mantissa - 2 : Nat)) : ℚ) =
      4 * b.mantissa - if b.lowerCloser then 1 else 2 := by
    split
    · rw [Nat.cast_sub (by omega)]
      push_cast
      rfl
    · rw [Nat.cast_sub (by omega)]
      push_cast
      rfl
  unfold reads ReadsBack lower upper
  dsimp only
  rw [compareDecBin_eq, compareDecBin_eq, hlow]
  push_cast
  by_cases hpar : b.mantissa % 2 = 0
  · simp only [hpar, beq_self_eq_true, if_true, Bool.and_eq_true, compare_ne_lt, compare_ne_gt]
  · simp only [beq_iff_eq, hpar, if_false, Bool.and_eq_true, compare_gt_iff_gt, compare_lt_iff_lt]

variable {b : Binary}

theorem lower_lt_self : b.lower < b.mantissa * 2 ^ b.exponent := by
  have hpow : (2 : ℚ) ^ b.exponent = 4 * 2 ^ (b.exponent - 2) := by
    rw [zpow_sub₀ (by norm_num)]
    ring
  have hp : (0 : ℚ) < 2 ^ (b.exponent - 2) := by positivity
  rw [lower, hpow]
  split <;> nlinarith

theorem self_lt_upper : (b.mantissa : ℚ) * 2 ^ b.exponent < b.upper := by
  have hpow : (2 : ℚ) ^ b.exponent = 4 * 2 ^ (b.exponent - 2) := by
    rw [zpow_sub₀ (by norm_num)]
    ring
  have hp : (0 : ℚ) < 2 ^ (b.exponent - 2) := by positivity
  rw [upper, hpow]
  nlinarith

theorem ReadsBack.self : b.ReadsBack (b.mantissa * 2 ^ b.exponent) :=
  ReadsBack.of_between (lower_lt_self) self_lt_upper

theorem upper_sub_lower :
    b.upper - b.lower = (if b.lowerCloser then 3 else 4) * 2 ^ (b.exponent - 2) := by
  unfold upper lower
  split <;> ring

/-- A step of the seventeenth digit is narrower than the interval: at most `b / 10^16`, and `b`
has fewer than seventeen digits of mantissa. -/
theorem div_ten_pow_lt_width (hb : b.Finite) :
    (b.mantissa : ℚ) * 2 ^ b.exponent / 10 ^ 16 < b.upper - b.lower := by
  have hpow : (2 : ℚ) ^ b.exponent = 4 * 2 ^ (b.exponent - 2) := by
    rw [zpow_sub₀ (by norm_num)]
    ring
  have hp : (0 : ℚ) < 2 ^ (b.exponent - 2) := by positivity
  rw [upper_sub_lower, hpow, div_lt_iff₀ (by positivity)]
  split
  · next hl =>
    rw [(hb.lowerCloser_iff.mp hl).1]
    push_cast
    nlinarith
  · have hm : (b.mantissa : ℚ) + 1 ≤ 2 ^ 53 := by exact_mod_cast hb.canonical.lt
    nlinarith

end Binary

/-- `quotientDecBin` divides `m · 2^e` by `10^t`: the whole part, and whether the division is
exact. -/
theorem quotientDecBin_spec (m : Nat) (e t : Int) :
    ((quotientDecBin m e t).1 : ℚ) * 10 ^ t ≤ m * 2 ^ e ∧
      (m : ℚ) * 2 ^ e < ((quotientDecBin m e t).1 + 1) * 10 ^ t ∧
      ((quotientDecBin m e t).2 = true ↔ ((quotientDecBin m e t).1 : ℚ) * 10 ^ t = m * 2 ^ e) := by
  unfold quotientDecBin
  simp only [Nat.pow_eq, beq_iff_eq]
  generalize hN : m * 2 ^ e.toNat * 10 ^ (-t).toNat = N
  generalize hD : 2 ^ (-e).toNat * 10 ^ t.toNat = D
  have hDpos : 0 < D := by
    rw [← hD]
    positivity
  have hD' : (0 : ℚ) < D := by exact_mod_cast hDpos
  have h10 : (0 : ℚ) < 10 ^ t := by positivity
  -- the binary value is `N / D` units of `10^t`
  have hval : (m : ℚ) * 2 ^ e = N / D * 10 ^ t := by
    rw [← hN, ← hD, zpow_toNat_div 2 e, zpow_toNat_div 10 t]
    push_cast
    field_simp
  rw [hval]
  refine ⟨?_, ?_, ?_⟩
  · apply mul_le_mul_of_nonneg_right _ h10.le
    rw [le_div_iff₀ hD']
    exact_mod_cast Nat.div_mul_le_self N D
  · apply mul_lt_mul_of_pos_right _ h10
    rw [div_lt_iff₀ hD']
    have := Nat.lt_div_mul_add (a := N) hDpos
    exact_mod_cast (by rw [Nat.add_mul, Nat.one_mul]; exact this : N < (N / D + 1) * D)
  · rw [mul_left_inj' h10.ne', eq_div_iff hD'.ne']
    constructor
    · intro h0
      exact_mod_cast Nat.div_mul_cancel (Nat.dvd_of_mod_eq_zero h0)
    · intro h
      have h' : N / D * D = N := by exact_mod_cast h
      exact Nat.mod_eq_zero_of_dvd ⟨N / D, by rw [Nat.mul_comm]; exact h'.symm⟩

namespace Binary

variable {b : Binary}

theorem candidate_readsBack (hb : b.Finite) {E : Int} {p : Nat} {s : Scientific}
    (h : b.candidate E p = some s) : b.ReadsBack (s.digits * 10 ^ s.exponent) := by
  have hm := hb.canonical.pos
  unfold candidate at h
  dsimp only at h
  obtain ⟨-, -, hexact⟩ := quotientDecBin_spec b.mantissa b.exponent (E - p + 1)
  generalize quotientDecBin b.mantissa b.exponent (E - p + 1) = q at h hexact
  obtain ⟨c0, exact⟩ := q
  dsimp only at h hexact
  split at h
  · next hx =>
    cases h
    rw [hexact.mp hx]
    exact ReadsBack.self
  · split at h
    · cases h
    · next h0 _ =>
      cases h
      exact (reads_iff hm _ _).mp h0
    · next _ h1 =>
      cases h
      exact_mod_cast (reads_iff hm _ _).mp h1
    · next h0 h1 =>
      have r0 := (reads_iff hm _ _).mp h0
      have r1 := (reads_iff hm _ _).mp h1
      split at h <;> (try split at h) <;> cases h <;> first | exact r0 | exact_mod_cast r1

end Binary

/-- Two steps below the first guess of the decimal exponent stays below the binary exponent's
power of two: `0.30103` overestimates `log10 2` by less than `5 · 10^-9`, which over the exponents
of doubles is far less than the two steps. -/
theorem ten_pow_guess_le (n : Int) (hlo : -1074 ≤ n) (hhi : n ≤ 1023) :
    (10 : ℚ) ^ (n * 30103 / 100000 - 2) ≤ 2 ^ n := by
  rcases le_or_gt 0 n with hn | hn
  · rcases le_or_gt (n * 30103 / 100000 - 2) 0 with hg | hg
    · calc (10 : ℚ) ^ (n * 30103 / 100000 - 2) ≤ 1 := zpow_le_one_of_nonpos₀ (by norm_num) hg
        _ ≤ 2 ^ n := one_le_zpow₀ (by norm_num) hn
    · -- from `10^3 ≤ 2^10`: ten steps of the guess are at most three of the exponent
      obtain ⟨k, hk⟩ : ∃ k : Nat, n * 30103 / 100000 - 2 = k :=
        ⟨_, (Int.toNat_of_nonneg hg.le).symm⟩
      obtain ⟨j, hj⟩ : ∃ j : Nat, n = j := ⟨_, (Int.toNat_of_nonneg hn).symm⟩
      have hkj : 10 * k ≤ 3 * j := by omega
      have h : (10 ^ k) ^ 10 ≤ (2 ^ j) ^ 10 :=
        calc (10 ^ k) ^ 10 = 10 ^ (10 * k) := by rw [← pow_mul, mul_comm]
          _ ≤ 10 ^ (3 * j) := Nat.pow_le_pow_right (by norm_num) hkj
          _ = 1000 ^ j := by rw [pow_mul]; norm_num
          _ ≤ 1024 ^ j := Nat.pow_le_pow_left (by norm_num) j
          _ = (2 ^ j) ^ 10 := by rw [← pow_mul, mul_comm, pow_mul]; norm_num
      have hnat : 10 ^ k ≤ 2 ^ j := (Nat.pow_le_pow_iff_left (by norm_num)).mp h
      rw [hk, hj, zpow_natCast, zpow_natCast]
      exact_mod_cast hnat
  · -- from `2^1000 ≤ 10^302`: the guess is far enough below zero
    obtain ⟨j, hj⟩ : ∃ j : Nat, n * 30103 / 100000 - 2 = -(j : Int) :=
      ⟨(-(n * 30103 / 100000 - 2)).toNat, by omega⟩
    obtain ⟨a, ha⟩ : ∃ a : Nat, n = -(a : Int) := ⟨(-n).toNat, by omega⟩
    have haj : 302 * a ≤ 1000 * j := by omega
    have h : (2 ^ a) ^ 1000 ≤ (10 ^ j) ^ 1000 :=
      calc (2 ^ a) ^ 1000 = (2 ^ 1000) ^ a := by rw [← pow_mul, ← pow_mul, mul_comm]
        _ ≤ (10 ^ 302) ^ a := Nat.pow_le_pow_left (by decide +kernel) a
        _ = 10 ^ (302 * a) := by rw [← pow_mul]
        _ ≤ 10 ^ (1000 * j) := Nat.pow_le_pow_right (by norm_num) haj
        _ = (10 ^ j) ^ 1000 := by rw [← pow_mul, mul_comm]
    -- taken apart in two roots, each of an exponent small enough to leave unevaluated
    rw [show 1000 = 10 * 100 from rfl, pow_mul, pow_mul] at h
    have hnat : 2 ^ a ≤ 10 ^ j :=
      (Nat.pow_le_pow_iff_left (by norm_num)).mp ((Nat.pow_le_pow_iff_left (by norm_num)).mp h)
    rw [hj, ha, zpow_neg, zpow_neg, zpow_natCast, zpow_natCast]
    exact inv_anti₀ (by positivity) (by exact_mod_cast hnat)

theorem decimalExponent_le {m : Nat} {e : Int} (hcan : Canonical m e) :
    (10 : ℚ) ^ decimalExponent m e ≤ m * 2 ^ e := by
  rcases decimalExponent_cases m e with h | h
  · rw [compareDecBin_eq, Ne, compare_gt_iff_gt, not_lt] at h
    simpa using h
  · have hL : m.log2 < 53 := (Nat.log2_lt hcan.pos.ne').mpr hcan.lt
    have hpow : (2 : ℚ) ^ ((m.log2 : Int) + e) ≤ m * 2 ^ e := by
      rw [zpow_add₀ (by norm_num), zpow_natCast]
      exact mul_le_mul_of_nonneg_right (by exact_mod_cast Nat.log2_self_le hcan.pos.ne')
        (by positivity)
    rw [h]
    exact (ten_pow_guess_le _ (by have := hcan.low; omega) (by have := hcan.high; omega)).trans hpow

namespace Binary

variable {b : Binary}

/-- Seventeen digits always give a candidate: once `10^E` is at most `b`, their grid is finer than
the interval that reads back as `b`, so one of the two grid points around `b` lies in it. -/
theorem candidate_seventeen (hb : b.Finite) {E : Int}
    (hE : (10 : ℚ) ^ E ≤ b.mantissa * 2 ^ b.exponent) : (b.candidate E 17).isSome = true := by
  have hm := hb.canonical.pos
  have ht : (10 : ℚ) ^ (E - ((17 : Nat) : Int) + 1) = 10 ^ E / 10 ^ 16 := by
    rw [show E - ((17 : Nat) : Int) + 1 = E - 16 by omega, zpow_sub₀ (by norm_num)]
    norm_num
  obtain ⟨hq1, hq2, hexact⟩ := quotientDecBin_spec b.mantissa b.exponent (E - ((17 : Nat) : Int) + 1)
  unfold candidate
  dsimp only
  generalize E - ((17 : Nat) : Int) + 1 = t at ht hq1 hq2 hexact ⊢
  generalize quotientDecBin b.mantissa b.exponent t = q at hq1 hq2 hexact ⊢
  obtain ⟨c0, exact⟩ := q
  dsimp only at hq1 hq2 hexact ⊢
  split
  · rfl
  · next hx =>
    split
    · next h0 h1 =>
      exfalso
      have hlt : (c0 : ℚ) * 10 ^ t < b.mantissa * 2 ^ b.exponent :=
        lt_of_le_of_ne hq1 fun h => hx (hexact.mpr h)
      -- neither grid point reads back: both lie at or beyond the interval's ends
      have n0 : (c0 : ℚ) * 10 ^ t ≤ b.lower := by
        by_contra hc
        have hr := (reads_iff hm c0 t).mpr
          (ReadsBack.of_between (not_le.mp hc) (hlt.trans self_lt_upper))
        rw [hr] at h0
        cases h0
      have n1 : b.upper ≤ ((c0 + 1 : Nat) : ℚ) * 10 ^ t := by
        by_contra hc
        have hr := (reads_iff hm (c0 + 1) t).mpr
          (ReadsBack.of_between ((lower_lt_self).trans (by push_cast; exact hq2))
            (not_le.mp hc))
        rw [hr] at h1
        cases h1
      -- so a step of the grid spans the interval, yet it is narrower
      have hstep : b.upper - b.lower ≤ 10 ^ t := by
        push_cast at n1
        linarith
      have hE' : (10 : ℚ) ^ t ≤ b.mantissa * 2 ^ b.exponent / 10 ^ 16 := by
        rw [ht]
        exact div_le_div_of_nonneg_right hE (by positivity)
      linarith [div_ten_pow_lt_width hb]
    all_goals first | rfl | (split <;> rfl)

end Binary

theorem normalize_go_value (fuel : Nat) (s : Scientific) :
    ((Scientific.normalize.go fuel s).digits : ℚ) * 10 ^ (Scientific.normalize.go fuel s).exponent =
      s.digits * 10 ^ s.exponent := by
  induction fuel generalizing s with
  | zero => rfl
  | succ fuel ih =>
    unfold Scientific.normalize.go
    split
    · next hz =>
      simp only [Bool.and_eq_true, bne_iff_ne, ne_eq, beq_iff_eq] at hz
      rw [ih]
      -- a trailing zero moves into the exponent
      obtain ⟨k, hk⟩ := Nat.dvd_of_mod_eq_zero hz.2
      dsimp only
      rw [hk, Nat.mul_div_cancel_left k (by norm_num), zpow_add_one₀ (by norm_num)]
      push_cast
      ring
    · rfl

theorem normalize_value (s : Scientific) :
    (s.normalize.digits : ℚ) * 10 ^ s.normalize.exponent = s.digits * 10 ^ s.exponent :=
  normalize_go_value 20 s

namespace Binary

variable {b : Binary}

theorem shortest_readsBack (hb : b.Finite) :
    b.ReadsBack (b.shortest.digits * 10 ^ b.shortest.exponent) ∧ b.shortest.digits ≠ 0 := by
  unfold shortest
  dsimp only
  generalize hE : decimalExponent b.mantissa b.exponent = E
  have h17 := candidate_seventeen hb (hE ▸ decimalExponent_le hb.canonical)
  -- the search finds a candidate, at the latest with seventeen digits
  obtain ⟨s, hs⟩ : ∃ s, (List.range 17).findSome? (fun i => b.candidate E (i + 1)) = some s := by
    rcases h : (List.range 17).findSome? (fun i => b.candidate E (i + 1)) with _ | s
    · have hnone : b.candidate E 17 = none :=
        List.findSome?_eq_none_iff.mp h 16 (List.mem_range.mpr (by norm_num))
      rw [hnone] at h17
      cases h17
    · exact ⟨s, rfl⟩
  obtain ⟨i, -, hi⟩ := List.exists_of_findSome?_eq_some hs
  have hr := candidate_readsBack hb hi
  rw [hs, Option.getD_some]
  refine ⟨by rw [normalize_value]; exact hr, normalize_go_digits 20 s fun h0 => ?_⟩
  have hpos := hr.pos hb
  rw [h0, Nat.cast_zero, zero_mul] at hpos
  exact lt_irrefl _ hpos

end Binary

end Tabula.Decimal
