import Mathlib
import Tabula.Proofs.JsonReading
import Tabula.Decimal.Format

/-!
The numbers of JSON records are JSON numbers. An integer is its decimal digits with a sign and
reads back as itself (`readsAt_intText`). A finite double is printed positionally with a point
and fraction digits, or in the general form with ten digits (`Float.recordText_parts`); the only
text of the general form that is no JSON number would be a zero followed by zeros, and
`roundTo_ten_zero_exponent` shows that a double never rounds to it: the decimal exponent estimate
is at most two too high, and half a unit of the tenth digit below it is still less than the
smallest value with that estimate.
-/

namespace Tabula.Json

theorem toDigits_isDigit (n : Nat) : ∀ c ∈ Nat.toDigits 10 n, c.isDigit := fun _ hc =>
  Nat.isDigit_of_mem_toDigits (by decide) (by decide) hc

theorem toDigits_leading (n : Nat) (h : (Nat.toDigits 10 n).head? = some '0') : n = 0 := by
  induction n using Nat.strongRecOn with
  | ind n ih =>
    rw [Nat.toDigits_eq_if (by decide)] at h
    split at h
    · next hn =>
      have table : ∀ d : Fin 10, Nat.digitChar d = '0' → (d : Nat) = 0 := by decide
      exact table ⟨n, hn⟩ (by simpa using h)
    · next hn =>
      have hq := ih (n / 10) (by omega)
        (by rwa [List.head?_append_of_ne_nil _ Nat.toDigits_ne_nil] at h)
      omega

theorem digitValue_map (cs : List Char) (init : Nat) :
    cs.foldl (fun n c => n * 10 + (c.toNat - 0x30)) init = Nat.ofDigitChars 10 cs init := by
  induction cs generalizing init with
  | nil => rfl
  | cons c cs ih =>
    rw [List.foldl_cons, ih, Nat.ofDigitChars_cons, Nat.mul_comm]
    rfl

theorem digitValue_toDigits (n : Nat) : digitValue ((Nat.toDigits 10 n).map Char.toNat) = n := by
  rw [digitValue, List.foldl_map, digitValue_map, Nat.ofDigitChars_ten_toDigits]

theorem NumberParts.text_withSign (p : NumberParts) (h : p.neg = false) (s : Bool) :
    ({ p with neg := s } : NumberParts).text = (if s then ['-'] else []) ++ p.text := by
  simp [NumberParts.text, h]

theorem NumberParts.Valid.withSign {p : NumberParts} (hp : p.Valid) (s : Bool) :
    ({ p with neg := s } : NumberParts).Valid :=
  ⟨hp.whole_ne, hp.whole_digits, hp.leading, hp.frac_digits, hp.exp_ne, hp.exp_digits⟩

def wholeParts (neg : Bool) (n : Nat) : NumberParts := ⟨neg, Nat.toDigits 10 n, [], none⟩

theorem wholeParts_valid (neg : Bool) (n : Nat) : (wholeParts neg n).Valid where
  whole_ne := Nat.toDigits_ne_nil
  whole_digits := toDigits_isDigit n
  leading h := by
    have := toDigits_leading n h
    subst this
    rfl
  frac_digits := by simp [wholeParts]
  exp_ne := by simp [wholeParts]
  exp_digits := by simp [wholeParts]

theorem intText_points (n : Int) :
    (Text.ofString (Value.intText n)).points = (wholeParts (decide (n < 0)) n.natAbs).text.map Char.toNat := by
  by_cases hn : n < 0 <;> simp [Value.intText, hn, wholeParts, NumberParts.text, Text.ofString_points]

theorem readsAt_intText (depth : Nat) (n : Int) (h : n.natAbs < 10 ^ maxDigits) :
    ReadsAt depth (Text.ofString (Value.intText n)).points (· = .int n) := by
  have hlen : (Nat.toDigits 10 n.natAbs).length ≤ maxDigits :=
    (Nat.length_toDigits_le_iff (by decide) (by decide)).mpr h
  rw [intText_points]
  refine (readsAt_number depth _ (wholeParts_valid (decide (n < 0)) n.natAbs)
    (fun _ _ => hlen)).mono fun v ⟨_, hint, _⟩ => ?_
  rw [hint rfl rfl]
  simp only [wholeParts, digitValue_toDigits]
  by_cases hn : n < 0
  · rw [decide_eq_true hn, if_pos rfl, Int.ofNat_natAbs_of_nonpos (Int.le_of_lt hn), Int.neg_neg]
  · rw [decide_eq_false hn, if_neg Bool.false_ne_true, Int.natAbs_of_nonneg (Int.not_lt.mp hn)]

end Tabula.Json

namespace Tabula.Decimal

open Float.Model in
theorem nonFinite_of_exponent_bits (x : Float) (h : ((x.toBits >>> 52) &&& 0x7FF).toNat = 0x7FF) :
    (x.isNaN || x.isInf) = true := by
  have hexp : @UnpackedFloat.unpackExponent Format.binary64 x.toModel.toBits.toBitVec = -1#11 := by
    apply BitVec.eq_of_toNat_eq
    have h' : (x.toModel.toBits.toNat >>> 52) % 2048 = 2047 := by
      have := h
      simp only [Float.toBits, UInt64.toNat_and, UInt64.toNat_shiftRight, UInt64.reduceToNat,
        Nat.reduceMod] at this
      rw [show (2047 : Nat) = 2 ^ 11 - 1 from rfl, Nat.and_two_pow_sub_one_eq_mod] at this
      exact this
    simpa [UnpackedFloat.unpackExponent] using h'
  simp only [Float.isNaN, Float.isInf, Float.Model.isNaN, Float.Model.isInf, Float.Model.unpack,
    UnpackedFloat.unpack, hexp, if_true]
  split <;> rfl

theorem Binary.ofFloat?_finite (x : Float) (h : (x.isNaN || x.isInf) = false) :
    ∃ b, Binary.ofFloat? x = some b := by
  unfold Binary.ofFloat?
  dsimp only
  split
  · next he =>
    rw [nonFinite_of_exponent_bits x (by simpa using he)] at h
    cases h
  · split
    · exact ⟨_, rfl⟩
    · exact ⟨_, rfl⟩

theorem normalize_go_zero (fuel : Nat) (s : Scientific) (h : s.digits = 0) :
    Scientific.normalize.go fuel s = s := by
  cases fuel <;> simp [Scientific.normalize.go, h]

theorem normalize_go_digits (fuel : Nat) (s : Scientific) (h : s.digits ≠ 0) :
    (Scientific.normalize.go fuel s).digits ≠ 0 := by
  induction fuel generalizing s with
  | zero => exact h
  | succ fuel ih =>
    unfold Scientific.normalize.go
    split
    · next hz =>
      apply ih
      simp only [Bool.and_eq_true, bne_iff_ne, ne_eq, beq_iff_eq] at hz
      dsimp only
      omega
    · exact h

theorem normalize_digits_eq_zero (s : Scientific) :
    s.normalize.digits = 0 → s.normalize = s ∧ s.digits = 0 := by
  intro h
  by_cases hs : s.digits = 0
  · exact ⟨normalize_go_zero 20 s hs, hs⟩
  · exact absurd h (normalize_go_digits 20 s hs)

theorem digitsOf_eq (n : Nat) : digitsOf n = Nat.toDigits 10 n := by
  simp [digitsOf, Nat.toString_eq_repr]

theorem zeros_isDigit (m : Nat) : ∀ c ∈ zeros m, c.isDigit := by
  intro c hc
  rw [zeros, List.mem_replicate] at hc
  rw [hc.2]
  rfl

theorem padded_ne (w n : Nat) : padded w n ≠ [] := by
  simp [padded, digitsOf_eq, Nat.toDigits_ne_nil]

theorem padded_isDigit (w n : Nat) : ∀ c ∈ padded w n, c.isDigit := by
  intro c hc
  rcases List.mem_append.mp hc with hc | hc
  · exact zeros_isDigit _ c hc
  · rw [digitsOf_eq] at hc
    exact Json.toDigits_isDigit _ c hc

theorem ofDigitChars_digitsOf (n : Nat) : Nat.ofDigitChars 10 (digitsOf n) 0 = n := by
  rw [digitsOf_eq, Nat.ofDigitChars_ten_toDigits]

open Json in
theorem NumberParts.mantissa_eq (p : NumberParts) :
    p.mantissa = Nat.ofDigitChars 10 (p.whole ++ p.frac) 0 := by
  rw [NumberParts.mantissa, digitValue, List.foldl_map, digitValue_map]

open Json in
theorem digitValue_padded (w n : Nat) : digitValue ((padded w n).map Char.toNat) = n := by
  rw [digitValue, List.foldl_map, digitValue_map, padded, zeros, Nat.ofDigitChars_append,
    Nat.ofDigitChars_replicate_zero, Nat.mul_zero, ofDigitChars_digitsOf]

open Json in
/-- Every form `render` writes is a JSON number, provided a zero is not written positionally with
zeros after it. Its digits and exponent give the value of `s`, and where a whole number keeps
`.0` the form always has a fraction or an exponent. -/
theorem Scientific.render_parts (n : Notation) (s : Scientific)
    (hz : s.digits = 0 → ¬ (1 ≤ s.exponent ∧ s.exponent ≤ n.highest))
    (hw : n.highest + 1 ≤ (maxDigits : Int)) :
    ∃ p : NumberParts, p.neg = false ∧ p.Valid ∧ s.render n = p.text ∧
      (p.frac = [] → p.exp = none → p.whole.length ≤ maxDigits) ∧
      (p.mantissa : ℚ) * 10 ^ p.exponent = s.digits * 10 ^ s.exponent ∧
      (n.pointZero = true → p.frac ≠ [] ∨ p.exp.isSome = true) := by
  have hds_ne : digitsOf s.digits ≠ [] := by
    rw [digitsOf_eq]
    exact Nat.toDigits_ne_nil
  have hds_dig : ∀ c ∈ digitsOf s.digits, c.isDigit := by
    rw [digitsOf_eq]
    exact toDigits_isDigit _
  have hds_lead : (digitsOf s.digits).head? = some '0' → s.digits = 0 := by
    rw [digitsOf_eq]
    exact toDigits_leading _
  have hds_zero : s.digits = 0 → digitsOf s.digits = ['0'] := by
    intro h
    rw [h]
    rfl
  have hds_val := ofDigitChars_digitsOf s.digits
  unfold Scientific.render
  dsimp only
  generalize digitsOf s.digits = ds at *
  split
  · next hpos =>
    simp only [Bool.and_eq_true, decide_eq_true_eq] at hpos
    split
    · -- below one: a zero, a point, zeros and the digits
      next hE =>
      refine ⟨⟨false, ['0'], zeros ((-(s.exponent + ds.length - 1)).toNat - 1) ++ ds, none⟩, rfl,
        ⟨by simp, by simp, fun _ => rfl, ?_, by simp, by simp⟩, ?_, by simp [hds_ne], ?_,
        fun _ => .inl (by simp [hds_ne])⟩
      · intro c hc
        rcases List.mem_append.mp hc with hc | hc
        · exact zeros_isDigit _ c hc
        · exact hds_dig c hc
      · simp [NumberParts.text, hds_ne]
      · -- the zeros after the point make up the negative exponent
        have hexp : (0 : Int) - ((zeros ((-(s.exponent + ds.length - 1)).toNat - 1) ++ ds).length :
            Nat) = s.exponent := by
          simp only [zeros, List.length_append, List.length_replicate]
          omega
        rw [NumberParts.mantissa_eq, NumberParts.exponent]
        simp only [Option.map_none, Option.getD_none]
        rw [hexp, List.singleton_append, Nat.ofDigitChars_cons, Nat.ofDigitChars_append, zeros,
          Nat.ofDigitChars_replicate_zero]
        simp [hds_val]
    · next hE =>
      split
      · -- a whole number: the digits and zeros
        next hk =>
        have hlead : (ds ++ zeros ((s.exponent + ds.length - 1).toNat + 1 - ds.length)).head? =
            some '0' → ds ++ zeros ((s.exponent + ds.length - 1).toNat + 1 - ds.length) = ['0'] := by
          intro h0
          rw [List.head?_append_of_ne_nil _ hds_ne] at h0
          have hd0 := hds_lead h0
          have hds1 := hds_zero hd0
          have hex := hz hd0
          rw [hds1] at hpos hE ⊢
          simp only [List.length_singleton] at hpos hE ⊢
          have : (s.exponent + ((1 : Nat) : Int) - 1).toNat + 1 - 1 = 0 := by omega
          rw [this]
          rfl
        refine ⟨⟨false, ds ++ zeros ((s.exponent + ds.length - 1).toNat + 1 - ds.length),
          if n.pointZero then ['0'] else [], none⟩, rfl,
          ⟨by simp [hds_ne], ?_, hlead, ?_, by simp, by simp⟩, ?_, ?_, ?_, ?_⟩
        · intro c hc
          rcases List.mem_append.mp hc with hc | hc
          · exact hds_dig c hc
          · exact zeros_isDigit _ c hc
        · cases n.pointZero <;> simp
        · cases n.pointZero <;> simp [NumberParts.text]
        · intro hf _
          simp only [List.length_append, zeros, List.length_replicate]
          omega
        · -- the zeros carry the exponent, and `.0` adds a digit taken back by the exponent
          have hk' : (((s.exponent + ds.length - 1).toNat + 1 - ds.length : Nat) : Int) =
              s.exponent := by omega
          rw [NumberParts.mantissa_eq, NumberParts.exponent]
          generalize (s.exponent + ds.length - 1).toNat + 1 - ds.length = j at hk' ⊢
          rw [← hk']
          simp only [Option.map_none, Option.getD_none, List.append_assoc, Nat.ofDigitChars_append,
            hds_val, zeros, Nat.ofDigitChars_replicate_zero, zpow_natCast]
          cases n.pointZero
          · simp only [Bool.false_eq_true, if_false, Nat.ofDigitChars_nil, List.length_nil]
            push_cast
            ring
          · simp only [if_true, Nat.ofDigitChars_cons, Nat.ofDigitChars_nil, List.length_singleton]
            push_cast
            rw [zpow_neg_one]
            ring
        · intro h
          simp [h]
      · -- the point falls inside the digits
        next hk =>
        generalize hk' : (s.exponent + ds.length - 1).toNat + 1 = k at hk
        have hk1 : 1 ≤ k := by omega
        have hdrop : ds.drop k ≠ [] := by simp; omega
        have htake : ds.take k ≠ [] := by simp [hds_ne]; omega
        have hlead : (ds.take k).head? = some '0' → ds.take k = ['0'] := by
          intro h0
          rw [List.head?_take, if_neg (by omega)] at h0
          have hds1 := hds_zero (hds_lead h0)
          rw [hds1] at hk
          simp at hk
          omega
        refine ⟨⟨false, ds.take k, ds.drop k, none⟩, rfl,
          ⟨htake, fun c hc => hds_dig c (List.mem_of_mem_take hc), hlead,
            fun c hc => hds_dig c (List.mem_of_mem_drop hc), by simp, by simp⟩, ?_,
          fun hf => absurd hf hdrop, ?_, fun _ => .inl hdrop⟩
        · simp [NumberParts.text, hdrop]
        · -- the digits after the point make up the exponent
          have hexp : (0 : Int) - ((ds.drop k).length : Nat) = s.exponent := by
            simp only [List.length_drop]
            omega
          rw [NumberParts.mantissa_eq, NumberParts.exponent]
          simp only [Option.map_none, Option.getD_none]
          rw [List.take_append_drop, hds_val, hexp]
  · -- exponent form: one digit, the others after a point, and the exponent
    obtain ⟨d, rest, rfl⟩ := List.exists_cons_of_ne_nil hds_ne
    have hE : s.exponent + ((d :: rest).length : Int) - 1 - (rest.length : Int) = s.exponent := by
      simp only [List.length_cons]
      omega
    generalize s.exponent + ((d :: rest).length : Int) - 1 = E at hE
    have hpad_ne := padded_ne n.exponentDigits E.natAbs
    have hpad_dig := padded_isDigit n.exponentDigits E.natAbs
    refine ⟨⟨false, [d], rest, some (decide (E < 0), padded n.exponentDigits E.natAbs)⟩, rfl,
      ⟨by simp, fun c hc => hds_dig c (by simp_all), fun h0 => by simp_all,
        fun c hc => hds_dig c (List.mem_cons_of_mem _ hc), by simpa using hpad_ne,
        by simpa using hpad_dig⟩, ?_, fun _ hx => (by cases hx), ?_, fun _ => Or.inr rfl⟩
    · cases rest <;> by_cases hneg : E < 0 <;> simp [NumberParts.text, hneg]
    · -- the exponent written, less the digits after the point
      have hEval : (if decide (E < 0) = true then -((E.natAbs : Nat) : Int)
          else ((E.natAbs : Nat) : Int)) = E := by
        by_cases hneg : E < 0
        · rw [if_pos (decide_eq_true hneg)]
          omega
        · rw [if_neg (by rw [decide_eq_true_eq]; exact hneg)]
          omega
      rw [NumberParts.mantissa_eq, NumberParts.exponent]
      simp only [Option.map_some, Option.getD_some, digitValue_padded, hEval, List.singleton_append]
      rw [hds_val, hE]

/-- The exponent estimate is either no more than the true exponent, or it is the first guess
lowered twice. -/
theorem decimalExponent_cases (m : Nat) (e : Int) :
    compareDecBin 1 (decimalExponent m e) m e ≠ .gt ∨
      decimalExponent m e = ((Nat.log2 m : Int) + e) * 30103 / 100000 - 2 := by
  unfold decimalExponent
  dsimp only
  generalize ((Nat.log2 m : Int) + e) * 30103 / 100000 = g
  by_cases hg : compareDecBin 1 g m e = .gt
  · by_cases hg1 : compareDecBin 1 (g - 1) m e = .gt
    · -- lowered twice, and the next power up is already above: the guess minus two stays
      right
      simp [hg, hg1]
      omega
    · left
      simp [hg, hg1]
  · left
    by_cases hu : compareDecBin 1 (g + 1) m e = .gt
    · simp [hg, hu]
    · by_cases hu' : compareDecBin 1 (g + 1 + 1) m e = .gt
      · simp [hg, hu, hu']
      · simp [hg, hu, hu']

/-- A rounded quotient gives zero digits only when it is zero and not carried into the next
power of ten, and then its exponent is the one it was computed at. -/
theorem carried_digits_eq_zero {r p : Nat} {t : Int}
    (h : (if (r == Nat.pow 10 p) = true then (⟨Nat.pow 10 (p - 1), t + 1⟩ : Scientific)
      else ⟨r, t⟩).digits = 0) :
    r = 0 ∧ (if (r == Nat.pow 10 p) = true then (⟨Nat.pow 10 (p - 1), t + 1⟩ : Scientific)
      else ⟨r, t⟩).exponent = t := by
  split at h
  · simp only [Nat.pow_eq] at h
    exact absurd h (Nat.ne_of_gt (Nat.pow_pos (by decide : 0 < 10)))
  · next hr => exact ⟨h, by rw [if_neg hr]⟩

/-- Rounding a nonzero value gives zero digits only by rounding down from below half a unit of the
last place. -/
theorem roundTo_digits_zero (b : Binary) (p : Nat) (hm : 0 < b.mantissa)
    (hz : (b.roundTo p).digits = 0) :
    (b.roundTo p).exponent = decimalExponent b.mantissa b.exponent - p + 1 ∧
      compareDecBin 1 (b.roundTo p).exponent (2 * b.mantissa) b.exponent ≠ .lt := by
  unfold Binary.roundTo at hz ⊢
  dsimp only at hz ⊢
  obtain ⟨hr0, hexp⟩ := carried_digits_eq_zero hz
  refine ⟨hexp, ?_⟩
  rw [hexp]
  generalize decimalExponent b.mantissa b.exponent - p + 1 = t at hr0 ⊢
  generalize hqe : quotientDecBin b.mantissa b.exponent t = qe at hr0
  obtain ⟨q, exact⟩ := qe
  dsimp only at hr0
  cases exact with
  | false =>
    -- inexact: a zero quotient is kept only when its upper half-way point is not below
    simp only [Bool.false_eq_true, if_false] at hr0
    cases hc : compareDecBin (2 * q + 1) t (2 * b.mantissa) b.exponent with
    | gt =>
      simp only [hc] at hr0
      subst hr0
      rw [hc]
      decide
    | lt => simp [hc] at hr0
    | eq =>
      simp only [hc] at hr0
      have hq : q = 0 := by split at hr0 <;> omega
      subst hq
      rw [hc]
      decide
  | true =>
    -- an exact zero quotient would make the mantissa zero
    simp only [if_true] at hr0
    subst hr0
    simp only [quotientDecBin, Prod.mk.injEq, beq_iff_eq] at hqe
    obtain ⟨hq, hmod⟩ := hqe
    have hnum := Nat.div_add_mod (b.mantissa * Nat.pow 2 b.exponent.toNat *
      Nat.pow 10 (-t).toNat) (Nat.pow 2 (-b.exponent).toNat * Nat.pow 10 t.toNat)
    rw [hq, hmod] at hnum
    simp only [Nat.pow_eq, Nat.mul_zero, Nat.add_zero] at hnum
    have hpos : 0 < b.mantissa * 2 ^ b.exponent.toNat * 10 ^ (-t).toNat :=
      Nat.mul_pos (Nat.mul_pos hm (Nat.two_pow_pos _)) (Nat.pow_pos (by decide))
    omega

theorem ten_pow_lt_two_pow (j : Nat) : 10 ^ j < 2 ^ (10 * (j / 3) + 7) := by
  have hsplit : 10 ^ j = (10 ^ 3) ^ (j / 3) * 10 ^ (j % 3) := by
    rw [← Nat.pow_mul, ← Nat.pow_add, Nat.div_add_mod]
  have hcube : (10 ^ 3) ^ (j / 3) ≤ 2 ^ (10 * (j / 3)) := by
    rw [Nat.pow_mul]
    exact Nat.pow_le_pow_left (by decide) _
  have hrest : 10 ^ (j % 3) < 2 ^ 7 := by
    have : j % 3 = 0 ∨ j % 3 = 1 ∨ j % 3 = 2 := by omega
    rcases this with h | h | h <;> rw [h] <;> decide
  calc 10 ^ j = (10 ^ 3) ^ (j / 3) * 10 ^ (j % 3) := hsplit
    _ < 2 ^ (10 * (j / 3)) * 2 ^ 7 := Nat.mul_lt_mul_of_le_of_lt hcube hrest (Nat.two_pow_pos _)
    _ = 2 ^ (10 * (j / 3) + 7) := (Nat.pow_add _ _ _).symm

theorem Binary.ofFloat?_bounds (x : Float) (b : Binary) (h : Binary.ofFloat? x = some b) :
    b.mantissa < 2 ^ 53 ∧ b.exponent ≤ 971 := by
  unfold Binary.ofFloat? at h
  dsimp only at h
  have hf : (x.toBits &&& 0xFFFFFFFFFFFFF).toNat ≤ 0xFFFFFFFFFFFFF := by
    rw [UInt64.toNat_and]
    exact Nat.and_le_right
  have he : ((x.toBits >>> 52) &&& 0x7FF).toNat ≤ 0x7FF := by
    rw [UInt64.toNat_and]
    exact Nat.and_le_right
  split at h
  · cases h
  · next hnot =>
    simp only [beq_iff_eq] at hnot
    split at h
    · cases h
      simp only
      omega
    · cases h
      simp only [Nat.pow_eq]
      omega

/-- Ten significant digits of a double round to a zero only at an exponent of at most zero: the
zero comes from a value below half a unit of the last place, and the decimal exponent estimate
is never so far above the value's true exponent that this place reaches units. -/
theorem roundTo_ten_zero_exponent (b : Binary) (hm : 0 < b.mantissa) (hb : b.mantissa < 2 ^ 53)
    (he : b.exponent ≤ 971) (hz : (b.roundTo 10).digits = 0) : (b.roundTo 10).exponent ≤ 0 := by
  obtain ⟨hexp, hcmp⟩ := roundTo_digits_zero b 10 hm hz
  rw [hexp] at hcmp ⊢
  by_contra hpos
  simp only [compareDecBin, ne_eq, Nat.compare_eq_lt, Nat.not_lt, Nat.pow_eq] at hcmp
  generalize hE : decimalExponent b.mantissa b.exponent = E at hcmp hpos
  generalize hT : (E - ((10 : Nat) : Int) + 1).toNat = T at hcmp
  have hnt : (-(E - ((10 : Nat) : Int) + 1)).toNat = 0 := by omega
  rw [hnt, Nat.pow_zero, Nat.mul_one] at hcmp
  have hA := Nat.two_pow_pos (-b.exponent).toNat
  have hP := Nat.pow_pos (n := T) (by decide : 0 < 10)
  rcases decimalExponent_cases b.mantissa b.exponent with h1 | h2
  · -- the estimate is at most the value, so half a unit of the place below is far smaller
    rw [hE] at h1
    simp only [compareDecBin, ne_eq, Nat.compare_eq_gt, Nat.not_lt, Nat.pow_eq] at h1
    have hE' : E.toNat = T + 9 := by omega
    have hnE : (-E).toNat = 0 := by omega
    rw [hE', hnE, Nat.pow_zero, Nat.mul_one, Nat.pow_add, Nat.one_mul] at h1
    have hPA : 0 < 10 ^ T * 2 ^ (-b.exponent).toNat := Nat.mul_pos hP hA
    have : 10 ^ T * 2 ^ (-b.exponent).toNat * 2000000000 ≤ 10 ^ T * 2 ^ (-b.exponent).toNat := by
      calc 10 ^ T * 2 ^ (-b.exponent).toNat * 2000000000
          = 2 * (10 ^ T * 10 ^ 9 * 2 ^ (-b.exponent).toNat) := by ring
        _ ≤ 2 * (b.mantissa * 2 ^ b.exponent.toNat) := Nat.mul_le_mul_left 2 h1
        _ = 2 * b.mantissa * 2 ^ b.exponent.toNat := by ring
        _ ≤ 10 ^ T * 2 ^ (-b.exponent).toNat := by simpa using hcmp
    omega
  · -- the estimate was lowered twice: then the value has at least forty bits, and half a unit
    -- of the tenth digit is still far below it
    rw [hE] at h2
    have hlog := Nat.log2_self_le hm.ne'
    have hlt : b.mantissa.log2 < 53 := (Nat.log2_lt hm.ne').mpr hb
    generalize hN : b.mantissa.log2 + 1 + b.exponent.toNat - (-b.exponent).toNat = N
    have hsum : b.mantissa.log2 + 1 + b.exponent.toNat = N + (-b.exponent).toNat := by omega
    have hbits : 2 ^ N * 2 ^ (-b.exponent).toNat ≤ 10 ^ T * 2 ^ (-b.exponent).toNat := by
      calc 2 ^ N * 2 ^ (-b.exponent).toNat = 2 ^ (b.mantissa.log2 + 1 + b.exponent.toNat) := by
            rw [hsum, Nat.pow_add]
        _ = 2 * 2 ^ b.mantissa.log2 * 2 ^ b.exponent.toNat := by rw [Nat.pow_add, Nat.pow_add]; ring
        _ ≤ 2 * b.mantissa * 2 ^ b.exponent.toNat := by gcongr
        _ ≤ 10 ^ T * 2 ^ (-b.exponent).toNat := by simpa using hcmp
    have hN' : 2 ^ N ≤ 10 ^ T := Nat.le_of_mul_le_mul_right hbits hA
    have hsmall : 2 ^ (10 * (T / 3) + 7) ≤ 2 ^ N := Nat.pow_le_pow_right (by decide) (by omega)
    exact absurd (Nat.lt_of_lt_of_le (ten_pow_lt_two_pow T) hsmall) (Nat.not_lt.mpr hN')

end Tabula.Decimal

namespace Float

open Tabula.Decimal Tabula.Json

theorem sign_toList (s : Bool) : (if s then "-" else "").toList = if s then ['-'] else [] := by
  cases s <;> rfl

theorem generalText_parts (x : Float) (h : (x.isNaN || x.isInf) = false) :
    ∃ p : NumberParts, p.Valid ∧ (x.generalText 10).toList = p.text ∧
      (p.frac = [] → p.exp = none → p.whole.length ≤ maxDigits) := by
  obtain ⟨b, hb⟩ := Binary.ofFloat?_finite x h
  have hnan : x.isNaN = false := (Bool.or_eq_false_iff.mp h).1
  obtain ⟨hbm, hbe⟩ := Binary.ofFloat?_bounds x b hb
  unfold generalText
  rw [hnan, hb]
  simp only [Bool.false_eq_true, ↓reduceIte]
  split
  · -- a zero: the digit with the sign bit's sign
    refine ⟨⟨signBit x, ['0'], [], none⟩,
      ⟨by simp, by simp, fun _ => rfl, by simp, by simp, by simp⟩, ?_, fun _ _ => by simp [maxDigits]⟩
    simp [sign_toList, NumberParts.text]
  · next hm =>
    have hm' : 0 < b.mantissa := by simp at hm; omega
    have hz : (b.roundTo 10).normalize.digits = 0 →
        ¬ (1 ≤ (b.roundTo 10).normalize.exponent ∧
          (b.roundTo 10).normalize.exponent ≤ (Notation.general 10).highest) := by
      intro h0
      obtain ⟨hn, hd⟩ := normalize_digits_eq_zero _ h0
      have := roundTo_ten_zero_exponent b hm' hbm hbe hd
      rw [hn]
      omega
    obtain ⟨p, hneg, hp, hr, hd, -, -⟩ :=
      Scientific.render_parts (Notation.general 10) _ hz (by decide)
    refine ⟨{ p with neg := signBit x }, hp.withSign _, ?_, hd⟩
    rw [NumberParts.text_withSign p hneg, String.toList_append, sign_toList, String.toList_ofList,
      hr]

/-- The record form is the general form with ten digits, or a sign, a whole number, a point and
fraction digits. -/
theorem recordText_cases (x : Float) : x.recordText = x.generalText 10 ∨
    ∃ (w : Nat) (f : UInt64), x.recordText = (if x < 0 then "-" else "") ++ w.repr ++ "." ++
      String.ofList (if f == 0 then ['0'] else recordFraction f.toNat) := by
  unfold recordText
  dsimp only
  split <;> split
  · exact Or.inl rfl
  · exact Or.inr ⟨_, _, rfl⟩
  · exact Or.inl rfl
  · exact Or.inr ⟨_, _, rfl⟩

theorem recordFraction_ne (k : Nat) : recordFraction k ≠ [] := by
  unfold recordFraction
  exact padded_ne _ _

theorem recordFraction_isDigit (k : Nat) : ∀ c ∈ recordFraction k, c.isDigit := by
  unfold recordFraction
  exact padded_isDigit _ _

theorem recordText_parts (x : Float) (h : (x.isNaN || x.isInf) = false) :
    ∃ p : NumberParts, p.Valid ∧ x.recordText.toList = p.text ∧
      (p.frac = [] → p.exp = none → p.whole.length ≤ maxDigits) := by
  rcases recordText_cases x with hg | ⟨w, f, hp⟩
  · rw [hg]
    exact generalText_parts x h
  · -- positional: at least one fraction digit follows the point
    have hfrac : (if f == 0 then ['0'] else recordFraction f.toNat) ≠ [] := by
      split
      · simp
      · exact recordFraction_ne _
    have hdig : ∀ c ∈ (if f == 0 then ['0'] else recordFraction f.toNat), c.isDigit := by
      split
      · simp
      · exact recordFraction_isDigit _
    rw [hp]
    generalize (if f == 0 then ['0'] else recordFraction f.toNat) = F at hfrac hdig ⊢
    have hw := wholeParts_valid (decide (x < 0)) w
    refine ⟨{ wholeParts (decide (x < 0)) w with frac := F }, ⟨hw.whole_ne, hw.whole_digits,
      hw.leading, hdig, by simp [wholeParts], by simp [wholeParts]⟩, ?_, fun hf => absurd hf hfrac⟩
    by_cases hx : x < 0 <;> simp [hx, NumberParts.text, wholeParts, hfrac, Nat.repr]

end Float

namespace Tabula.Json

theorem readsAt_recordText (depth : Nat) (x : Float) (h : (x.isNaN || x.isInf) = false) :
    ReadsAt depth (Text.ofString x.recordText).points (fun v => v.isNumber = true) := by
  obtain ⟨p, hp, ht, hd⟩ := Float.recordText_parts x h
  rw [Text.ofString_points, ht]
  exact (readsAt_number depth p hp hd).mono fun _ h => h.1

end Tabula.Json
