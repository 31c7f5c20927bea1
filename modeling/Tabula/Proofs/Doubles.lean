import Mathlib
import Tabula.Proofs.DoubleOrder
import Tabula.Decimal.Format

/-!
Doubles through the logical model of `Float`: a bit pattern unpacks to an infinity, NaN, a zero or
a finite value, and arithmetic computes on unpacked values and packs again. Packing what a pattern
unpacks to gives it back (`ofModel_pack_unpack`), unpacking a packed finite value in canonical form
gives it back (`unpack_pack_finite`), and packing a value that is not NaN never gives NaN
(`pack_unpack_ne_nan`), so converting an integer never does (`ofInt_isNaN`).
-/

open Float.Model

namespace Tabula

theorem pack_unpack_ne_nan {u : UnpackedFloat} (hu : u ≠ .notANumber) :
    (Float.Model.pack u).unpack ≠ .notANumber := by
  intro h
  cases u with
  | notANumber => exact hu rfl
  | infinity s =>
    simp [Float.Model.pack, Float.Model.unpack, UnpackedFloat.pack, UnpackedFloat.unpack,
      UnpackedFloat.packedInfinity] at h
  | zero s =>
    simp [Float.Model.pack, Float.Model.unpack, UnpackedFloat.pack, UnpackedFloat.unpack,
      UnpackedFloat.packedZero] at h
  | finite s m e hm =>
    simp only [Float.Model.pack, Float.Model.unpack, UnpackedFloat.pack] at h
    split at h
    · simp [UnpackedFloat.unpack, UnpackedFloat.packedInfinity] at h
    · split at h
      · simp [UnpackedFloat.unpack] at h
        split at h
        · next hover _ hbits =>
          -- a normal number's biased exponent is below the all-ones pattern
          have hv := congrArg BitVec.toNat hbits
          rw [BitVec.toNat_ofNat, BitVec.toNat_ofNat] at hv
          omega
        · split at h
          · split at h <;> cases h
          · cases h
      · simp [UnpackedFloat.unpack] at h
        split at h <;> cases h

theorem roundWithAccuracy_ne_nan (spec : Format) (s : UnpackedFloat.Sign) (m : Nat) (e : Int)
    (a : UnpackedFloat.Accuracy) : UnpackedFloat.roundWithAccuracy spec s m e a ≠ .notANumber := by
  unfold UnpackedFloat.roundWithAccuracy
  dsimp only
  split <;> simp

theorem unpacked_mul_ne_nan {a b : UnpackedFloat} (ha : a ≠ .notANumber)
    (hb : ∃ s m e h, b = .finite s m e h) : UnpackedFloat.mul Format.binary64 a b ≠ .notANumber := by
  obtain ⟨s, m, e, h, rfl⟩ := hb
  cases a with
  | notANumber => exact absurd rfl ha
  | infinity t => simp [UnpackedFloat.mul]
  | zero t => simp [UnpackedFloat.mul]
  | finite t m' e' h' => exact roundWithAccuracy_ne_nan _ _ _ _ _

theorem normalize_ne_nan (n e : Int) (z : UnpackedFloat.Sign) :
    UnpackedFloat.normalize Format.binary64 n e z ≠ .notANumber := by
  unfold UnpackedFloat.normalize UnpackedFloat.round
  split
  · exact roundWithAccuracy_ne_nan _ _ _ _ _
  · simp
  · exact roundWithAccuracy_ne_nan _ _ _ _ _

theorem ofScientific_ne_nan (m : Nat) (e : Int) :
    UnpackedFloat.ofScientific Format.binary64 m e ≠ .notANumber := by
  unfold UnpackedFloat.ofScientific
  split
  · simp
  · split
    · simp
    · split
      · simp
      · split
        · exact roundWithAccuracy_ne_nan _ _ _ _ _
        · exact roundWithAccuracy_ne_nan _ _ _ _ _

theorem isNaN_ofModel_pack {u : UnpackedFloat} (hu : u ≠ .notANumber) :
    (Float.ofModel (Float.Model.pack u)).isNaN = false := by
  change (Float.Model.pack u).unpack.isNaN = false
  cases h : (Float.Model.pack u).unpack with
  | notANumber => exact absurd h (pack_unpack_ne_nan hu)
  | _ => rfl

theorem unpacked_one :
    ∃ s m e h, (Float.ofBits 0x3FF0000000000000).toModel.unpack = .finite s m e h :=
  ⟨_, _, _, _, rfl⟩

theorem ofNat_isNaN (n : Nat) : (Float.ofNat n).isNaN = false := by
  unfold Float.ofNat OfScientific.ofScientific instOfScientificFloat Float.ofScientific
  dsimp only
  split
  · -- a small number is converted exactly and multiplied by one
    apply isNaN_ofModel_pack
    apply unpacked_mul_ne_nan
    · exact pack_unpack_ne_nan (normalize_ne_nan _ _ _)
    · exact unpacked_one
  · exact isNaN_ofModel_pack (ofScientific_ne_nan _ _)

theorem ofInt_isNaN (n : Int) : (Float.ofInt n).isNaN = false := by
  cases n with
  | ofNat k => exact ofNat_isNaN k
  | negSucc k =>
    change (Float.ofModel (Float.Model.pack (Float.ofNat (k + 1)).toModel.unpack.neg)).isNaN = false
    apply isNaN_ofModel_pack
    have h : (Float.ofNat (k + 1)).toModel.unpack.isNaN = false := ofNat_isNaN (k + 1)
    cases hu : (Float.ofNat (k + 1)).toModel.unpack with
    | notANumber =>
      rw [hu] at h
      cases h
    | _ => simp [UnpackedFloat.neg]

/-! ### Fields of the bit pattern -/

theorem toNat_append_add {m n : Nat} (x : BitVec m) (y : BitVec n) :
    (x ++ y).toNat = x.toNat * 2 ^ n + y.toNat := by
  rw [BitVec.toNat_append, ← Nat.shiftLeft_add_eq_or_of_lt y.isLt, Nat.shiftLeft_eq]

theorem binary64_exponentBias : Format.binary64.exponentBias = 1023 := rfl

theorem binary64_mantissaBits : Format.binary64.mantissaBits = 53 := rfl

theorem packComponents_toNat (s : UnpackedFloat.Sign) (e : BitVec 11) (m : BitVec 52) :
    (UnpackedFloat.packComponents Format.binary64 s e m).toNat =
      s.toBitVec.toNat * 2 ^ 63 + e.toNat * 2 ^ 52 + m.toNat := by
  simp only [UnpackedFloat.packComponents, toNat_append_add]
  ring

theorem unpackMantissa_toNat (b : BitVec 64) :
    (@UnpackedFloat.unpackMantissa Format.binary64 b).toNat = b.toNat % 2 ^ 52 := by
  simp [UnpackedFloat.unpackMantissa]

theorem unpackExponent_toNat (b : BitVec 64) :
    (@UnpackedFloat.unpackExponent Format.binary64 b).toNat = b.toNat / 2 ^ 52 % 2 ^ 11 := by
  simp [UnpackedFloat.unpackExponent, Nat.shiftRight_eq_div_pow]

theorem unpackSign_toNat (b : BitVec 64) :
    (UnpackedFloat.Sign.ofBitVec (@UnpackedFloat.unpackSign Format.binary64 b)).toBitVec.toNat =
      b.toNat / 2 ^ 63 := by
  have h : (@UnpackedFloat.unpackSign Format.binary64 b).toNat = b.toNat / 2 ^ 63 % 2 := by
    simp [UnpackedFloat.unpackSign, Nat.shiftRight_eq_div_pow]
  have hlt := b.isLt
  unfold UnpackedFloat.Sign.ofBitVec
  split
  · next h0 =>
    rw [h0] at h
    simp [UnpackedFloat.Sign.toBitVec] at h ⊢
    omega
  · next h0 =>
    have : (@UnpackedFloat.unpackSign Format.binary64 b).toNat ≠ 0 := fun h' =>
      h0 (BitVec.eq_of_toNat_eq h')
    simp [UnpackedFloat.Sign.toBitVec]
    omega

theorem sign_packComponents (s : UnpackedFloat.Sign) (e : BitVec 11) (m : BitVec 52) :
    UnpackedFloat.Sign.ofBitVec
      (@UnpackedFloat.unpackSign Format.binary64 (UnpackedFloat.packComponents Format.binary64 s e m)) =
      s := by
  have h := unpackSign_toNat (UnpackedFloat.packComponents Format.binary64 s e m)
  rw [packComponents_toNat] at h
  have he := e.isLt
  have hm := m.isLt
  cases s <;> cases hs : UnpackedFloat.Sign.ofBitVec (@UnpackedFloat.unpackSign Format.binary64
    (UnpackedFloat.packComponents Format.binary64 _ e m)) <;> rw [hs] at h <;>
    simp [UnpackedFloat.Sign.toBitVec] at h <;> omega

/-! ### Packing and unpacking -/

/-- Packing what a bit pattern unpacks to gives the pattern back; a NaN pattern is the canonical
one, which is all the model's patterns allow. -/
theorem pack_unpack_bits (b : BitVec 64) (hb : Format.binary64.Valid b) :
    UnpackedFloat.pack Format.binary64 (UnpackedFloat.unpack Format.binary64 b) = b := by
  have hlt := b.isLt
  have hm := unpackMantissa_toNat b
  have he := unpackExponent_toNat b
  have hs := unpackSign_toNat b
  apply BitVec.eq_of_toNat_eq
  unfold UnpackedFloat.unpack
  dsimp only
  split
  · next hE =>
    have hE' : b.toNat / 2 ^ 52 % 2 ^ 11 = 2047 := by rw [← he, hE]; rfl
    split
    · -- an infinity
      next hM =>
      have hM' : b.toNat % 2 ^ 52 = 0 := by rw [← hm, hM]; rfl
      simp only [UnpackedFloat.pack, UnpackedFloat.packedInfinity, packComponents_toNat, hs]
      simp
      omega
    · next hM => rw [hb.eq_packedNaN hE hM]; rfl
  · next hE =>
    have hE' : b.toNat / 2 ^ 52 % 2 ^ 11 ≠ 2047 := fun h =>
      hE (BitVec.eq_of_toNat_eq (by rw [he, h]; rfl))
    split
    · next hZ =>
      have hZ' : b.toNat / 2 ^ 52 % 2 ^ 11 = 0 := by rw [← he, hZ]; rfl
      split
      · -- a zero
        next hM =>
        have hM' : b.toNat % 2 ^ 52 = 0 := by rw [← hm, hM]; rfl
        simp only [UnpackedFloat.pack, UnpackedFloat.packedZero, packComponents_toNat, hs]
        simp
        omega
      · -- a subnormal number
        next hM =>
        have hM' : b.toNat % 2 ^ 52 ≠ 0 := fun h =>
          hM (BitVec.eq_of_toNat_eq (by rw [hm, h]; rfl))
        have hlog : (b.toNat % 2 ^ 52).log2 < 52 :=
          (Nat.log2_lt hM').mpr (Nat.mod_lt _ (by decide))
        simp only [UnpackedFloat.pack, hm, he, hZ', binary64_exponentBias, binary64_mantissaBits]
        rw [if_neg (by omega), if_neg (by omega), packComponents_toNat, hs]
        simp
        omega
    · -- a normal number: the implicit bit is set, and packing clears it again
      next hZ =>
      have hZ' : b.toNat / 2 ^ 52 % 2 ^ 11 ≠ 0 := fun h =>
        hZ (BitVec.eq_of_toNat_eq (by rw [he, h]; rfl))
      have hone : (1#1 ++ @UnpackedFloat.unpackMantissa Format.binary64 b).toNat =
          2 ^ 52 + b.toNat % 2 ^ 52 := by
        rw [toNat_append_add, hm]
        rfl
      have hlog : (2 ^ 52 + b.toNat % 2 ^ 52).log2 = 52 := by
        rw [Nat.log2_eq_iff (by positivity)]
        constructor <;> omega
      simp only [UnpackedFloat.pack, hone, he, hlog, binary64_exponentBias, binary64_mantissaBits]
      rw [if_neg (by omega), if_pos trivial, packComponents_toNat, hs]
      simp
      omega

theorem Model.pack_unpack (x : Float.Model) : Float.Model.pack x.unpack = x := by
  obtain ⟨bits, hv⟩ := x
  simp only [Float.Model.pack, Float.Model.unpack, pack_unpack_bits _ hv]

theorem ofModel_pack_unpack (x : Float) : Float.ofModel (Float.Model.pack x.toModel.unpack) = x := by
  rw [Model.pack_unpack]

/-- The mantissa and exponent of a finite double as `unpack` gives them: below `2^53`, at least
`2^52` above the lowest exponent, and the exponent between `-1074` and `971`. -/
structure Canonical (m : Nat) (e : Int) : Prop where
  pos : 0 < m
  lt : m < 2 ^ 53
  low : -1074 ≤ e
  high : e ≤ 971
  normal : e = -1074 ∨ 2 ^ 52 ≤ m

theorem unpack_pack_finite (s : UnpackedFloat.Sign) {m : Nat} {e : Int} (hm : 0 < m)
    (h : Canonical m e) :
    UnpackedFloat.unpack Format.binary64 (UnpackedFloat.pack Format.binary64 (.finite s m e hm)) =
      .finite s m e hm := by
  have hlog : m.log2 < 53 := (Nat.log2_lt hm.ne').mpr h.lt
  have hlog52 : 2 ^ 52 ≤ m ↔ 52 ≤ m.log2 := (Nat.le_log2 hm.ne').symm
  have hlow := h.low
  have hhigh := h.high
  have hmlt := h.lt
  unfold UnpackedFloat.pack
  dsimp only
  split
  · next hinf =>
    simp only [binary64_exponentBias] at hinf
    omega
  · split
    · -- a normal number: the biased exponent is between 1 and 2046
      next hn =>
      simp only [binary64_mantissaBits] at hn
      have hbig : 2 ^ 52 ≤ m := hlog52.mpr (by omega)
      have hb : (BitVec.ofNat 11 (e + ↑Format.binary64.exponentBias +
          ↑Format.binary64.mantissaBitsWithoutImplicit).toNat).toNat = (e + 1075).toNat := by
        simp only [binary64_exponentBias, BitVec.toNat_ofNat]
        omega
      unfold UnpackedFloat.unpack
      simp only [UnpackedFloat.unpackExponent_packComponents,
        UnpackedFloat.unpackMantissa_packComponents, sign_packComponents]
      rw [if_neg (fun h => by have := congrArg BitVec.toNat h; rw [hb] at this; simp at this; omega),
        if_neg (fun h => by have := congrArg BitVec.toNat h; rw [hb] at this; simp at this; omega)]
      congr 1
      · rw [toNat_append_add, BitVec.toNat_ofNat]
        simp
        omega
      · rw [hb, binary64_exponentBias]
        simp
        omega
    · -- a subnormal number, at the lowest exponent
      next hn =>
      simp only [binary64_mantissaBits] at hn
      have hsmall : m < 2 ^ 52 := by
        rcases Nat.lt_or_ge m (2 ^ 52) with h' | h'
        · exact h'
        · exact absurd (hlog52.mp h') (by omega)
      have he : e = -1074 := h.normal.resolve_right (by omega)
      unfold UnpackedFloat.unpack
      simp only [UnpackedFloat.unpackExponent_packComponents,
        UnpackedFloat.unpackMantissa_packComponents, sign_packComponents]
      rw [if_neg (by decide), if_pos trivial, dif_neg (fun h => by
        have := congrArg BitVec.toNat h; simp at this; omega)]
      congr 1
      · simp
        omega
      · rw [he, binary64_exponentBias]
        rfl

/-! ### The magnitude read from the bits -/

open Decimal

theorem exponentField_toNat (x : Float) :
    ((x.toBits >>> 52) &&& 0x7FF).toNat = x.toModel.toBits.toNat / 2 ^ 52 % 2 ^ 11 := by
  simp only [Float.toBits, UInt64.toNat_and, UInt64.toNat_shiftRight]
  rw [show (0x7FF : UInt64).toNat = 2 ^ 11 - 1 from rfl, Nat.and_two_pow_sub_one_eq_mod,
    Nat.shiftRight_eq_div_pow]
  rfl

theorem fractionField_toNat (x : Float) :
    (x.toBits &&& 0xFFFFFFFFFFFFF).toNat = x.toModel.toBits.toNat % 2 ^ 52 := by
  simp only [Float.toBits, UInt64.toNat_and]
  rw [show (0xFFFFFFFFFFFFF : UInt64).toNat = 2 ^ 52 - 1 from rfl, Nat.and_two_pow_sub_one_eq_mod]

def signOf (x : Float) : UnpackedFloat.Sign := if signBit x then .negative else .positive

theorem signOf_eq (x : Float) :
    UnpackedFloat.Sign.ofBitVec (@UnpackedFloat.unpackSign Format.binary64
      x.toModel.toBits.toBitVec) = signOf x := by
  have h := unpackSign_toNat x.toModel.toBits.toBitVec
  have hlt := x.toModel.toBits.toBitVec.isLt
  have hbit : signBit x = decide (x.toModel.toBits.toBitVec.toNat / 2 ^ 63 = 1) := by
    simp only [signBit, Float.toBits]
    rw [Bool.eq_iff_iff, decide_eq_true_iff, beq_iff_eq]
    constructor
    · intro h1
      have := congrArg UInt64.toNat h1
      simp only [UInt64.toNat_shiftRight, UInt64.toNat_toBitVec] at this ⊢
      rw [Nat.shiftRight_eq_div_pow] at this
      simpa using this
    · intro h1
      apply UInt64.toNat_inj.mp
      simp only [UInt64.toNat_shiftRight]
      rw [Nat.shiftRight_eq_div_pow]
      simpa using h1
  unfold signOf
  rw [hbit]
  cases hs : UnpackedFloat.Sign.ofBitVec (@UnpackedFloat.unpackSign Format.binary64
    x.toModel.toBits.toBitVec) <;> rw [hs] at h <;> simp [UnpackedFloat.Sign.toBitVec] at h <;>
    simp <;> omega

theorem ofFloat?_fields (x : Float) (b : Binary) (h : Binary.ofFloat? x = some b) :
    x.toModel.toBits.toNat / 2 ^ 52 % 2 ^ 11 ≠ 2047 ∧
      (x.toModel.toBits.toNat / 2 ^ 52 % 2 ^ 11 = 0 →
        b = ⟨x.toModel.toBits.toNat % 2 ^ 52, -1074, false⟩) ∧
      (x.toModel.toBits.toNat / 2 ^ 52 % 2 ^ 11 ≠ 0 →
        b = ⟨x.toModel.toBits.toNat % 2 ^ 52 + 2 ^ 52,
          ((x.toModel.toBits.toNat / 2 ^ 52 % 2 ^ 11 : Nat) : Int) - 1075,
          decide (x.toModel.toBits.toNat % 2 ^ 52 = 0 ∧
            1 < x.toModel.toBits.toNat / 2 ^ 52 % 2 ^ 11)⟩) := by
  unfold Binary.ofFloat? at h
  simp only [exponentField_toNat, fractionField_toNat] at h
  generalize x.toModel.toBits.toNat = n at h ⊢
  split at h
  · cases h
  · next h7 =>
    refine ⟨by simpa using h7, fun h0 => ?_, fun h0 => ?_⟩
    · rw [if_pos (by simpa using h0)] at h
      exact (Option.some.inj h).symm
    · rw [if_neg (by simpa using h0)] at h
      cases h
      simp only [Nat.pow_eq, Binary.mk.injEq, true_and]
      rw [Bool.eq_iff_iff]
      simp

theorem unpack_eq (x : Float) : x.toModel.unpack =
    UnpackedFloat.unpack Format.binary64 x.toModel.toBits.toBitVec := rfl

/-- A finite nonzero double unpacks to its sign and the magnitude `Binary.ofFloat?` reads, which
is in canonical form. -/
theorem unpack_of_binary (x : Float) (b : Binary) (h : Binary.ofFloat? x = some b)
    (hm : 0 < b.mantissa) :
    x.toModel.unpack = .finite (signOf x) b.mantissa b.exponent hm ∧
      Canonical b.mantissa b.exponent := by
  obtain ⟨h7, hsub, hnorm⟩ := ofFloat?_fields x b h
  have he := unpackExponent_toNat x.toModel.toBits.toBitVec
  have hmt := unpackMantissa_toNat x.toModel.toBits.toBitVec
  have hlt := x.toModel.toBits.toBitVec.isLt
  simp only [UInt64.toNat_toBitVec] at he hmt hlt
  rw [unpack_eq]
  unfold UnpackedFloat.unpack
  dsimp only
  rw [signOf_eq, if_neg (fun h => h7 (by rw [← he, h]; rfl))]
  split
  · next h0 =>
    have h0' : x.toModel.toBits.toNat / 2 ^ 52 % 2 ^ 11 = 0 := by rw [← he, h0]; rfl
    obtain rfl := hsub h0'
    rw [dif_neg (fun h => by simp only at hm; rw [← hmt, h] at hm; exact absurd hm (by decide))]
    refine ⟨?_, ⟨hm, by simp only; omega, by simp, by simp, .inl rfl⟩⟩
    congr 1
    rw [he, h0', binary64_exponentBias]
    rfl
  · next h0 =>
    have h0' : x.toModel.toBits.toNat / 2 ^ 52 % 2 ^ 11 ≠ 0 := fun h =>
      h0 (BitVec.eq_of_toNat_eq (by rw [he, h]; rfl))
    obtain rfl := hnorm h0'
    refine ⟨?_, ⟨hm, by simp only; omega, by simp only; omega, by simp only; omega,
      .inr (by simp only; omega)⟩⟩
    congr 1
    · rw [toNat_append_add, hmt]
      simp only [BitVec.toNat_ofNat]
      omega
    · rw [he, binary64_exponentBias]
      simp

theorem unpack_of_binary_zero (x : Float) (b : Binary) (h : Binary.ofFloat? x = some b)
    (hm : b.mantissa = 0) : x.toModel.unpack = .zero (signOf x) := by
  obtain ⟨h7, hsub, hnorm⟩ := ofFloat?_fields x b h
  have he := unpackExponent_toNat x.toModel.toBits.toBitVec
  have hmt := unpackMantissa_toNat x.toModel.toBits.toBitVec
  simp only [UInt64.toNat_toBitVec] at he hmt
  -- a zero magnitude only comes from a zero exponent field and a zero fraction
  have h0' : x.toModel.toBits.toNat / 2 ^ 52 % 2 ^ 11 = 0 := by
    by_contra h0
    rw [hnorm h0] at hm
    simp at hm
  rw [hsub h0'] at hm
  rw [unpack_eq]
  unfold UnpackedFloat.unpack
  dsimp only
  rw [signOf_eq, if_neg (fun h => h7 (by rw [← he, h]; rfl)),
    if_pos (BitVec.eq_of_toNat_eq (by rw [he, h0']; rfl)),
    dif_pos (BitVec.eq_of_toNat_eq (by rw [hmt]; exact hm))]

/-- The neighbour below is half as far as the one above exactly at the bottom of a binade above
the lowest. -/
theorem lowerCloser_iff (x : Float) (b : Binary) (h : Binary.ofFloat? x = some b) :
    b.lowerCloser = true ↔ b.mantissa = 2 ^ 52 ∧ -1074 < b.exponent := by
  obtain ⟨h7, hsub, hnorm⟩ := ofFloat?_fields x b h
  by_cases h0 : x.toModel.toBits.toNat / 2 ^ 52 % 2 ^ 11 = 0
  · rw [hsub h0]
    simp
  · rw [hnorm h0]
    simp only [decide_eq_true_eq]
    omega

end Tabula
