import Tabula.Proofs.ShortestDigits

/-!
The texts of doubles read back. The configuration prints a double as `NaN`, `Infinity` or
`-Infinity`, or as its shortest digits after its sign; the reader takes the words to the quiet NaN
and to the infinities, and the digits to the double nearest to them, which the shortest digits
were chosen to make the printed double again.
-/

namespace Tabula

open Float.Model Json Decimal

theorem eq_ofModel_pack {x : Float} {u : UnpackedFloat} (h : x.toModel.unpack = u) :
    x = Float.ofModel (Float.Model.pack u) := by
  rw [← h, ofModel_pack_unpack]

theorem eq_nan_of_isNaN {x : Float} (h : x.isNaN = true) : x = 0.0 / 0.0 := by
  rw [eq_ofModel_pack (unpacked_of_isNaN h)]
  decide +kernel

theorem isInf_cases {x : Float} (h : x.isInf = true) :
    ∃ s, x.toModel.unpack = .infinity s := by
  unfold Float.isInf Float.Model.isInf at h
  cases hu : x.toModel.unpack with
  | infinity s => exact ⟨s, rfl⟩
  | notANumber | zero _ | finite _ _ _ _ =>
    rw [hu] at h
    cases h

theorem readsAt_floatText_infinity (depth : Nat) (s : UnpackedFloat.Sign) :
    ReadsAt depth (Text.ofString (floatText (Float.ofModel (Float.Model.pack (.infinity s))))).points
      (· = .float (Float.ofModel (Float.Model.pack (.infinity s)))) := by
  cases s
  · have htext : (Text.ofString (floatText (Float.ofModel (Float.Model.pack (.infinity .negative))))).points =
        [0x2D, 0x49, 0x6E, 0x66, 0x69, 0x6E, 0x69, 0x74, 0x79] := by decide +kernel
    have hval : Float.ofModel (Float.Model.pack (.infinity .negative)) = -Decimal.tenPow 400 := by
      decide +kernel
    rw [htext, hval]
    exact readsAt_word depth _ _ (List.cons_ne_nil _ _) (by decide)
      fun _ _ pos => ⟨pos + 9, by simp [readValue, startsWith_eq]⟩
  · have htext : (Text.ofString (floatText (Float.ofModel (Float.Model.pack (.infinity .positive))))).points =
        [0x49, 0x6E, 0x66, 0x69, 0x6E, 0x69, 0x74, 0x79] := by decide +kernel
    have hval : Float.ofModel (Float.Model.pack (.infinity .positive)) = Decimal.tenPow 400 := by
      decide +kernel
    rw [htext, hval]
    exact readsAt_word depth _ _ (List.cons_ne_nil _ _) (by decide)
      fun _ _ pos => ⟨pos + 8, by simp [readValue, startsWith_eq]⟩

theorem readsAt_floatText_nan (depth : Nat) :
    ReadsAt depth (Text.ofString (floatText (0.0 / 0.0))).points (· = .float (0.0 / 0.0)) := by
  have htext : (Text.ofString (floatText (0.0 / 0.0))).points = [0x4E, 0x61, 0x4E] := by
    decide +kernel
  rw [htext]
  exact readsAt_word depth _ _ (List.cons_ne_nil _ _) (by decide)
    fun _ _ pos => ⟨pos + 3, by simp [readValue, startsWith_eq]⟩

theorem readsAt_signedZero (depth : Nat) {x : Float} {b : Binary} (hb : Binary.ofFloat? x = some b)
    (hm : b.mantissa = 0) :
    ReadsAt depth (Text.ofString ((if signBit x then "-" else "") ++ "0.0")).points
      (· = .float x) := by
  have hx := eq_ofModel_pack (unpack_of_binary_zero x b hb hm)
  have hp : (⟨signBit x, ['0'], ['0'], none⟩ : NumberParts).Valid :=
    ⟨by simp, by simp, fun _ => rfl, by simp, by simp, by simp⟩
  have hpt : (Text.ofString ((if signBit x then "-" else "") ++ "0.0")).points =
      (⟨signBit x, ['0'], ['0'], none⟩ : NumberParts).text.map Char.toNat := by
    cases signBit x <;> rfl
  rw [hpt]
  refine (readsAt_number depth _ hp (fun _ _ => by simp [maxDigits])).mono fun v hv => ?_
  rw [hv.2.2 (.inl (by simp)), hx, signOf]
  cases signBit x
  · exact congrArg Value.float (by decide +kernel)
  · exact congrArg Value.float (by decide +kernel)

/-- A nonzero finite double is written as its shortest digits after its sign and read back as
the double nearest to them, which is the double itself up to its sign. -/
theorem readsAt_signedShortest (depth : Nat) {x : Float} {b : Binary}
    (hb : Binary.ofFloat? x = some b) (hpos : 0 < b.mantissa) :
    ReadsAt depth (Text.ofString ((if signBit x then "-" else "") ++
      String.ofList (b.shortest.render Notation.shortest))).points (· = .float x) := by
  have hfin := Binary.finite_of_ofFloat? hb hpos
  have hx := eq_toFloat_of_binary hb hpos
  obtain ⟨hr, hd0⟩ := Binary.shortest_readsBack hfin
  obtain ⟨p, hneg, hp, hrender, hd, hval, hpz⟩ :=
    Scientific.render_parts Notation.shortest b.shortest (fun h0 => absurd h0 hd0) (by decide)
  have hpt : (Text.ofString ((if signBit x then "-" else "") ++
      String.ofList (b.shortest.render Notation.shortest))).points =
      ({ p with neg := signBit x } : NumberParts).text.map Char.toNat := by
    rw [NumberParts.text_withSign p hneg, hrender, Text.ofString_points, String.toList_append,
      Float.sign_toList, String.toList_ofList]
  have hn : Decimal.nearest p.mantissa p.exponent = hfin.toFloat .positive :=
    nearest_readsBack hfin _ _ (by rw [hval]; exact hr)
  rw [hpt]
  refine (readsAt_number depth _ (hp.withSign (signBit x)) hd).mono fun v hv => ?_
  rw [hv.2.2 (hpz rfl)]
  show Value.float (if signBit x then -Decimal.nearest p.mantissa p.exponent
    else Decimal.nearest p.mantissa p.exponent) = Value.float x
  rw [hn]
  conv_rhs => rw [hx, signOf]
  cases signBit x
  · rfl
  · rw [neg_toFloat]
    rfl

/-- A finite double's text is its shortest digits after its sign, or `0.0` after its sign, and is
read back as the double. -/
theorem readsAt_floatText_finite (depth : Nat) {x : Float} (h : (x.isNaN || x.isInf) = false) :
    ReadsAt depth (Text.ofString (floatText x)).points (· = .float x) := by
  have hnan : x.isNaN = false := (Bool.or_eq_false_iff.mp h).1
  have hinf : x.isInf = false := (Bool.or_eq_false_iff.mp h).2
  obtain ⟨b, hb⟩ := Binary.ofFloat?_finite x h
  have htext : floatText x = x.shortestText := by
    rw [floatText, if_neg (by rw [hnan]; decide), if_neg (by rw [hinf]; decide)]
  rw [htext, Float.shortestText, if_neg (by rw [hnan]; decide), hb]
  dsimp only
  by_cases hm : b.mantissa = 0
  · rw [if_pos (by simp [hm])]
    exact readsAt_signedZero depth hb hm
  · rw [if_neg (by simpa using hm)]
    exact readsAt_signedShortest depth hb (Nat.pos_of_ne_zero hm)

/-- The text of every double, as the configuration prints it, is read back as the double: NaN and
the infinities as their words, a finite double as its shortest digits with its sign. -/
theorem readsAt_floatText (depth : Nat) (x : Float) :
    ReadsAt depth (Text.ofString (floatText x)).points (· = .float x) := by
  cases hnan : x.isNaN
  · cases hinf : x.isInf
    · exact readsAt_floatText_finite depth (by rw [hnan, hinf]; rfl)
    · obtain ⟨s, hs⟩ := isInf_cases hinf
      rw [eq_ofModel_pack hs]
      exact readsAt_floatText_infinity depth s
  · rw [eq_nan_of_isNaN hnan]
    exact readsAt_floatText_nan depth

end Tabula
