import Tabula.Proofs.RecordNumbers
import Tabula.Proofs.TextRules

/-!
Comparison rules whose value is the text of one of the column's own cells, as an export writes it.
On a mixed column of texts the cells are ordered by code points and a missing cell satisfies only
`ne`; on booleans, unsigned integers and a mixed column of booleans the text stays a text, which
equals no cell and has no order with them; on 64-bit integers and doubles the text reads back as a
double (`readNumber_intText`, `readNumber_shortestText`), with which every cell, rounded to a
double, is compared.
-/

namespace Tabula.Json

def NumberParts.expChars : Option (Bool × List Char) → List Char
  | none => []
  | some (eneg, ds) => 'e' :: (if eneg then '-' else '+') :: ds

/-- The text of number parts: the sign, the integer digits, the fraction with its point and the
exponent. -/
theorem NumberParts.text_eq_append (p : NumberParts) :
    p.text = (if p.neg then ['-'] else []) ++
      (p.whole ++ ((if p.frac = [] then [] else '.' :: p.frac) ++ expChars p.exp)) := by
  obtain ⟨neg, whole, frac, exp⟩ := p
  cases exp <;> simp [NumberParts.text, expChars]

/-- The parts a reader of numbers written by a person takes: digits throughout, at least one before
the point and at least one in an exponent. Unlike JSON, leading zeros are allowed. -/
structure NumberParts.Readable (p : NumberParts) : Prop where
  whole_ne : p.whole ≠ []
  whole_digits : ∀ c ∈ p.whole, c.isDigit
  frac_digits : ∀ c ∈ p.frac, c.isDigit
  exp_ne : ∀ e ∈ p.exp, e.2 ≠ []
  exp_digits : ∀ e ∈ p.exp, ∀ c ∈ e.2, c.isDigit

theorem NumberParts.Valid.readable {p : NumberParts} (hp : p.Valid) : p.Readable :=
  ⟨hp.whole_ne, hp.whole_digits, hp.frac_digits, hp.exp_ne, hp.exp_digits⟩

theorem NumberParts.Readable.withSign {p : NumberParts} (hp : p.Readable) (s : Bool) :
    ({ p with neg := s } : NumberParts).Readable :=
  ⟨hp.whole_ne, hp.whole_digits, hp.frac_digits, hp.exp_ne, hp.exp_digits⟩

theorem NumberParts.Readable.text_chars {p : NumberParts} (hp : p.Readable) :
    ∀ c ∈ p.text, c.isDigit ∨ c ∈ ['-', '.', 'e', '+'] := by
  intro c hc
  rw [NumberParts.text_eq_append] at hc
  simp only [List.mem_append] at hc
  rcases hc with hs | hw | hfr | he
  · split at hs <;> simp_all
  · exact .inl (hp.whole_digits c hw)
  · split at hfr
    · simp at hfr
    · rcases List.mem_cons.1 hfr with rfl | h
      · simp
      · exact .inl (hp.frac_digits c h)
  · have hed := hp.exp_digits
    generalize p.exp = e at he hed
    rcases e with _ | ⟨eneg, ds⟩
    · simp [expChars] at he
    · simp only [expChars, List.mem_cons] at he
      rcases he with rfl | rfl | h
      · simp
      · split <;> simp
      · exact .inl (hed _ rfl c h)

end Tabula.Json

namespace Tabula.Decimal

open Json

/-! ## Digits and runs of digits -/

theorem isDigit_of_isDigit {c : Char} (h : c.isDigit = true) : isDigit c = true := by
  simp only [Char.isDigit, Bool.and_eq_true, decide_eq_true_eq] at h
  simp only [isDigit, Bool.and_eq_true, decide_eq_true_eq, Char.le_def]
  exact h

theorem toLower_digit {d : Char} (h : isDigit d = true) : d.toLower = d := by
  simp only [isDigit, Bool.and_eq_true, decide_eq_true_eq, Char.le_def] at h
  simp only [Char.toLower]
  rw [dif_neg]
  rintro ⟨h1, -⟩
  exact absurd (UInt32.le_trans h1 h.2) (by decide)

theorem isAsciiBlank_eq_false {c : Char} (h : 33 ≤ c.toNat) : isAsciiBlank c = false := by
  have hsp : c ≠ ' ' := fun hc => by rw [hc] at h; exact absurd h (by decide)
  have hcr : ¬ c ≤ '\r' := fun hc => by
    rw [Char.le_def, UInt32.le_iff_toNat_le, Char.toNat_val] at hc
    exact absurd (Nat.le_trans h hc) (by decide)
  simp [isAsciiBlank, hsp, hcr]

theorem plain_of_numberChar {c : Char} (h : c.isDigit ∨ c ∈ ['-', '.', 'e', '+']) :
    c.toNat < 127 ∧ isAsciiBlank c = false := by
  rcases h with h | h
  · obtain ⟨h1, h2⟩ := Char.isDigit_iff_toNat.1 h
    have h1' : 48 ≤ c.toNat := h1
    have h2' : c.toNat ≤ 57 := h2
    exact ⟨by omega, isAsciiBlank_eq_false (by omega)⟩
  · simp only [List.mem_cons, List.not_mem_nil, or_false] at h
    rcases h with rfl | rfl | rfl | rfl <;> decide

theorem digitRun_cons_digit {c : Char} {l : List Char} (hc : isDigit c = true)
    (hl : ∀ d ∈ l.head?, d ≠ '_') :
    digitRun (c :: l) = (c :: (digitRun l).1, (digitRun l).2) := by
  rcases l with _ | ⟨d, tl⟩
  · simp [digitRun, hc]
  · rw [digitRun.eq_4 c d tl (fun _ _ hd _ => hl d rfl hd), if_pos hc]

theorem digitRun_cons_other {c : Char} {l : List Char} (hc : isDigit c = false) :
    digitRun (c :: l) = ([], c :: l) := by
  rcases l with _ | ⟨d, _ | ⟨e, tl⟩⟩
  · simp [digitRun, hc]
  · rw [digitRun.eq_4 c d [] (fun _ _ _ h => List.cons_ne_nil _ _ h.symm), if_neg (by simp [hc])]
  · by_cases hd : d = '_'
    · subst hd
      simp [digitRun.eq_3, hc]
    · rw [digitRun.eq_4 c d (e :: tl) (fun _ _ h _ => hd h), if_neg (by simp [hc])]

theorem digitRun_append {ds rest : List Char} (hd : ∀ c ∈ ds, isDigit c = true)
    (hr : ∀ c ∈ rest.head?, isDigit c = false ∧ c ≠ '_') :
    digitRun (ds ++ rest) = (ds, rest) := by
  induction ds with
  | nil =>
    rcases rest with _ | ⟨c, rest⟩
    · simp [digitRun]
    · exact digitRun_cons_other (hr c rfl).1
  | cons c ds ih =>
    -- the next character is a digit of the run or the first of the rest, never an underscore
    have hnext : ∀ d ∈ (ds ++ rest).head?, d ≠ '_' := by
      intro d hd'
      rcases ds with _ | ⟨e, ds⟩
      · exact (hr d hd').2
      · simp only [List.cons_append, List.head?_cons, Option.mem_def, Option.some.injEq] at hd'
        subst hd'
        intro h
        have he := hd e (by simp)
        rw [h] at he
        exact absurd he (by decide)
    rw [List.cons_append, digitRun_cons_digit (hd c (by simp)) hnext,
      ih fun d h => hd d (List.mem_cons_of_mem c h)]

theorem digitRun_all {ds : List Char} (hd : ∀ c ∈ ds, isDigit c = true) :
    digitRun ds = (ds, []) := by
  simpa using @digitRun_append ds [] hd (by simp)

theorem natOfDigits_toDigits (k : Nat) : natOfDigits (Nat.toDigits 10 k) = k := by
  rw [show natOfDigits (Nat.toDigits 10 k) = Nat.ofDigitChars 10 (Nat.toDigits 10 k) 0 from
    digitValue_map _ 0, Nat.ofDigitChars_ten_toDigits]

/-! ## Written numbers read back -/

def expValue : Option (Bool × List Char) → Int
  | none => 0
  | some (eneg, ds) => if eneg then -(natOfDigits ds : Int) else natOfDigits ds

theorem expChars_head (e : Option (Bool × List Char)) :
    ∀ c ∈ (NumberParts.expChars e).head?, isDigit c = false ∧ c ≠ '_' := by
  cases e <;> simp [NumberParts.expChars, isDigit]

/-- A number written as its parts, without a sign, is read as the double nearest to its digits
scaled by its exponent. -/
theorem readUnsigned_text {p : NumberParts} (hp : p.Readable) (hn : p.neg = false) :
    readUnsigned? p.text =
      some (nearest (natOfDigits (p.whole ++ p.frac)) (expValue p.exp - p.frac.length)) := by
  have htext := p.text_eq_append
  rw [hn, if_neg Bool.false_ne_true, List.nil_append] at htext
  obtain ⟨d, ws, hws⟩ := List.exists_cons_of_ne_nil hp.whole_ne
  have hd : isDigit d = true := isDigit_of_isDigit (hp.whole_digits d (by simp [hws]))
  -- the text starts with a digit, so it names no infinity and no NaN
  have hword : ∀ w : List Char, w.head? ≠ some d → (lowerAscii p.text == w) = false := by
    intro w hw'
    rw [htext, hws]
    simp only [beq_eq_false_iff_ne]
    intro h
    rw [← h] at hw'
    simp [lowerAscii, toLower_digit hd] at hw'
  have hnot : d ≠ 'i' ∧ d ≠ 'n' := by
    constructor <;> (intro h; rw [h] at hd; exact absurd hd (by decide))
  have hrest : ∀ c ∈ ((if p.frac = [] then [] else '.' :: p.frac) ++
      NumberParts.expChars p.exp).head?, isDigit c = false ∧ c ≠ '_' := by
    split
    · exact expChars_head _
    · simp [isDigit]
  have hfrac : p.frac ≠ [] → digitRun (p.frac ++ NumberParts.expChars p.exp) =
      (p.frac, NumberParts.expChars p.exp) :=
    fun _ => digitRun_append (fun c hc => isDigit_of_isDigit (hp.frac_digits c hc))
      (expChars_head _)
  have hexp : ∀ e ∈ p.exp, digitRun e.2 = (e.2, []) :=
    fun e he => digitRun_all fun c hc => isDigit_of_isDigit (hp.exp_digits e he c hc)
  have hen := hp.exp_ne
  unfold readUnsigned?
  dsimp only
  rw [hword _ (by simp [Ne.symm hnot.1]), hword _ (by simp [Ne.symm hnot.1]),
    hword _ (by simp [Ne.symm hnot.2])]
  simp only [Bool.or_false, Bool.false_eq_true, if_false]
  rw [htext, digitRun_append (fun c hc => isDigit_of_isDigit (hp.whole_digits c hc)) hrest]
  -- the four shapes: with or without a fraction, with or without an exponent
  obtain ⟨neg, whole, frac, exp⟩ := p
  dsimp only at *
  rcases frac with _ | ⟨f, fs⟩ <;> rcases exp with _ | ⟨_ | _, ds⟩
  all_goals simp only [NumberParts.expChars, Option.mem_def, forall_eq', reduceCtorEq, ne_eq,
    not_false_eq_true, forall_const, Option.some.injEq, List.append_nil, List.cons_append, if_true,
    if_false, Bool.false_eq_true] at hfrac hexp hen
  all_goals simp [NumberParts.expChars, expValue, hfrac, hexp, hen, hws]

theorem asciiForm_ascii {cs : List Char} (h : ∀ c ∈ cs, c.toNat < 127) :
    asciiForm (cs.map Char.toNat) = cs := by
  induction cs with
  | nil => simp only [List.map_nil, asciiForm]
  | cons c cs ih =>
    simp only [List.map_cons, asciiForm, if_pos (h c List.mem_cons_self), Char.ofNat_toNat,
      ih fun d hd => h d (List.mem_cons_of_mem c hd)]

theorem dropWhile_of_head {α : Type} {p : α → Bool} {cs : List α}
    (h : ∀ c ∈ cs.head?, p c = false) : cs.dropWhile p = cs := by
  rcases cs with _ | ⟨c, cs⟩
  · rfl
  · exact List.dropWhile_cons_of_neg (by simp [h c rfl])

theorem trim_plain {cs : List Char} (h : ∀ c ∈ cs, isAsciiBlank c = false) :
    ((cs.dropWhile isAsciiBlank).reverse.dropWhile isAsciiBlank).reverse = cs := by
  rw [dropWhile_of_head fun c hc => h c (List.mem_of_mem_head? hc),
    dropWhile_of_head fun c hc => h c (List.mem_reverse.1 (List.mem_of_mem_head? hc)),
    List.reverse_reverse]

theorem readNumber_parts {p : NumberParts} (hp : p.Readable) :
    readNumber? ⟨p.text.map Char.toNat⟩ =
      (readUnsigned? { p with neg := false }.text).map fun x => if p.neg then -x else x := by
  have hplain := fun c hc => plain_of_numberChar (hp.text_chars c hc)
  have hbare : { p with neg := false }.text =
      p.whole ++ ((if p.frac = [] then [] else '.' :: p.frac) ++ NumberParts.expChars p.exp) := by
    simp [NumberParts.text_eq_append]
  unfold readNumber?
  dsimp only
  rw [asciiForm_ascii fun c hc => (hplain c hc).1, trim_plain fun c hc => (hplain c hc).2,
    hbare, NumberParts.text_eq_append]
  obtain ⟨d, ws, hws⟩ := List.exists_cons_of_ne_nil hp.whole_ne
  have hd : isDigit d = true := isDigit_of_isDigit (hp.whole_digits d (by simp [hws]))
  cases hneg : p.neg
  · -- no sign: the text starts with a digit, neither `-` nor `+`
    rw [hws]
    simp only [Bool.false_eq_true, if_false, List.nil_append, List.cons_append]
    split
    · next h => cases h; exact absurd hd (by decide)
    · next h => cases h; exact absurd hd (by decide)
    · simp
  · simp

theorem nearest_whole {k : Nat} (hk : (Nat.toDigits 10 k).length ≤ 311) :
    nearest k 0 = Float.ofNat k := by
  have hlen : (toString k).length = (Nat.toDigits 10 k).length := by
    simp [Nat.toString_eq_repr, Nat.repr]
  unfold nearest
  by_cases h0 : k = 0
  · subst h0
    rfl
  · have h1 : ¬ (0 : Int) + ((toString k).length : Int) > 311 := by omega
    have h2 : ¬ (0 : Int) + ((toString k).length : Int) < -345 := by omega
    simp only [beq_iff_eq, h0, if_false]
    rw [if_neg h1, if_neg h2, if_pos (le_refl 0)]
    rfl

/-- The text a table writes for an integer of at most twenty digits reads as the double nearest
to it. -/
theorem readNumber_intText {n : Int} (h : n.natAbs < 10 ^ 20) :
    readNumber? (Text.ofString (Table.intText n)) = some (Float.ofInt n) := by
  have hp : (wholeParts (decide (n < 0)) n.natAbs).Readable :=
    (wholeParts_valid _ _).readable
  have hlen : (Nat.toDigits 10 n.natAbs).length ≤ 311 := by
    have := (Nat.length_toDigits_le_iff (by decide) (by decide)).mpr h
    omega
  rw [show Text.ofString (Table.intText n) =
      ⟨(wholeParts (decide (n < 0)) n.natAbs).text.map Char.toNat⟩ from
    congrArg Text.mk (intText_points n), readNumber_parts hp, readUnsigned_text (hp.withSign false)
    rfl]
  simp only [wholeParts, List.append_nil, natOfDigits_toDigits, expValue, List.length_nil,
    Nat.cast_zero, sub_zero, nearest_whole hlen, Option.map_some]
  cases n with
  | ofNat m => rfl
  | negSucc m =>
    simp only [Int.negSucc_lt_zero, decide_true, if_true, Int.natAbs_negSucc]
    rfl

/-- Every shortest form of a decimal is readable, a zero written positionally with zeros after it
included. -/
theorem render_shortest_readable (s : Scientific) :
    ∃ p : NumberParts, p.neg = false ∧ p.Readable ∧ s.render Notation.shortest = p.text := by
  by_cases hz : s.digits = 0 ∧ 1 ≤ s.exponent ∧ s.exponent ≤ Notation.shortest.highest
  · -- `0`, then zeros and `.0`: no JSON number, but readable
    obtain ⟨h0, h1, h2⟩ := hz
    have hdig : ∀ c ∈ '0' :: zeros s.exponent.toNat, c.isDigit := by
      intro c hc
      rcases List.mem_cons.1 hc with rfl | hc
      · rfl
      · exact zeros_isDigit _ c hc
    refine ⟨⟨false, '0' :: zeros s.exponent.toNat, ['0'], none⟩, rfl,
      ⟨by simp, hdig, by simp, by simp, by simp⟩, ?_⟩
    have hds : digitsOf s.digits = ['0'] := by rw [h0]; rfl
    simp only [Notation.shortest] at h2
    unfold Scientific.render
    simp only [hds, List.length_singleton, Nat.cast_one, add_sub_cancel_right]
    have hpos :
        (Notation.shortest.lowest ≤ s.exponent ∧ s.exponent ≤ Notation.shortest.highest) :=
      ⟨by simp only [Notation.shortest]; omega, by simp only [Notation.shortest]; omega⟩
    rw [if_pos (by simpa using hpos), if_neg (by omega), if_pos (by omega)]
    simp [Notation.shortest, NumberParts.text]
  · obtain ⟨p, hneg, hp, hr, -, -, -⟩ :=
      Scientific.render_parts Notation.shortest s (fun h0 h => hz ⟨h0, h⟩) (by decide)
    exact ⟨p, hneg, hp.readable, hr⟩

theorem readNumber_signed_isSome {p : NumberParts} (hp : p.Readable) (hn : p.neg = false)
    (s : Bool) :
    (readNumber? (Text.ofString ((if s then "-" else "") ++ String.ofList p.text))).isSome := by
  have htext : Text.ofString ((if s then "-" else "") ++ String.ofList p.text) =
      ⟨({ p with neg := s } : NumberParts).text.map Char.toNat⟩ := by
    rw [NumberParts.text_withSign p hn s]
    simp only [Text.ofString, String.toList_append, Float.sign_toList, String.toList_ofList]
  rw [htext, readNumber_parts (hp.withSign s), readUnsigned_text (hp.withSign false) rfl]
  rfl

theorem readNumber_shortestText {y : Float} (h : y.isNaN = false) :
    (readNumber? (Text.ofString y.shortestText)).isSome := by
  unfold Float.shortestText
  rw [h]
  simp only [Bool.false_eq_true, if_false]
  split
  · -- an infinity, with or without its minus sign
    cases signBit y <;> rfl
  · split
    · -- a zero, `0.0`, with the sign bit's sign
      have hp : (⟨false, ['0'], ['0'], none⟩ : NumberParts).Readable :=
        ⟨by simp, by simp, by simp, by simp, by simp⟩
      have hzero : "0.0" = String.ofList (⟨false, ['0'], ['0'], none⟩ : NumberParts).text := by
        decide
      rw [hzero]
      exact readNumber_signed_isSome hp rfl _
    · next b _ _ =>
      obtain ⟨p, hneg, hp, hr⟩ := render_shortest_readable b.shortest
      rw [hr]
      exact readNumber_signed_isSome hp hneg _

end Tabula.Decimal

namespace Tabula

theorem Frame.mem_of_pickBy_column {f : Frame} {key : Json.Value} {name : Text} {c : Column}
    (h : f.pickBy key = .ok (.column name c)) : (name, c) ∈ f.columns.toList := by
  cases key with
  | obj _ => cases h
  | arr xs =>
    simp only [Frame.pickBy] at h
    split at h
    · split at h <;> cases h
    · cases hp : f.positionsOf xs with
      | error e => rw [hp] at h; cases h
      | ok ps => rw [hp] at h; cases h
  | null | bool _ | int _ | float _ | str _ =>
    obtain ⟨i, -, hi⟩ := (Frame.pickBy_eq_column rfl).1 h
    exact Array.mem_toList_iff.2 (Array.mem_of_getElem? hi)

/-- The text a table writes for a cell of 64-bit integers or doubles that is not missing reads as
a double, the nearest one for an integer. -/
theorem Column.Shaped.readNumber_asField {c : Column} (hs : c.Shaped)
    (hk : c.kind = .int64 ∨ c.kind = .float64) {x : Cell} (hx : x ∈ c.cells.toList)
    (hxm : x.isMissing = false) :
    ∃ x', Decimal.readNumber? x.asField = some x' ∧
      ∀ n, x = .int n → x' = Float.ofInt n := by
  rw [Cell.asField, hxm, if_neg Bool.false_ne_true]
  rcases hk with hk | hk
  · obtain ⟨n, rfl, hlo, hhi⟩ := hs.ints hk x hx
    have hbound : n.natAbs < 10 ^ 20 := by
      simp only [Csv.int64Min, Csv.int64Max] at hlo hhi
      omega
    refine ⟨Float.ofInt n, Decimal.readNumber_intText hbound, fun m hm => ?_⟩
    cases hm
    rfl
  · obtain ⟨y, rfl⟩ := hs.floats hk x hx
    obtain ⟨x', hx'⟩ := Option.isSome_iff_exists.1 (Decimal.readNumber_shortestText hxm)
    exact ⟨x', hx', fun _ h => by cases h⟩

namespace Column.Shaped

variable {c : Column} (hs : c.Shaped)
include hs

theorem kind_of_text {s : Text} (hx : Cell.text s ∈ c.cells.toList) :
    c.kind = .object ∧ ∀ y ∈ c.cells.toList, y = .missing ∨ ∃ t, y = .text t := by
  cases hk : c.kind with
  | int64 => obtain ⟨_, h, -⟩ := hs.ints hk _ hx; cases h
  | uint64 => obtain ⟨_, h⟩ := hs.uints hk _ hx; cases h
  | float64 => obtain ⟨_, h⟩ := hs.floats hk _ hx; cases h
  | bool => obtain ⟨_, h⟩ := hs.bools hk _ hx; cases h
  | object =>
    refine ⟨rfl, (hs.mixed hk).resolve_right fun hb => ?_⟩
    rcases hb _ hx with h | ⟨_, h⟩ <;> cases h

theorem kind_of_bool {b : Bool} (hx : Cell.bool b ∈ c.cells.toList) :
    c.kind = .bool ∨
      c.kind = .object ∧ ∀ y ∈ c.cells.toList, y = .missing ∨ ∃ b, y = .bool b := by
  cases hk : c.kind with
  | int64 => obtain ⟨_, h, -⟩ := hs.ints hk _ hx; cases h
  | uint64 => obtain ⟨_, h⟩ := hs.uints hk _ hx; cases h
  | float64 => obtain ⟨_, h⟩ := hs.floats hk _ hx; cases h
  | bool => exact .inl rfl
  | object =>
    refine .inr ⟨rfl, (hs.mixed hk).resolve_left fun ht => ?_⟩
    rcases ht _ hx with h | ⟨_, h⟩ <;> cases h

theorem cell_cases {x : Cell} (hx : x ∈ c.cells.toList) (hxm : x.isMissing = false) :
    (∃ s, x = .text s) ∨ (∃ b, x = .bool b) ∨
      c.kind = .uint64 ∨ c.kind = .int64 ∨ c.kind = .float64 := by
  cases hk : c.kind with
  | int64 | uint64 | float64 => simp
  | bool =>
    obtain ⟨b, rfl⟩ := hs.bools hk x hx
    exact .inr (.inl ⟨b, rfl⟩)
  | object =>
    rcases hs.mixed hk with h | h
    · rcases h x hx with rfl | ⟨s, rfl⟩
      · cases hxm
      · exact .inl ⟨s, rfl⟩
    · rcases h x hx with rfl | ⟨b, rfl⟩
      · cases hxm
      · exact .inr (.inl ⟨b, rfl⟩)

end Column.Shaped

end Tabula

namespace Tabula.Query

open Json

/-! ## A column against a text -/

/-- A traversal whose steps each complete or fail with one fault, one of them failing, fails with
that fault. -/
theorem mapM_eq_error_of_forall {ε α β : Type} {g : α → Except ε β} {xs : List α} {e : ε}
    (hall : ∀ x ∈ xs, (∃ y, g x = .ok y) ∨ g x = .error e)
    (hex : ∃ x ∈ xs, g x = .error e) :
    xs.mapM g = .error e := by
  induction xs with
  | nil =>
    obtain ⟨x, hx, -⟩ := hex
    cases hx
  | cons x xs ih =>
    rw [List.mapM_cons]
    rcases hall x List.mem_cons_self with ⟨y, hy⟩ | hy
    · -- the head completes, so the failing step is in the tail
      have htail : ∃ z ∈ xs, g z = .error e := by
        obtain ⟨z, hz, hze⟩ := hex
        rcases List.mem_cons.1 hz with rfl | hz
        · rw [hy] at hze
          cases hze
        · exact ⟨z, hz, hze⟩
      rw [hy, ih (fun z hz => hall z (List.mem_cons_of_mem x hz)) htail]
      rfl
    · rw [hy]
      rfl

theorem unequal_of_order {op : Op} (h₁ : op ≠ .eq) (h₂ : op ≠ .ne) (e : Fault) :
    unequal op e = .error e := by
  cases op
  · exact absurd rfl h₁
  · exact absurd rfl h₂
  all_goals rfl

/-- In a mixed column of texts every cell compares with a text by code points, and a missing cell
satisfies only `ne`. -/
theorem compareColumn_text_cells {c : Column} (hk : c.kind = .object)
    (hcells : ∀ y ∈ c.cells.toList, y = .missing ∨ ∃ t, y = .text t) (op : Op) (s : Text) :
    compareColumn c op (.str s) = .ok (c.cells.toList.map fun y =>
      if y.isMissing then op == .ne
      else op.test (some (Text.compareLex y.asText.points s.points))) := by
  have hnum : c.kind.isNumeric = false := by rw [hk]; rfl
  simp only [compareColumn, hnum, Bool.false_eq_true, if_false]
  refine mapM_eq_ok_of_forall fun y hy => ?_
  rcases hcells y hy with rfl | ⟨t, rfl⟩
  · rfl
  · simp [mixedTest, isNullValue, cellNum, valueNum, Cell.isMissing, Cell.asText]

/-- A column of numbers or booleans meets a text as a whole: equal to no cell, unequal to every
cell, and without order. -/
theorem compareColumn_numeric_text {c : Column} (hk : c.kind.isNumeric = true) (op : Op)
    (s : Text) :
    compareColumn c op (.str s) =
      if op = .eq then .ok (c.cells.toList.map fun _ => false)
      else if op = .ne then .ok (c.cells.toList.map fun _ => true)
      else .error (.invalidComparison c.kind.name "str") := by
  cases op <;> simp [compareColumn, hk]

/-- A mixed column of booleans meets a text cell by cell: equal to no cell, unequal to every cell,
and an order is refused at the first boolean. -/
theorem compareColumn_bool_cells {c : Column} (hk : c.kind = .object)
    (hcells : ∀ y ∈ c.cells.toList, y = .missing ∨ ∃ b, y = .bool b)
    (hb : ∃ b, Cell.bool b ∈ c.cells.toList) (op : Op) (s : Text) :
    compareColumn c op (.str s) =
      if op = .eq then .ok (c.cells.toList.map fun _ => false)
      else if op = .ne then .ok (c.cells.toList.map fun _ => true)
      else .error (.unorderable op "bool" "str") := by
  have hnum : c.kind.isNumeric = false := by rw [hk]; rfl
  simp only [compareColumn, hnum, Bool.false_eq_true, if_false]
  -- each cell: a missing one satisfies only `ne`, a boolean is unequal to the text
  have hcell : ∀ y ∈ c.cells.toList, mixedTest op y (.str s) =
      if y.isMissing then .ok (op == .ne) else unequal op (.unorderable op "bool" "str") := by
    intro y hy
    rcases hcells y hy with rfl | ⟨b, rfl⟩
    · rfl
    · simp [mixedTest, isNullValue, cellNum, valueNum, Cell.isMissing, Cell.typeName,
        Value.typeName]
  by_cases h₁ : op = .eq
  · subst h₁
    rw [if_pos rfl]
    exact mapM_eq_ok_of_forall fun y hy => by rw [hcell y hy]; split <;> rfl
  by_cases h₂ : op = .ne
  · subst h₂
    rw [if_neg h₁, if_pos rfl]
    exact mapM_eq_ok_of_forall fun y hy => by rw [hcell y hy]; split <;> rfl
  -- an order: missing cells pass, and the first boolean stops the traversal
  rw [if_neg h₁, if_neg h₂]
  refine mapM_eq_error_of_forall (fun y hy => ?_) ?_
  · rw [hcell y hy, unequal_of_order h₁ h₂]
    split
    · exact .inl ⟨_, rfl⟩
    · exact .inr rfl
  · obtain ⟨b, hb⟩ := hb
    exact ⟨_, hb, by rw [hcell _ hb, unequal_of_order h₁ h₂]; rfl⟩

/-- A comparison rule whose column compares as unordered with the value: `eq` keeps no row, `ne`
keeps every row, and an order stops the rule. -/
theorem Rule.apply_compare_unordered {f : Frame} {key : Value} {name : Text} {c : Column}
    {op : Op} {v : Value} {e : Fault} (hpick : f.pickBy key = .ok (.column name c))
    (h : compareColumn c op (c.kind.ruleValue v) =
      if op = .eq then .ok (c.cells.toList.map fun _ => false)
      else if op = .ne then .ok (c.cells.toList.map fun _ => true)
      else .error e) :
    Rule.apply (.frame f) ⟨key, .compare op, v⟩ =
      if op = .eq then .ok (.frame (f.keepRows (c.cells.toList.map fun _ => false)))
      else if op = .ne then .ok (.frame (f.keepRows (c.cells.toList.map fun _ => true)))
      else .error (.fault e) := by
  by_cases h₁ : op = .eq
  · rw [if_pos h₁] at h ⊢
    exact Rule.apply_compare_of_ok hpick h
  by_cases h₂ : op = .ne
  · rw [if_neg h₁, if_pos h₂] at h ⊢
    exact Rule.apply_compare_of_ok hpick h
  rw [if_neg h₁, if_neg h₂] at h ⊢
  exact Rule.apply_compare_of_error hpick h

end Tabula.Query

namespace Tabula.Query

open Json

/-! ## A rule with the text of one of the column's cells -/

section CellText

variable {f : Frame} {key : Value} {name : Text} {c : Column}

/-- With the text of a text cell the rule completes and orders the cells by code points, a missing
cell satisfying only `ne`. -/
theorem Rule.apply_compare_text_cell (hs : c.Shaped) (hpick : f.pickBy key = .ok (.column name c))
    {s : Text} (hx : Cell.text s ∈ c.cells.toList) (op : Op) :
    Rule.apply (.frame f) ⟨key, .compare op, .str s⟩ =
      .ok (.frame (f.keepRows (c.cells.toList.map fun y =>
        if y.isMissing then op == .ne
        else op.test (some (Text.compareLex y.asText.points s.points))))) := by
  -- the column is a mixed column of texts, which leaves the value as it is
  obtain ⟨hk, hcells⟩ := hs.kind_of_text hx
  have hv : c.kind.ruleValue (.str s) = .str s :=
    Kind.ruleValue_of_ne (by rw [hk]; decide) (by rw [hk]; decide) _
  rw [Rule.apply_compare_of_ok hpick (by rw [hv]; exact compareColumn_text_cells hk hcells op s)]

/-- With the text of a boolean, or of an unsigned integer, the text is no number the column could
compare: `eq` keeps no row, `ne` every row, and an order stops the rule. -/
theorem Rule.apply_compare_unordered_cell (hs : c.Shaped)
    (hpick : f.pickBy key = .ok (.column name c)) {x : Cell} (hx : x ∈ c.cells.toList)
    (hcase : (∃ b, x = .bool b) ∨ c.kind = .uint64) (op : Op) :
    Rule.apply (.frame f) ⟨key, .compare op, .str x.asField⟩ =
      if op = .eq then .ok (.frame (f.keepRows (c.cells.toList.map fun _ => false)))
      else if op = .ne then .ok (.frame (f.keepRows (c.cells.toList.map fun _ => true)))
      else .error (.fault (if c.kind = .object then .unorderable op "bool" "str"
        else .invalidComparison c.kind.name "str")) := by
  -- a boolean column, unsigned integers, or a mixed column of booleans holding `x`
  have hk : c.kind = .bool ∨ c.kind = .uint64 ∨
      c.kind = .object ∧ (∀ y ∈ c.cells.toList, y = .missing ∨ ∃ b, y = .bool b) ∧
        ∃ b, Cell.bool b ∈ c.cells.toList := by
    rcases hcase with ⟨b, rfl⟩ | hk
    · rcases hs.kind_of_bool hx with hk | ⟨hk, hcells⟩
      · exact .inl hk
      · exact .inr (.inr ⟨hk, hcells, b, hx⟩)
    · exact .inr (.inl hk)
  have hv : c.kind.ruleValue (.str x.asField) = .str x.asField := by
    rcases hk with hk | hk | ⟨hk, -⟩ <;> exact Kind.ruleValue_of_ne (by rw [hk]; decide)
      (by rw [hk]; decide) _
  refine Rule.apply_compare_unordered hpick ?_
  rw [hv]
  rcases hk with hk | hk | ⟨hk, hcells, hb⟩
  · rw [compareColumn_numeric_text (by rw [hk]; rfl),
      if_neg (show c.kind ≠ .object by rw [hk]; decide)]
  · rw [compareColumn_numeric_text (by rw [hk]; rfl),
      if_neg (show c.kind ≠ .object by rw [hk]; decide)]
  · rw [compareColumn_bool_cells hk hcells hb, if_pos hk]

/-- On 64-bit integers and doubles the text of a cell is read as a double, the nearest one for an
integer, and the rule completes with every cell compared with it as a number. -/
theorem Rule.apply_compare_number_cell (hs : c.Shaped)
    (hpick : f.pickBy key = .ok (.column name c)) (hk : c.kind = .int64 ∨ c.kind = .float64)
    {x : Cell} (hx : x ∈ c.cells.toList) (hxm : x.isMissing = false) (op : Op) :
    ∃ x', Decimal.readNumber? x.asField = some x' ∧
      (∀ n, x = .int n → x' = Float.ofInt n) ∧
      Rule.apply (.frame f) ⟨key, .compare op, .str x.asField⟩ =
        .ok (.frame (f.keepRows (c.cells.toList.map fun y =>
          verdictOf (numericTest c.kind op y (.float x'))))) := by
  obtain ⟨x', hread, hint⟩ := hs.readNumber_asField hk hx hxm
  have hnum : c.kind.isNumeric = true := by rcases hk with hk | hk <;> rw [hk] <;> rfl
  refine ⟨x', hread, hint, Rule.apply_compare_of_ok hpick ?_⟩
  rw [Kind.ruleValue_of_number hk (show numberOf? (.str x.asField) = some x' from hread)]
  exact compareColumn_float hnum op x'

end CellText

/-- A comparison rule whose value is the text a table writes for a cell `x` of the column its key
picks, on a frame read from text. Every such cell is a text, a boolean, or a number in a column of
numbers. On a text the rule completes and orders the cells by code points, a missing cell
satisfying only `ne`. On a boolean or an unsigned integer the text stays a text: `eq` keeps no row,
`ne` every row, and an order stops the rule. On 64-bit integers and doubles the text is read as a
double `x'`, the nearest double for an integer, and the rule completes with every cell compared
with `x'` as a number. -/
theorem compare_rule_with_cell_text {bytes : List UInt8} {f : Frame}
    (hload : Csv.readTable bytes = .ok f) {key : Value} {name : Text} {c : Column}
    (hpick : f.pickBy key = .ok (.column name c)) {x : Cell} (hx : x ∈ c.cells.toList)
    (hxm : x.isMissing = false) (op : Op) :
    ((∃ s, x = .text s) ∨ (∃ b, x = .bool b) ∨
        c.kind = .uint64 ∨ c.kind = .int64 ∨ c.kind = .float64) ∧
      ((∃ s, x = .text s) →
        Rule.apply (.frame f) ⟨key, .compare op, .str x.asField⟩ =
          .ok (.frame (f.keepRows (c.cells.toList.map fun y =>
            if y.isMissing then op == .ne
            else op.test (some (Text.compareLex y.asText.points x.asField.points)))))) ∧
      ((∃ b, x = .bool b) ∨ c.kind = .uint64 →
        Rule.apply (.frame f) ⟨key, .compare op, .str x.asField⟩ =
          if op = .eq then .ok (.frame (f.keepRows (c.cells.toList.map fun _ => false)))
          else if op = .ne then .ok (.frame (f.keepRows (c.cells.toList.map fun _ => true)))
          else .error (.fault (if c.kind = .object then .unorderable op "bool" "str"
            else .invalidComparison c.kind.name "str"))) ∧
      (c.kind = .int64 ∨ c.kind = .float64 →
        ∃ x', Decimal.readNumber? x.asField = some x' ∧
          (∀ n, x = .int n → x' = Float.ofInt n) ∧
          Rule.apply (.frame f) ⟨key, .compare op, .str x.asField⟩ =
            .ok (.frame (f.keepRows (c.cells.toList.map fun y =>
              verdictOf (numericTest c.kind op y (.float x')))))) := by
  have hs : c.Shaped := Csv.readTable_shaped hload _ (Frame.mem_of_pickBy_column hpick)
  refine ⟨hs.cell_cases hx hxm, ?_,
    fun hcase => Rule.apply_compare_unordered_cell hs hpick hx hcase op,
    fun hk => Rule.apply_compare_number_cell hs hpick hk hx hxm op⟩
  rintro ⟨s, rfl⟩
  exact Rule.apply_compare_text_cell hs hpick hx op

end Tabula.Query

namespace Tabula.Query

open Json

def compareSampleCsv : List UInt8 := "a\nTrue\nFalse\n".toUTF8.toList

def compareSampleFrame : Frame := (Csv.readTable compareSampleCsv).toOption.getD default

def compareSampleColumn : Column := (compareSampleFrame.columns.toList.headD default).2

def compareSampleCell : Cell := compareSampleColumn.cells.toList.headD .missing

theorem compare_rule_with_cell_text_sample :
    Csv.readTable compareSampleCsv = .ok compareSampleFrame ∧
      compareSampleFrame.pickBy (.str (Text.ofString "a")) =
        .ok (.column (Text.ofString "a") compareSampleColumn) ∧
      compareSampleCell ∈ compareSampleColumn.cells.toList ∧
      compareSampleCell.isMissing = false ∧
      ((∃ s, compareSampleCell = .text s) ∨ (∃ b, compareSampleCell = .bool b) ∨
          compareSampleColumn.kind = .uint64 ∨ compareSampleColumn.kind = .int64 ∨
          compareSampleColumn.kind = .float64) ∧
      ((∃ s, compareSampleCell = .text s) →
        Rule.apply (.frame compareSampleFrame)
            ⟨.str (Text.ofString "a"), .compare .gt, .str compareSampleCell.asField⟩ =
          .ok (.frame (compareSampleFrame.keepRows (compareSampleColumn.cells.toList.map fun y =>
            if y.isMissing then Op.gt == .ne
            else Op.gt.test (some (Text.compareLex y.asText.points
              compareSampleCell.asField.points)))))) ∧
      ((∃ b, compareSampleCell = .bool b) ∨ compareSampleColumn.kind = .uint64 →
        Rule.apply (.frame compareSampleFrame)
            ⟨.str (Text.ofString "a"), .compare .gt, .str compareSampleCell.asField⟩ =
          if Op.gt = .eq then
            .ok (.frame (compareSampleFrame.keepRows
              (compareSampleColumn.cells.toList.map fun _ => false)))
          else if Op.gt = .ne then
            .ok (.frame (compareSampleFrame.keepRows
              (compareSampleColumn.cells.toList.map fun _ => true)))
          else .error (.fault (if compareSampleColumn.kind = .object then
              .unorderable .gt "bool" "str"
            else .invalidComparison compareSampleColumn.kind.name "str"))) ∧
      (compareSampleColumn.kind = .int64 ∨ compareSampleColumn.kind = .float64 →
        ∃ x', Decimal.readNumber? compareSampleCell.asField = some x' ∧
          (∀ n, compareSampleCell = .int n → x' = Float.ofInt n) ∧
          Rule.apply (.frame compareSampleFrame)
              ⟨.str (Text.ofString "a"), .compare .gt, .str compareSampleCell.asField⟩ =
            .ok (.frame (compareSampleFrame.keepRows (compareSampleColumn.cells.toList.map fun y =>
              verdictOf (numericTest compareSampleColumn.kind .gt y (.float x')))))) := by
  have hload : Csv.readTable compareSampleCsv = .ok compareSampleFrame :=
    eq_ok_getD (by decide +kernel)
  -- the frame has one column, named `a`, whose first cell is the sample cell
  have hcols : compareSampleFrame.columns.toList ≠ [] := by decide +kernel
  have hname : (compareSampleFrame.columns.toList.headD default).1 = Text.ofString "a" := by
    decide +kernel
  have hcol : compareSampleFrame.columns[0]? = some (Text.ofString "a", compareSampleColumn) := by
    obtain ⟨p, ps, hps⟩ := List.exists_cons_of_ne_nil hcols
    rw [← Array.getElem?_toList, ← hname, compareSampleColumn, hps]
    rfl
  have hpick : compareSampleFrame.pickBy (.str (Text.ofString "a")) =
      .ok (.column (Text.ofString "a") compareSampleColumn) :=
    (Frame.pickBy_eq_column rfl).2 ⟨0, by decide +kernel, hcol⟩
  have hcells : compareSampleColumn.cells.toList ≠ [] := by decide +kernel
  have hx : compareSampleCell ∈ compareSampleColumn.cells.toList := by
    obtain ⟨y, ys, hys⟩ := List.exists_cons_of_ne_nil hcells
    rw [compareSampleCell, hys]
    exact List.mem_cons_self
  have hxm : compareSampleCell.isMissing = false := by decide +kernel
  exact ⟨hload, hpick, hx, hxm, compare_rule_with_cell_text hload hpick hx hxm .gt⟩

/-- On a boolean column `eq` with the text of a `True` cell keeps no row, and on unsigned integers
an order with the text of a cell stops the run: the text is compared as a text. -/
theorem compare_with_cell_text_as_text :
    csvTextOf ((configuredSession "a\nTrue\nFalse\n" "a" "eq" "True").process.1.step
        .exportCsv).2 = some (Text.ofString "a\n") ∧
      messageOf (configuredSession "a\n18446744073709551615\n1\n" "a" "gt" "1").process.2 =
        some (Text.ofString ("Error occurred during data processing: " ++
          "Invalid comparison between dtype=uint64 and str")) := by
  decide +kernel

end Tabula.Query
