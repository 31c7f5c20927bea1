import Mathlib.Data.List.Forall2
import Tabula.Json.Read
import Tabula.Json.Write

/-!
What the JSON reader makes of text laid out the way a writer lays it out. Strings are read through
their escapes (a character beyond `FFFF` as a surrogate pair), a number through its sign, integer
digits, fraction and exponent (`readNumber_text`), and containers with one item per line after a
padding (`bracketed`) item by item. `ReadsAt` packages "this text is read as a value with this
property, wherever it stands before a comma, a line feed or the end"; the container lemmas build
it from the items' own, and `parse_of_readsAt` turns it into the outcome of a whole parse.
-/

namespace Tabula.Json

/-! ### Blanks -/

theorem skipSpace_blanks (bs rest : List Nat) (pos : Nat) (h : ∀ c ∈ bs, isSpace c = true) :
    skipSpace (bs ++ rest) pos = skipSpace rest (pos + bs.length) := by
  induction bs generalizing pos with
  | nil => rfl
  | cons b bs ih =>
    rw [List.cons_append, skipSpace, if_pos (h b (List.mem_cons_self ..)),
      ih (pos + 1) (fun c hc => h c (List.mem_cons_of_mem _ hc))]
    simp only [List.length_cons]
    congr 1
    omega

theorem skipSpace_stop (c : Nat) (rest : List Nat) (pos : Nat) (h : isSpace c = false) :
    skipSpace (c :: rest) pos = (c :: rest, pos) := by
  simp [skipSpace, h]

def spaces (n : Nat) : List Nat := List.replicate n 0x20

@[simp] theorem spaces_length (n : Nat) : (spaces n).length = n := by
  simp [spaces]

theorem spaces_blank (n : Nat) : ∀ c ∈ spaces n, isSpace c = true := by
  intro c hc
  rw [spaces, List.mem_replicate] at hc
  rw [hc.2]
  rfl

theorem skipSpace_line (pad : List Nat) (hpad : ∀ c ∈ pad, isSpace c = true) (c : Nat)
    (r : List Nat) (hc : isSpace c = false) (pos : Nat) :
    skipSpace (0x0A :: (pad ++ c :: r)) pos = (c :: r, pos + 1 + pad.length) := by
  rw [← List.cons_append, skipSpace_blanks _ _ _ (fun b hb => ?_), skipSpace_stop _ _ _ hc]
  · simp only [List.length_cons]
    congr 1
    omega
  · rcases List.mem_cons.mp hb with rfl | hb
    · rfl
    · exact hpad b hb

/-! ### Strings -/

theorem hexVal_hexDigit (d : Nat) (h : d < 16) : hexVal? (hexDigit d).toNat = some d := by
  have table : ∀ d : Fin 16, hexVal? (hexDigit d).toNat = some d := by decide
  exact table ⟨d, h⟩

theorem unitEscape_points (u : Nat) : (unitEscape u).map Char.toNat =
    [0x5C, 0x75, (hexDigit (u / 4096 % 16)).toNat, (hexDigit (u / 256 % 16)).toNat,
      (hexDigit (u / 16 % 16)).toNat, (hexDigit (u % 16)).toNat] := rfl

theorem hex4_unitDigits (u : Nat) (h : u < 0x10000) :
    hex4? [(hexDigit (u / 4096 % 16)).toNat, (hexDigit (u / 256 % 16)).toNat,
      (hexDigit (u / 16 % 16)).toNat, (hexDigit (u % 16)).toNat] = some u := by
  simp only [hex4?, hexVal_hexDigit _ (Nat.mod_lt _ (by decide : 16 > 0))]
  simp only [Option.pure_def, Option.bind_eq_bind, Option.bind_some, Option.some.injEq]
  omega

theorem readString_close (begin : Nat) (rest : List Nat) (pos : Nat) (acc : Array Nat) :
    readString begin (0x22 :: rest) pos acc = .ok (⟨acc.toList⟩, rest, pos + 1) := by
  rw [readString.eq_def]
  simp

theorem readString_plain (begin c : Nat) (more : List Nat) (pos : Nat) (acc : Array Nat)
    (h1 : 0x20 ≤ c) (h2 : c ≠ 0x22) (h3 : c ≠ 0x5C) :
    readString begin (c :: more) pos acc = readString begin more (pos + 1) (acc.push c) := by
  rw [readString.eq_def]
  simp [h2, h3]
  omega

theorem readString_escape (begin e v : Nat) (more : List Nat) (pos : Nat) (acc : Array Nat)
    (he : simpleEscape? e = some v) :
    readString begin (0x5C :: e :: more) pos acc = readString begin more (pos + 2) (acc.push v) := by
  -- the escape letter is not `u`, which has no one-letter meaning
  have hu : e ≠ 0x75 := by
    rintro rfl
    simp [simpleEscape?] at he
  rw [readString.eq_def]
  simp [he]

/-- A `\u` escape is read as its code unit alone unless it is a high surrogate followed by the
escape of a low one. -/
theorem readString_unit_alone (begin u : Nat) (more : List Nat) (pos : Nat) (acc : Array Nat)
    (hu : u < 0x10000) (hm : more ≠ [])
    (hnext : isHigh u = true → more.take 2 = [0x5C, 0x75] →
      ∃ v, hex4? ((more.drop 2).take 4) = some v ∧ isLow v = false) :
    readString begin ((unitEscape u).map Char.toNat ++ more) pos acc =
      readString begin more (pos + 6) (acc.push u) := by
  have hlen : 0 < more.length := List.length_pos_iff.mpr hm
  rw [unitEscape_points, readString.eq_def]
  simp only [List.cons_append, beq_iff_eq]
  simp [hex4_unitDigits u hu]
  rw [if_neg (by omega)]
  by_cases hc : (isHigh u = true ∧ 6 < more.length) ∧ more.take 2 = [0x5C, 0x75]
  · -- a `\u` escape follows, and it is not a low surrogate: the high one stands alone
    obtain ⟨v, hv, hlow⟩ := hnext hc.1.1 hc.2
    rw [if_pos hc, hv]
    simp [hlow]
  · rw [if_neg hc]

theorem readString_pair (begin u w : Nat) (more : List Nat) (pos : Nat) (acc : Array Nat)
    (hu : u < 0x10000) (hw : w < 0x10000) (high : isHigh u = true) (low : isLow w = true)
    (hm : more ≠ []) :
    readString begin ((unitEscape u ++ unitEscape w).map Char.toNat ++ more) pos acc =
      readString begin more (pos + 12)
        (acc.push (0x10000 + (u - 0xD800) * 0x400 + (w - 0xDC00))) := by
  have hlen : 0 < more.length := List.length_pos_iff.mpr hm
  rw [List.map_append, unitEscape_points, unitEscape_points, readString.eq_def]
  simp [hex4_unitDigits _ hu, hex4_unitDigits _ hw, high, low]
  rw [if_neg (by omega), if_pos hlen]

theorem toNat_ofNat_ascii (n : Nat) (h : n < 0x80) : (Char.ofNat n).toNat = n := by
  have table : ∀ d : Fin 0x80, (Char.ofNat d).toNat = d := by decide
  exact table ⟨n, h⟩

/-- Each code point is written in one of four ways: as itself, as a two-character escape, as one
`\u` escape, or beyond `FFFF` as two. -/
theorem asciiPoint_cases (n : Nat) :
    ((asciiPoint n).map Char.toNat = [n] ∧ 0x20 ≤ n ∧ n ≠ 0x22 ∧ n ≠ 0x5C) ∨
      (∃ e, (asciiPoint n).map Char.toNat = [0x5C, e] ∧ simpleEscape? e = some n) ∨
      (asciiPoint n = unitEscape n ∧ n < 0x10000) ∨
      (asciiPoint n = unitEscape (0xD800 + (n - 0x10000) / 0x400) ++
        unitEscape (0xDC00 + (n - 0x10000) % 0x400) ∧ 0x10000 ≤ n) := by
  unfold asciiPoint
  -- the two-character escapes, one by one
  by_cases h22 : n = 0x22
  · exact .inr (.inl ⟨0x22, by simp [h22], by simp [h22, simpleEscape?]⟩)
  by_cases h5C : n = 0x5C
  · exact .inr (.inl ⟨0x5C, by simp [h5C], by simp [h5C, simpleEscape?]⟩)
  by_cases h0A : n = 0x0A
  · exact .inr (.inl ⟨0x6E, by simp [h0A], by simp [h0A, simpleEscape?]⟩)
  by_cases h0D : n = 0x0D
  · exact .inr (.inl ⟨0x72, by simp [h0D], by simp [h0D, simpleEscape?]⟩)
  by_cases h09 : n = 0x09
  · exact .inr (.inl ⟨0x74, by simp [h09], by simp [h09, simpleEscape?]⟩)
  by_cases h08 : n = 0x08
  · exact .inr (.inl ⟨0x62, by simp [h08], by simp [h08, simpleEscape?]⟩)
  by_cases h0C : n = 0x0C
  · exact .inr (.inl ⟨0x66, by simp [h0C], by simp [h0C, simpleEscape?]⟩)
  simp only [beq_iff_eq, h22, h5C, h0A, h0D, h09, h08, h0C, if_false]
  by_cases hp : 0x20 ≤ n ∧ n ≤ 0x7E
  · refine .inl ⟨?_, hp.1, h22, h5C⟩
    simp [hp, toNat_ofNat_ascii n (by omega)]
  by_cases hb : n < 0x10000
  · exact .inr (.inr (.inl ⟨by simp [hp, hb], hb⟩))
  · exact .inr (.inr (.inr ⟨by simp [hp, hb], by omega⟩))

/-- One code point of an ASCII string body is read back as itself, provided that a high surrogate
is not followed by the escape of a low one. -/
theorem readString_asciiPoint (begin n : Nat) (more : List Nat) (pos : Nat) (acc : Array Nat)
    (hn : n < 0x110000) (hm : more ≠ [])
    (hnext : isHigh n = true → more.take 2 = [0x5C, 0x75] →
      ∃ v, hex4? ((more.drop 2).take 4) = some v ∧ isLow v = false) :
    ∃ q, readString begin ((asciiPoint n).map Char.toNat ++ more) pos acc =
      readString begin more q (acc.push n) := by
  rcases asciiPoint_cases n with ⟨h, h1, h2, h3⟩ | ⟨e, h, he⟩ | ⟨h, hb⟩ | ⟨h, hb⟩
  · exact ⟨pos + 1, by rw [h, List.singleton_append, readString_plain begin n more pos acc h1 h2 h3]⟩
  · exact ⟨pos + 2, by
      rw [h, List.cons_append, List.singleton_append, readString_escape _ _ _ _ _ _ he]⟩
  · exact ⟨pos + 6, by rw [h, readString_unit_alone _ _ _ _ _ hb hm hnext]⟩
  · -- beyond FFFF: a high and a low surrogate that combine back into the code point
    have hhi : 0xD800 + (n - 0x10000) / 0x400 < 0x10000 := by omega
    have hlo : 0xDC00 + (n - 0x10000) % 0x400 < 0x10000 := by omega
    have high : isHigh (0xD800 + (n - 0x10000) / 0x400) = true := by
      simp only [isHigh, Bool.and_eq_true, decide_eq_true_eq]
      omega
    have low : isLow (0xDC00 + (n - 0x10000) % 0x400) = true := by
      simp only [isLow, Bool.and_eq_true, decide_eq_true_eq]
      omega
    have hval : 0x10000 + (0xD800 + (n - 0x10000) / 0x400 - 0xD800) * 0x400 +
        (0xDC00 + (n - 0x10000) % 0x400 - 0xDC00) = n := by omega
    exact ⟨pos + 12, by rw [h, readString_pair _ _ _ _ _ _ hhi hlo high low hm, hval]⟩

/-- The body of a string, up to its closing quote, is read as `t` wherever it stands. -/
def BodyReads (body : List Nat) (t : Text) : Prop :=
  ∀ begin rest pos, ∃ q, readString begin (body ++ 0x22 :: rest) pos #[] = .ok (t, rest, q)

/-! ### Numbers -/

/-- Can a value written before `rest` end there: at the end of the text, a comma or a line
feed? -/
def endsValue : List Nat → Bool
  | [] => true
  | c :: _ => c == 0x2C || c == 0x0A

theorem endsValue_head {rest : List Nat} (h : endsValue rest = true) :
    ∀ c ∈ rest.head?, isDigitPoint c = false ∧ c ≠ 0x2E ∧ c ≠ 0x65 ∧ c ≠ 0x45 := by
  intro c hc
  cases rest with
  | nil => cases hc
  | cons c' r =>
    simp only [List.head?_cons, Option.mem_def, Option.some.injEq] at hc
    subst hc
    simp only [endsValue, Bool.or_eq_true, beq_iff_eq] at h
    rcases h with rfl | rfl <;> decide

theorem spanDigits_append (ds rest : List Nat) (hd : ∀ d ∈ ds, isDigitPoint d = true)
    (hr : ∀ c ∈ rest.head?, isDigitPoint c = false) : spanDigits (ds ++ rest) = (ds, rest) := by
  induction ds with
  | nil =>
    cases rest with
    | nil => rfl
    | cons c r => simp [spanDigits, hr c rfl]
  | cons d ds ih =>
    have hds := ih (fun x hx => hd x (List.mem_cons_of_mem _ hx))
    simp only [spanDigits, Prod.mk.injEq] at hds
    simp [spanDigits, hd d (List.mem_cons_self ..), hds]

theorem numberFraction_absent (r : List Nat) (h : ∀ c ∈ r.head?, c ≠ 0x2E) :
    numberFraction r = (none, r) := by
  unfold numberFraction
  split
  · next d r' => exact absurd rfl (h 0x2E rfl)
  · rfl

theorem numberFraction_digits (fs r : List Nat) (hne : fs ≠ [])
    (hf : ∀ d ∈ fs, isDigitPoint d = true) (hr : ∀ c ∈ r.head?, isDigitPoint c = false) :
    numberFraction (0x2E :: fs ++ r) = (some fs, r) := by
  obtain ⟨f, fs, rfl⟩ := List.exists_cons_of_ne_nil hne
  have hfs := spanDigits_append fs r (fun d hd => hf d (List.mem_cons_of_mem _ hd)) hr
  simp [numberFraction, hf f (List.mem_cons_self ..), hfs]

theorem numberExponent_absent (r : List Nat) (h : ∀ c ∈ r.head?, c ≠ 0x65 ∧ c ≠ 0x45) :
    numberExponent r = (none, r) := by
  cases r with
  | nil => rfl
  | cons c r =>
    obtain ⟨h1, h2⟩ := h c rfl
    simp [numberExponent, h1, h2]

theorem numberExponent_digits (neg : Bool) (eds r : List Nat) (hne : eds ≠ [])
    (he : ∀ d ∈ eds, isDigitPoint d = true) (hr : ∀ c ∈ r.head?, isDigitPoint c = false) :
    numberExponent (0x65 :: (if neg then 0x2D else 0x2B) :: eds ++ r) =
      (some (if neg then -(digitValue eds : Int) else digitValue eds), r) := by
  have hs := spanDigits_append eds r he hr
  cases neg <;> simp [numberExponent, hs, hne]

theorem isDigitPoint_toNat (c : Char) : isDigitPoint c.toNat = c.isDigit := by
  rw [Bool.eq_iff_iff, Char.isDigit_iff_toNat]
  simp [isDigitPoint]

/-- The parts of a number as a writer puts them down: a sign, the integer digits, the digits of
the fraction (none when empty) and an exponent with its sign written out. -/
structure NumberParts where
  neg : Bool
  whole : List Char
  frac : List Char
  exp : Option (Bool × List Char)

namespace NumberParts

def expPoints : Option (Bool × List Char) → List Nat
  | none => []
  | some (eneg, ds) => 0x65 :: (if eneg then 0x2D else 0x2B) :: ds.map Char.toNat

def text (p : NumberParts) : List Char :=
  (if p.neg then ['-'] else []) ++ p.whole ++ (if p.frac = [] then [] else '.' :: p.frac) ++
    (match p.exp with
      | none => []
      | some (eneg, ds) => 'e' :: (if eneg then '-' else '+') :: ds)

/-- The parts JSON allows: digits throughout, an integer part with no leading zero unless it is
`0`, and an exponent of at least one digit. -/
structure Valid (p : NumberParts) : Prop where
  whole_ne : p.whole ≠ []
  whole_digits : ∀ c ∈ p.whole, c.isDigit
  leading : p.whole.head? = some '0' → p.whole = ['0']
  frac_digits : ∀ c ∈ p.frac, c.isDigit
  exp_ne : ∀ e ∈ p.exp, e.2 ≠ []
  exp_digits : ∀ e ∈ p.exp, ∀ c ∈ e.2, c.isDigit

def mantissa (p : NumberParts) : Nat := digitValue ((p.whole ++ p.frac).map Char.toNat)

/-- The power of ten the mantissa is scaled by: the exponent written, less one for each fraction
digit. -/
def exponent (p : NumberParts) : Int :=
  (p.exp.map fun e => if e.1 then -(digitValue (e.2.map Char.toNat) : Int)
    else digitValue (e.2.map Char.toNat)).getD 0 - p.frac.length

theorem text_points (p : NumberParts) : p.text.map Char.toNat =
    (if p.neg then [0x2D] else []) ++ p.whole.map Char.toNat ++
      (if p.frac = [] then [] else 0x2E :: p.frac.map Char.toNat) ++ expPoints p.exp := by
  have hsign : (if p.neg then ['-'] else []).map Char.toNat = if p.neg then [0x2D] else [] := by
    cases p.neg <;> rfl
  have hfrac : (if p.frac = [] then [] else '.' :: p.frac).map Char.toNat =
      if p.frac = [] then [] else 0x2E :: p.frac.map Char.toNat := by
    split <;> rfl
  have hexp : (match p.exp with
      | none => []
      | some (eneg, ds) => 'e' :: (if eneg then '-' else '+') :: ds).map Char.toNat =
      expPoints p.exp := by
    rcases p.exp with _ | ⟨_ | _, ds⟩ <;> rfl
  simp only [text, List.map_append, hsign, hfrac, hexp]

end NumberParts

def Value.isNumber : Value → Bool
  | .int _ | .float _ => true
  | _ => false

/-- Integer digits, with no leading zero unless the zero stands alone, are read up to the first
point that is not a digit. -/
theorem numberWhole_digits (ws : List Char) (T : List Nat) (hne : ws ≠ [])
    (hdigits : ∀ c ∈ ws, isDigitPoint c.toNat = true) (hlead : ws.head? = some '0' → ws = ['0'])
    (hT : ∀ c ∈ T.head?, isDigitPoint c = false) :
    numberWhole (ws.map Char.toNat ++ T) = some (ws.map Char.toNat, T) := by
  obtain ⟨d, ds, hw⟩ := List.exists_cons_of_ne_nil hne
  have hd := hdigits d (by simp [hw])
  simp only [isDigitPoint, Bool.and_eq_true, decide_eq_true_eq] at hd
  by_cases h0 : d = '0'
  · rw [hlead (by simp [hw, h0])]
    rfl
  · have hd0 : d.toNat ≠ 0x30 := fun h => h0 (Char.toNat_inj.mp h)
    have hds := spanDigits_append (ds.map Char.toNat) T
      (fun x hx => by
        obtain ⟨c, hc, rfl⟩ := List.mem_map.mp hx
        exact hdigits c (by simp [hw, hc])) hT
    rw [hw, List.map_cons, List.cons_append]
    unfold numberWhole
    split
    · next r h => exact absurd (List.cons.inj h).1 hd0
    · next c r hc h =>
      obtain ⟨rfl, rfl⟩ := List.cons.inj h
      have h1 : 0x31 ≤ d.toNat := by omega
      simp [hd, h1, hds]
    · next h => cases h

theorem numberSign_digits (neg : Bool) (ws : List Char) (T : List Nat) (hne : ws ≠ [])
    (hdigits : ∀ c ∈ ws, isDigitPoint c.toNat = true) :
    numberSign ((if neg then [0x2D] else []) ++ (ws.map Char.toNat ++ T)) =
      (neg, ws.map Char.toNat ++ T) := by
  obtain ⟨d, ds, hw⟩ := List.exists_cons_of_ne_nil hne
  have hd := hdigits d (by simp [hw])
  simp only [isDigitPoint, Bool.and_eq_true, decide_eq_true_eq] at hd
  cases neg
  · rw [hw, if_neg Bool.false_ne_true, List.nil_append, List.map_cons, List.cons_append]
    unfold numberSign
    split
    · next r h =>
      have := (List.cons.inj h).1
      omega
    · rfl
  · rfl

open NumberParts in
/-- A number laid out in valid parts is read as a number up to a comma, a line feed or the end:
an integer with its digits when it has neither fraction nor exponent and no more digits than the
reader converts, and otherwise the double nearest to its mantissa and exponent, with its sign. -/
theorem readNumber_text (p : NumberParts) (hp : p.Valid) (rest : List Nat)
    (hr : endsValue rest = true) (pos : Nat)
    (hd : p.frac = [] → p.exp = none → p.whole.length ≤ maxDigits) :
    ∃ v q, readNumber (p.text.map Char.toNat ++ rest) pos = .ok (v, rest, q) ∧ v.isNumber = true ∧
      (p.frac = [] → p.exp = none →
        v = .int (if p.neg then -(digitValue (p.whole.map Char.toNat) : Int)
          else digitValue (p.whole.map Char.toNat))) ∧
      (p.frac ≠ [] ∨ p.exp.isSome = true →
        v = .float (if p.neg then -Decimal.nearest p.mantissa p.exponent
          else Decimal.nearest p.mantissa p.exponent)) := by
  have hrest := endsValue_head hr
  have hexp : numberExponent (expPoints p.exp ++ rest) =
      (p.exp.map fun e => if e.1 then -(digitValue (e.2.map Char.toNat) : Int)
        else digitValue (e.2.map Char.toNat), rest) := by
    rcases hx : p.exp with _ | ⟨eneg, ds⟩
    · exact numberExponent_absent rest fun c hc => ⟨(hrest c hc).2.2.1, (hrest c hc).2.2.2⟩
    · have hne := hp.exp_ne (eneg, ds) (by simp [hx])
      have hds := hp.exp_digits (eneg, ds) (by simp [hx])
      simp only [expPoints, Option.map_some]
      rw [numberExponent_digits eneg _ rest (by simpa using hne)
        (by simpa [isDigitPoint_toNat] using hds) fun c hc => (hrest c hc).1]
  -- after the fraction comes an `e` or what ends the value
  have hX : ∀ c ∈ (expPoints p.exp ++ rest).head?, isDigitPoint c = false ∧ c ≠ 0x2E := by
    rcases p.exp with _ | ⟨eneg, ds⟩
    · exact fun c hc => ⟨(hrest c hc).1, (hrest c hc).2.1⟩
    · intro c hc
      simp only [expPoints, List.cons_append, List.head?_cons, Option.mem_def,
        Option.some.injEq] at hc
      subst hc
      decide
  have hfrac : numberFraction ((if p.frac = [] then [] else 0x2E :: p.frac.map Char.toNat) ++
      (expPoints p.exp ++ rest)) =
      (if p.frac = [] then none else some (p.frac.map Char.toNat), expPoints p.exp ++ rest) := by
    by_cases hf : p.frac = []
    · simp only [hf, if_true, List.nil_append]
      exact numberFraction_absent _ fun c hc => (hX c hc).2
    · simp only [hf, if_false, List.cons_append]
      exact numberFraction_digits _ _ (by simpa using hf)
        (by simpa [isDigitPoint_toNat] using hp.frac_digits) fun c hc => (hX c hc).1
  -- after the integer digits comes a point, an `e` or what ends the value
  generalize hT : (if p.frac = [] then [] else 0x2E :: p.frac.map Char.toNat) ++
    (expPoints p.exp ++ rest) = T at hfrac
  have hTd : ∀ c ∈ T.head?, isDigitPoint c = false := by
    rw [← hT]
    by_cases hf : p.frac = []
    · simpa [hf] using fun c hc => (hX c hc).1
    · simp [hf, isDigitPoint]
  have hdigits : ∀ c ∈ p.whole, isDigitPoint c.toNat = true := by
    simpa [isDigitPoint_toNat] using hp.whole_digits
  have hwhole := numberWhole_digits p.whole T hp.whole_ne hdigits hp.leading hTd
  have hsign := numberSign_digits p.neg p.whole T hp.whole_ne hdigits
  rw [NumberParts.text_points]
  simp only [List.append_assoc]
  rw [hT]
  unfold readNumber
  simp only [hsign, hwhole, hfrac, hexp]
  by_cases hf : p.frac = []
  · cases hx : p.exp with
    | none => simp [hf, Nat.not_lt.mpr (hd hf hx), Value.isNumber]
    | some e => simp [hf, hx, Value.isNumber, NumberParts.mantissa, NumberParts.exponent]
  · simp [hf, Value.isNumber, NumberParts.mantissa, NumberParts.exponent]

/-! ### Values -/

theorem startsWith_eq (s : List Nat) (word : String) :
    startsWith s word =
      (s.take (word.toList.map Char.toNat).length == word.toList.map Char.toNat) := by
  rw [startsWith, List.length_map, String.length_toList]

theorem readValue_number (fuel depth c : Nat) (r : List Nat) (pos : Nat)
    (hc : isDigitPoint c = true ∨ (c = 0x2D ∧ ∃ d r', r = d :: r' ∧ isDigitPoint d = true)) :
    readValue (fuel + 1) depth (c :: r) pos = readNumber (c :: r) pos := by
  have hc' : c ≠ 0x22 ∧ c ≠ 0x7B ∧ c ≠ 0x5B ∧ c ≠ 0x6E ∧ c ≠ 0x74 ∧ c ≠ 0x66 ∧ c ≠ 0x4E ∧
      c ≠ 0x49 := by
    rcases hc with h | ⟨rfl, -⟩
    · simp only [isDigitPoint, Bool.and_eq_true, decide_eq_true_eq] at h
      omega
    · decide
  obtain ⟨h22, h7B, h5B, h6E, h74, h66, h4E, h49⟩ := hc'
  simp [readValue, startsWith_eq, h22, h7B, h5B, h6E, h74, h66, h4E, h49]
  -- only a minus can begin `-Infinity`, and a digit follows ours
  intro hm hI
  rcases hc with h | ⟨-, d, r', rfl, hd⟩
  · subst hm
    cases h
  · simp only [List.take_succ_cons, List.cons.injEq] at hI
    simp only [isDigitPoint, hI.1] at hd
    cases hd

/-- `text`, standing at nesting `depth`, is read as a value that `P` holds of wherever it is
followed by a comma, a line feed or the end, given as much fuel as it has characters; it starts
with a character that neither is blank nor closes a container. -/
structure ReadsAt (depth : Nat) (text : List Nat) (P : Value → Prop) : Prop where
  start : ∃ c r, text = c :: r ∧ isSpace c = false ∧ c ≠ 0x5D ∧ c ≠ 0x7D
  reads : ∀ fuel rest pos, text.length ≤ fuel → endsValue rest = true →
    ∃ v q, readValue fuel depth (text ++ rest) pos = .ok (v, rest, q) ∧ P v

theorem ReadsAt.mono {depth : Nat} {text : List Nat} {P Q : Value → Prop} (h : ReadsAt depth text P)
    (hPQ : ∀ v, P v → Q v) : ReadsAt depth text Q := by
  refine ⟨h.start, fun fuel rest pos hf hr => ?_⟩
  obtain ⟨v, q, hv, hp⟩ := h.reads fuel rest pos hf hr
  exact ⟨v, q, hv, hPQ v hp⟩

theorem skipSpace_onto {text : List Nat} {P : Value → Prop} {depth : Nat}
    (h : ReadsAt depth text P) (more : List Nat) (pos : Nat) :
    skipSpace (text ++ more) pos = (text ++ more, pos) := by
  obtain ⟨c, r, rfl, hc, -⟩ := h.start
  exact skipSpace_stop c (r ++ more) pos hc

theorem fuel_succ {text : List Nat} {fuel : Nat} (hne : text ≠ []) (hf : text.length ≤ fuel) :
    ∃ k, fuel = k + 1 ∧ text.length ≤ k + 1 := by
  have := List.length_pos_iff.mpr hne
  exact ⟨fuel - 1, by omega, by omega⟩

theorem readsAt_string (depth : Nat) (body : List Nat) (t : Text) (h : BodyReads body t) :
    ReadsAt depth (0x22 :: (body ++ [0x22])) (· = .str t) := by
  refine ⟨⟨_, _, rfl, rfl, by decide, by decide⟩, fun fuel rest pos hf _ => ?_⟩
  obtain ⟨fuel, rfl, -⟩ := fuel_succ (List.cons_ne_nil _ _) hf
  obtain ⟨q, hq⟩ := h pos rest (pos + 1)
  refine ⟨_, q, ?_, rfl⟩
  simp [readValue, List.append_assoc, hq]
  rfl

theorem readsAt_number (depth : Nat) (p : NumberParts) (hp : p.Valid)
    (hd : p.frac = [] → p.exp = none → p.whole.length ≤ maxDigits) :
    ReadsAt depth (p.text.map Char.toNat) (fun v => v.isNumber = true ∧
      (p.frac = [] → p.exp = none →
        v = .int (if p.neg then -(digitValue (p.whole.map Char.toNat) : Int)
          else digitValue (p.whole.map Char.toNat))) ∧
      (p.frac ≠ [] ∨ p.exp.isSome = true →
        v = .float (if p.neg then -Decimal.nearest p.mantissa p.exponent
          else Decimal.nearest p.mantissa p.exponent))) := by
  obtain ⟨d, ds, hw⟩ := List.exists_cons_of_ne_nil hp.whole_ne
  have hdig : isDigitPoint d.toNat = true := by
    rw [isDigitPoint_toNat]
    exact hp.whole_digits d (by simp [hw])
  -- the text starts with the first digit, or with a minus and the first digit
  obtain ⟨c, r, hcr, hc⟩ : ∃ c r, p.text.map Char.toNat = c :: r ∧
      (isDigitPoint c = true ∨ (c = 0x2D ∧ ∃ d r', r = d :: r' ∧ isDigitPoint d = true)) := by
    rw [NumberParts.text_points, hw]
    cases p.neg
    · exact ⟨_, _, rfl, .inl hdig⟩
    · exact ⟨_, _, rfl, .inr ⟨rfl, _, _, rfl, hdig⟩⟩
  refine ⟨⟨c, r, hcr, ?_⟩, fun fuel rest pos hf hr => ?_⟩
  · rcases hc with h | ⟨rfl, -⟩
    · simp only [isDigitPoint, Bool.and_eq_true, decide_eq_true_eq] at h
      simp only [isSpace, Bool.or_eq_false_iff, beq_eq_false_iff_ne]
      omega
    · decide
  rw [hcr] at hf
  obtain ⟨fuel, rfl, -⟩ := fuel_succ (List.cons_ne_nil _ _) hf
  obtain ⟨v, q, hv, hnum⟩ := readNumber_text p hp rest hr pos hd
  have hc' : isDigitPoint c = true ∨ (c = 0x2D ∧ ∃ d r', r ++ rest = d :: r' ∧
      isDigitPoint d = true) := by
    rcases hc with h | ⟨h, d, r', rfl, hd⟩
    · exact .inl h
    · exact .inr ⟨h, d, r' ++ rest, rfl, hd⟩
  refine ⟨v, q, ?_, hnum⟩
  rw [hcr, List.cons_append, readValue_number fuel depth c _ pos hc', ← List.cons_append, ← hcr, hv]

theorem readsAt_word (depth : Nat) (word : List Nat) (v : Value) (hne : word ≠ [])
    (hstart : ∀ c ∈ word.head?, isSpace c = false ∧ c ≠ 0x5D ∧ c ≠ 0x7D)
    (hread : ∀ fuel rest pos, ∃ q, readValue (fuel + 1) depth (word ++ rest) pos = .ok (v, rest, q)) :
    ReadsAt depth word (· = v) := by
  obtain ⟨c, r, rfl⟩ := List.exists_cons_of_ne_nil hne
  refine ⟨⟨c, r, rfl, hstart c rfl⟩, fun fuel rest pos hf _ => ?_⟩
  obtain ⟨fuel, rfl, -⟩ := fuel_succ hne hf
  obtain ⟨q, hq⟩ := hread fuel rest pos
  exact ⟨v, q, hq, rfl⟩

theorem readsAt_null (depth : Nat) : ReadsAt depth [0x6E, 0x75, 0x6C, 0x6C] (· = .null) :=
  readsAt_word depth _ _ (List.cons_ne_nil _ _) (by decide)
    fun _ _ pos => ⟨pos + 4, by simp [readValue, startsWith_eq]⟩

theorem readsAt_true (depth : Nat) : ReadsAt depth [0x74, 0x72, 0x75, 0x65] (· = .bool true) :=
  readsAt_word depth _ _ (List.cons_ne_nil _ _) (by decide)
    fun _ _ pos => ⟨pos + 4, by simp [readValue, startsWith_eq]⟩

theorem readsAt_false (depth : Nat) :
    ReadsAt depth [0x66, 0x61, 0x6C, 0x73, 0x65] (· = .bool false) :=
  readsAt_word depth _ _ (List.cons_ne_nil _ _) (by decide)
    fun _ _ pos => ⟨pos + 5, by simp [readValue, startsWith_eq]⟩

/-! ### Containers, one item per line -/

/-- What follows the first item of a container: each further item after a comma, a line feed and
the padding `pad`, then a line feed and `close`. -/
def itemsTail (pad close : List Nat) : List (List Nat) → List Nat
  | [] => 0x0A :: close
  | it :: more => 0x2C :: 0x0A :: (pad ++ it ++ itemsTail pad close more)

/-- A container opened by `opening` with its items one per line after `pad`, closed by `close`;
an empty one is the opening, two line feeds and `close`. -/
def bracketed (opening : Nat) (pad close : List Nat) : List (List Nat) → List Nat
  | [] => opening :: 0x0A :: 0x0A :: close
  | it :: more => opening :: 0x0A :: (pad ++ it ++ itemsTail pad close more)

theorem readItems_tail {α : Type} (depth : Nat) (text : α → List Nat) (R : α → Value → Prop)
    (pad : List Nat) (m : Nat) (hpad : ∀ c ∈ pad, isSpace c = true) (a : α) (more : List α)
    (hi : ∀ b ∈ a :: more, ReadsAt depth (text b) (R b)) (fuel : Nat) (rest : List Nat)
    (pos : Nat) (acc : Array Value)
    (hf : (text a ++ itemsTail pad (spaces m ++ [0x5D]) (more.map text)).length ≤ fuel) :
    ∃ vs q, readItems fuel depth (text a ++ itemsTail pad (spaces m ++ [0x5D]) (more.map text) ++
        rest) pos acc = .ok (.arr (acc.toList ++ vs), rest, q) ∧ List.Forall₂ R (a :: more) vs := by
  induction more generalizing a fuel pos acc with
  | nil =>
    obtain ⟨fuel, rfl⟩ : ∃ k, fuel = k + 1 := ⟨fuel - 1, by simp [itemsTail] at hf; omega⟩
    obtain ⟨v, q, hv, hR⟩ := (hi a (List.mem_cons_self ..)).reads fuel
      (0x0A :: (spaces m ++ 0x5D :: rest)) pos (by simp [itemsTail] at hf; omega) rfl
    refine ⟨[v], q + 1 + m + 1, ?_, .cons hR .nil⟩
    simp only [List.map_nil, itemsTail, List.append_assoc, List.cons_append]
    simp [readItems, hv, bind, Except.bind, skipSpace_line _ (spaces_blank m) 0x5D rest (by decide)]
  | cons b more ih =>
    obtain ⟨fuel, rfl⟩ : ∃ k, fuel = k + 1 := ⟨fuel - 1, by simp [itemsTail] at hf; omega⟩
    have hb : ReadsAt depth (text b) (R b) := hi b (by simp)
    obtain ⟨v, q, hv, hR⟩ := (hi a (List.mem_cons_self ..)).reads fuel
      (0x2C :: 0x0A :: (pad ++ (text b ++ (itemsTail pad (spaces m ++ [0x5D]) (more.map text) ++
        rest)))) pos (by simp [itemsTail] at hf; omega) rfl
    obtain ⟨c, r, hcr, hc, -⟩ := hb.start
    obtain ⟨vs, q', hvs, hF⟩ := ih b (fun c hc => hi c (List.mem_cons_of_mem _ hc)) fuel
      (q + 1 + 1 + pad.length) (acc.push v) (by simp [itemsTail] at hf ⊢; omega)
    refine ⟨v :: vs, q', ?_, .cons hR hF⟩
    simp only [List.map_cons, itemsTail, List.append_assoc, List.cons_append, hcr] at hv hvs ⊢
    simp [readItems, hv, bind, Except.bind, skipSpace_stop 0x2C _ q (by decide),
      skipSpace_line _ hpad c _ hc, hvs]

theorem readsAt_array {α : Type} (depth : Nat) (hd : depth < maxDepth) (pad : List Nat) (m : Nat)
    (hpad : ∀ c ∈ pad, isSpace c = true) (items : List α) (text : α → List Nat)
    (R : α → Value → Prop) (hi : ∀ a ∈ items, ReadsAt (depth + 1) (text a) (R a)) :
    ReadsAt depth (bracketed 0x5B pad (spaces m ++ [0x5D]) (items.map text))
      (fun v => ∃ vs, v = .arr vs ∧ List.Forall₂ R items vs) := by
  have hd' : ¬ maxDepth ≤ depth := Nat.not_le.mpr hd
  cases items with
  | nil =>
    refine ⟨⟨0x5B, _, rfl, by decide, by decide, by decide⟩, fun fuel rest pos hf _ => ?_⟩
    obtain ⟨fuel, rfl, -⟩ := fuel_succ (List.cons_ne_nil _ _) hf
    have hskip := skipSpace_line (0x0A :: spaces m)
      (fun c hc => by
        rcases List.mem_cons.mp hc with rfl | hc
        · rfl
        · exact spaces_blank m c hc) 0x5D rest (by decide) (pos + 1)
    refine ⟨_, pos + 1 + 1 + (m + 1) + 1, ?_, ⟨[], rfl, .nil⟩⟩
    simp only [List.map_nil, bracketed, List.cons_append, List.append_assoc] at hskip ⊢
    simp [readValue, hd', hskip]
  | cons a more =>
    refine ⟨⟨0x5B, _, rfl, by decide, by decide, by decide⟩, fun fuel rest pos hf _ => ?_⟩
    obtain ⟨fuel, rfl, hf⟩ := fuel_succ (List.cons_ne_nil _ _) hf
    obtain ⟨c, r, hcr, hc, hc5D, -⟩ := (hi a (List.mem_cons_self ..)).start
    obtain ⟨vs, q, hvs, hF⟩ := readItems_tail (depth + 1) text R pad m hpad a more hi fuel rest
      (pos + 1 + 1 + pad.length) #[] (by simp [bracketed] at hf ⊢; omega)
    refine ⟨_, q, ?_, ⟨vs, rfl, hF⟩⟩
    simp only [List.map_cons, bracketed, List.cons_append, List.append_assoc, hcr] at hvs ⊢
    simp [readValue, hd', skipSpace_line _ hpad c _ hc, hc5D, hvs]

theorem setField_fresh (fields : List (Text × Value)) (key : Text) (v : Value)
    (h : key ∉ fields.map Prod.fst) : Value.setField fields key v = fields ++ [(key, v)] := by
  have hany : fields.any (·.1 == key) = false := by
    rw [List.any_eq_false]
    intro x hx hk
    exact h (List.mem_map.mpr ⟨x, hx, by simpa using hk⟩)
  simp [Value.setField, hany]

def fieldTextSep {α : Type} (sep : List Nat) (keyBody : Text → List Nat) (text : α → List Nat)
    (y : Text × α) : List Nat :=
  0x22 :: (keyBody y.1 ++ 0x22 :: 0x3A :: (sep ++ text y.2))

def fieldText {α : Type} (keyBody : Text → List Nat) (text : α → List Nat) (y : Text × α) :
    List Nat :=
  0x22 :: (keyBody y.1 ++ 0x22 :: 0x3A :: text y.2)

/-- The fields of an object after its first one are read one by one up to the closing brace;
each new key goes last. -/
theorem readFields_tail {α : Type} (depth : Nat) (sep : List Nat)
    (hsep : ∀ c ∈ sep, isSpace c = true) (keyBody : Text → List Nat)
    (text : α → List Nat) (R : α → Value → Prop) (pad : List Nat) (m : Nat)
    (hpad : ∀ c ∈ pad, isSpace c = true) (x : Text × α) (more : List (Text × α))
    (hi : ∀ y ∈ x :: more, ReadsAt depth (text y.2) (R y.2) ∧ BodyReads (keyBody y.1) y.1)
    (acc : List (Text × Value)) (hnd : (acc.map Prod.fst ++ (x :: more).map Prod.fst).Nodup)
    (fuel : Nat) (rest : List Nat) (pos : Nat)
    (hf : (fieldTextSep sep keyBody text x ++ itemsTail pad (spaces m ++ [0x7D])
      (more.map (fieldTextSep sep keyBody text))).length ≤ fuel) :
    ∃ vs q, readFields fuel depth (fieldTextSep sep keyBody text x ++
        itemsTail pad (spaces m ++ [0x7D]) (more.map (fieldTextSep sep keyBody text)) ++ rest)
        pos acc = .ok (.obj (acc ++ ((x :: more).map Prod.fst).zip vs), rest, q) ∧
      List.Forall₂ (fun y v => R y.2 v) (x :: more) vs := by
  induction more generalizing x acc fuel pos with
  | nil =>
    obtain ⟨hx, hkey⟩ := hi x (List.mem_cons_self ..)
    obtain ⟨fuel, rfl⟩ : ∃ k, fuel = k + 1 :=
      ⟨fuel - 1, by simp [itemsTail, fieldTextSep] at hf; omega⟩
    obtain ⟨qk, hk⟩ := hkey pos
      (0x3A :: (sep ++ (text x.2 ++ (0x0A :: (spaces m ++ 0x7D :: rest))))) (pos + 1)
    obtain ⟨v, q, hv, hR⟩ := hx.reads fuel (0x0A :: (spaces m ++ 0x7D :: rest))
      (qk + 1 + sep.length) (by simp [itemsTail, fieldTextSep] at hf; omega) rfl
    have hfresh : Value.setField acc x.1 v = acc ++ [(x.1, v)] := by
      apply setField_fresh
      intro hmem
      exact (List.nodup_append.mp hnd).2.2 _ hmem _ (List.mem_singleton_self _) rfl
    refine ⟨[v], q + 1 + m + 1, ?_, .cons hR .nil⟩
    simp only [fieldTextSep, itemsTail, List.map_nil, List.append_assoc, List.cons_append]
    simp [readFields, hk, skipSpace_stop 0x3A _ _ (by decide), skipSpace_blanks sep _ _ hsep,
      skipSpace_onto hx, hv, skipSpace_line _ (spaces_blank m) 0x7D rest (by decide), hfresh,
      bind, Except.bind]
  | cons y more ih =>
    obtain ⟨hx, hkey⟩ := hi x (List.mem_cons_self ..)
    obtain ⟨fuel, rfl⟩ : ∃ k, fuel = k + 1 :=
      ⟨fuel - 1, by simp [itemsTail, fieldTextSep] at hf; omega⟩
    -- everything after the first field's value
    generalize hafter : 0x2C :: 0x0A :: (pad ++ (fieldTextSep sep keyBody text y ++
      (itemsTail pad (spaces m ++ [0x7D]) (more.map (fieldTextSep sep keyBody text)) ++ rest))) =
      after
    obtain ⟨qk, hk⟩ := hkey pos (0x3A :: (sep ++ (text x.2 ++ after))) (pos + 1)
    obtain ⟨v, q, hv, hR⟩ := hx.reads fuel after (qk + 1 + sep.length)
      (by simp [itemsTail, fieldTextSep] at hf; omega) (by rw [← hafter]; rfl)
    have hfresh : Value.setField acc x.1 v = acc ++ [(x.1, v)] := by
      apply setField_fresh
      intro hmem
      exact (List.nodup_append.mp hnd).2.2 _ hmem _ (List.mem_cons_self ..) rfl
    have hnd' : ((acc ++ [(x.1, v)]).map Prod.fst ++ (y :: more).map Prod.fst).Nodup := by
      simpa using hnd
    obtain ⟨vs, q', hvs, hF⟩ := ih y (fun z hz => hi z (List.mem_cons_of_mem _ hz))
      (acc ++ [(x.1, v)]) hnd' fuel (q + 1 + 1 + pad.length)
      (by simp [itemsTail, fieldTextSep] at hf ⊢; omega)
    refine ⟨v :: vs, q', ?_, .cons hR hF⟩
    subst hafter
    simp only [fieldTextSep, List.map_cons, itemsTail, List.append_assoc, List.cons_append,
      List.nil_append] at hk hv hvs ⊢
    simp [readFields, hk, skipSpace_stop 0x3A _ _ (by decide), skipSpace_blanks sep _ _ hsep,
      skipSpace_onto hx, hv, skipSpace_stop 0x2C _ _ (by decide),
      skipSpace_line _ hpad 0x22 _ (by decide), hfresh, hvs, bind, Except.bind]

/-- An object laid out one field per line, with distinct keys and the blanks `sep` after each
colon, is read back field by field in order. -/
theorem readsAt_objectSep {α : Type} (depth : Nat) (hd : depth < maxDepth) (pad : List Nat)
    (m : Nat) (hpad : ∀ c ∈ pad, isSpace c = true) (sep : List Nat)
    (hsep : ∀ c ∈ sep, isSpace c = true) (keyBody : Text → List Nat)
    (fields : List (Text × α)) (text : α → List Nat) (R : α → Value → Prop)
    (hi : ∀ y ∈ fields, ReadsAt (depth + 1) (text y.2) (R y.2) ∧ BodyReads (keyBody y.1) y.1)
    (hnd : (fields.map Prod.fst).Nodup) :
    ReadsAt depth (bracketed 0x7B pad (spaces m ++ [0x7D])
        (fields.map (fieldTextSep sep keyBody text)))
      (fun v => ∃ vs, v = .obj ((fields.map Prod.fst).zip vs) ∧
        List.Forall₂ (fun y v => R y.2 v) fields vs) := by
  have hd' : ¬ maxDepth ≤ depth := Nat.not_le.mpr hd
  cases fields with
  | nil =>
    refine ⟨⟨0x7B, _, rfl, by decide, by decide, by decide⟩, fun fuel rest pos hf _ => ?_⟩
    obtain ⟨fuel, rfl, -⟩ := fuel_succ (List.cons_ne_nil _ _) hf
    have hskip := skipSpace_line (0x0A :: spaces m)
      (fun c hc => by
        rcases List.mem_cons.mp hc with rfl | hc
        · rfl
        · exact spaces_blank m c hc) 0x7D rest (by decide) (pos + 1)
    refine ⟨_, pos + 1 + 1 + (m + 1) + 1, ?_, ⟨[], rfl, .nil⟩⟩
    simp only [List.map_nil, bracketed, List.cons_append, List.append_assoc] at hskip ⊢
    simp [readValue, hd', hskip]
  | cons x more =>
    refine ⟨⟨0x7B, _, rfl, by decide, by decide, by decide⟩, fun fuel rest pos hf _ => ?_⟩
    obtain ⟨fuel, rfl, hf⟩ := fuel_succ (List.cons_ne_nil _ _) hf
    obtain ⟨vs, q, hvs, hF⟩ := readFields_tail (depth + 1) sep hsep keyBody text R pad m hpad x
      more hi [] (by simpa using hnd) fuel rest (pos + 1 + 1 + pad.length)
      (by simp [bracketed] at hf ⊢; omega)
    refine ⟨.obj (((x :: more).map Prod.fst).zip vs), q, ?_, ⟨vs, rfl, hF⟩⟩
    simp only [List.map_cons, bracketed, List.cons_append, List.append_assoc, fieldTextSep,
      List.nil_append] at hvs ⊢
    simp [readValue, hd', skipSpace_line _ hpad 0x22 _ (by decide), hvs]

/-- An object laid out one field per line, with distinct keys, is read back field by field in
order. -/
theorem readsAt_object {α : Type} (depth : Nat) (hd : depth < maxDepth) (pad : List Nat)
    (m : Nat) (hpad : ∀ c ∈ pad, isSpace c = true) (keyBody : Text → List Nat)
    (fields : List (Text × α)) (text : α → List Nat) (R : α → Value → Prop)
    (hi : ∀ y ∈ fields, ReadsAt (depth + 1) (text y.2) (R y.2) ∧ BodyReads (keyBody y.1) y.1)
    (hnd : (fields.map Prod.fst).Nodup) :
    ReadsAt depth (bracketed 0x7B pad (spaces m ++ [0x7D]) (fields.map (fieldText keyBody text)))
      (fun v => ∃ vs, v = .obj ((fields.map Prod.fst).zip vs) ∧
        List.Forall₂ (fun y v => R y.2 v) fields vs) :=
  readsAt_objectSep depth hd pad m hpad [] (fun _ h => absurd h List.not_mem_nil) keyBody fields
    text R hi hnd

theorem parse_of_readsAt (text : List Nat) (P : Value → Prop) (h : ReadsAt 0 text P)
    (hb : ∀ c ∈ text.head?, c ≠ 0xFEFF) : ∃ v, parse text = .ok v ∧ P v := by
  obtain ⟨v, q, hv, hP⟩ := h.reads (3 * text.length + 3) [] 0 (by omega) rfl
  obtain ⟨c, r, hcr, -⟩ := h.start
  have hc : c ≠ 0xFEFF := hb c (by simp [hcr])
  refine ⟨v, ?_, hP⟩
  rw [List.append_nil] at hv
  have hskip : skipSpace text 0 = (text, 0) := by
    simpa using skipSpace_onto h [] 0
  unfold parse
  split
  · exact absurd (List.cons.inj hcr).1.symm hc
  · simp [hskip, hv, skipSpace]

end Tabula.Json
