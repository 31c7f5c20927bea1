import Tabula.Proofs.JsonReading
import Tabula.Table.Records

/-!
The record form in the reader's terms. A string is written code point by code point, as the
ASCII form writes it but for `/` and the delete character, and reads back as the same code
points when none is a surrogate or beyond `10FFFF` (`bodyReads_keyBody`). An array at any depth
and a row object are `bracketed` layouts (`arrayAt_points`, `rowObject_points`), so the reader's
container lemmas apply to them item by item.
-/

namespace Tabula.Table

open Json Text

/-! ### Strings -/

/-- The record form's code point reads back as itself: `/` and the delete character as written,
every other one as in the ASCII form, where no surrogate stands to be joined with the next one. -/
theorem readString_recordPoint (begin n : Nat) (more : List Nat) (pos : Nat) (acc : Array Nat)
    (hn : n < 0x110000) (hs : isSurrogate n = false) (hm : more ≠ []) :
    ∃ q, readString begin ((recordPoint n).map Char.toNat ++ more) pos acc =
      readString begin more q (acc.push n) := by
  unfold recordPoint
  by_cases h2F : n = 0x2F
  · subst h2F
    exact ⟨pos + 2, readString_escape begin 0x2F 0x2F more pos acc rfl⟩
  by_cases h7F : n = 0x7F
  · subst h7F
    exact ⟨pos + 1, readString_plain begin 0x7F more pos acc (by decide) (by decide) (by decide)⟩
  rw [if_neg (by simpa using h2F), if_neg (by simpa using h7F)]
  refine readString_asciiPoint begin n more pos acc hn hm fun hh => absurd hh ?_
  simp only [isSurrogate, Bool.and_eq_false_iff, decide_eq_false_iff_not] at hs
  simp only [isHigh, Bool.and_eq_true, decide_eq_true_eq]
  omega

theorem readString_recordPoints (begin : Nat) (ps rest : List Nat) (pos : Nat) (acc : Array Nat)
    (hp : ∀ n ∈ ps, n < 0x110000 ∧ isSurrogate n = false) :
    ∃ q, readString begin ((ps.flatMap recordPoint).map Char.toNat ++ 0x22 :: rest) pos acc =
      .ok (⟨acc.toList ++ ps⟩, rest, q) := by
  induction ps generalizing pos acc with
  | nil => exact ⟨pos + 1, by simpa using readString_close begin rest pos acc⟩
  | cons n ps ih =>
    obtain ⟨hn, hs⟩ := hp n (List.mem_cons_self ..)
    obtain ⟨q, hq⟩ := readString_recordPoint begin n
      ((ps.flatMap recordPoint).map Char.toNat ++ 0x22 :: rest) pos acc hn hs (by simp)
    obtain ⟨q', hq'⟩ := ih q (acc.push n) (fun m hm => hp m (List.mem_cons_of_mem _ hm))
    refine ⟨q', ?_⟩
    rw [List.flatMap_cons, List.map_append, List.append_assoc, hq, hq']
    simp

def keyBody (t : Text) : List Nat := (t.points.flatMap recordPoint).map Char.toNat

theorem bodyReads_keyBody (t : Text) (ht : ∀ n ∈ t.points, n < 0x110000 ∧ isSurrogate n = false) :
    BodyReads (keyBody t) t :=
  fun begin rest pos => readString_recordPoints begin t.points rest pos #[] ht

theorem recordString_points (t : Text) :
    (Text.ofString (recordString t)).points = 0x22 :: (keyBody t ++ [0x22]) := by
  simp [recordString, keyBody, Text.ofString_points]

theorem readsAt_recordString (depth : Nat) (t : Text)
    (ht : ∀ n ∈ t.points, n < 0x110000 ∧ isSurrogate n = false) :
    ReadsAt depth (Text.ofString (recordString t)).points (· = .str t) := by
  rw [recordString_points]
  exact readsAt_string depth _ t (bodyReads_keyBody t ht)

/-! ### Layout -/

@[simp] theorem ofString_append_points (a b : String) :
    (Text.ofString (a ++ b)).points = (Text.ofString a).points ++ (Text.ofString b).points := by
  simp [Text.ofString_points]

theorem pad_points (n : Nat) :
    (Text.ofString (String.ofList (List.replicate n ' '))).points = spaces n := by
  simp [Text.ofString_points, spaces]

/-- Items joined by a comma and a line feed, each after a padding, then a line feed and `close`:
the padding and the first item, then what `itemsTail` says. -/
theorem intercalate_points (pad : String) (close : List Nat) (t : String) (more : List String) :
    (Text.ofString (",\n".intercalate ((t :: more).map (pad ++ ·)))).points ++ 0x0A :: close =
      (Text.ofString pad).points ++ ((Text.ofString t).points ++
        itemsTail (Text.ofString pad).points close (more.map fun s => (Text.ofString s).points)) := by
  induction more generalizing t with
  | nil => simp [Text.ofString_points, itemsTail]
  | cons t' more ih =>
    have hsep : (Text.ofString ",\n").points = [0x2C, 0x0A] := rfl
    rw [List.map_cons, List.map_cons, String.intercalate_cons_cons, ofString_append_points,
      ofString_append_points, hsep, List.append_assoc, List.append_assoc, ← List.map_cons, ih]
    simp [itemsTail]

theorem arrayAt_points (depth : Nat) (items : List String) :
    (Text.ofString (arrayAt depth items)).points = bracketed 0x5B (spaces (2 * (depth + 1)))
      (spaces (2 * depth) ++ [0x5D]) (items.map fun s => (Text.ofString s).points) := by
  have hopen : (Text.ofString "[\n").points = [0x5B, 0x0A] := rfl
  have hnl : (Text.ofString "\n").points = [0x0A] := rfl
  have hclose : (Text.ofString "]").points = [0x5D] := rfl
  cases items with
  | nil =>
    simp only [arrayAt, ofString_append_points, pad_points, hclose, List.map_nil, bracketed]
    rfl
  | cons t more =>
    have key := intercalate_points (String.ofList (List.replicate (2 * (depth + 1)) ' '))
      (spaces (2 * depth) ++ [0x5D]) t more
    rw [pad_points] at key
    simp only [arrayAt, ofString_append_points, hopen, hnl, hclose, pad_points, List.append_assoc,
      List.cons_append, List.nil_append]
    rw [key, List.map_cons, bracketed, List.append_assoc]

theorem rowObject_points (names : List Text) (cells : List Cell) :
    (Text.ofString (rowObject names cells)).points = bracketed 0x7B (spaces 4) (spaces 2 ++ [0x7D])
      ((names.zip cells).map (fieldText keyBody fun c => (Text.ofString (cellJson 2 c)).points)) := by
  have hopen : (Text.ofString "\x7b\n").points = [0x7B, 0x0A] := rfl
  have hclose : (Text.ofString "\n  \x7d").points = 0x0A :: (spaces 2 ++ [0x7D]) := rfl
  have hpad : (Text.ofString "    ").points = spaces 4 := rfl
  -- each field is the padding before the key, the colon and the value
  have hfields : ((names.zip cells).map fun y => "    " ++ recordString y.1 ++ ":" ++ cellJson 2 y.2) =
      ((names.zip cells).map fun y => recordString y.1 ++ ":" ++ cellJson 2 y.2).map ("    " ++ ·) := by
    simp [Function.comp_def, String.append_assoc]
  have hfield (y : Text × Cell) : (Text.ofString (recordString y.1 ++ ":" ++ cellJson 2 y.2)).points =
      fieldText keyBody (fun c => (Text.ofString (cellJson 2 c)).points) y := by
    simp [fieldText, recordString_points]
    rfl
  cases hz : names.zip cells with
  | nil =>
    simp only [rowObject, hz, List.map_nil]
    rfl
  | cons x more =>
    have key := intercalate_points "    " (spaces 2 ++ [0x7D])
      (recordString x.1 ++ ":" ++ cellJson 2 x.2)
      (more.map fun y => recordString y.1 ++ ":" ++ cellJson 2 y.2)
    change (Text.ofString ("\x7b\n" ++ ",\n".intercalate ((names.zip cells).map fun y =>
      "    " ++ recordString y.1 ++ ":" ++ cellJson 2 y.2) ++ "\n  \x7d")).points = _
    rw [hfields, hz, List.map_cons, ofString_append_points, ofString_append_points, hopen, hclose,
      List.append_assoc, key, hpad, hfield, List.map_map]
    simp only [List.map_cons, bracketed, List.cons_append, List.nil_append, List.append_assoc,
      Function.comp_def, hfield]

end Tabula.Table
