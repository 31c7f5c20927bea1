import Tabula.Link

/-!
Download links and their base64 text. Each group of three bytes is written as four alphabet
characters, so the text has four characters per started group, the last group padded with `=` up
to four (`encodeGroups_length`, `encodeGroups_layout`), and reading the text back gives exactly the
bytes (`decode_encode`). A link is its fixed head, the base64 text, the file name as text and the
label, where the media type and label follow the file type: `csv` and `json` each pick their own,
anything else the generic one (`downloadLink_spells_data`).
-/

namespace Tabula.Text.Base64

theorem value?_digit {n : Nat} (h : n < 64) : value? (digit n) = some n := by
  have table : ∀ i : Fin 64, value? (digit i) = some i := by decide +kernel
  exact table ⟨n, h⟩

theorem digit_mem {n : Nat} (h : n < 64) : digit n ∈ alphabet := by
  have table : ∀ i : Fin 64, digit i ∈ alphabet := by decide +kernel
  exact table ⟨n, h⟩

def padding (n : Nat) : Nat := (3 - n % 3) % 3

theorem encodeGroups_length (bs : List UInt8) :
    (encodeGroups bs).length = 4 * ((bs.length + 2) / 3) := by
  fun_induction encodeGroups bs with
  | case1 => rfl
  | case2 | case3 => simp
  | case4 a b c rest n ih =>
    simp only [List.length_cons, ih]
    omega

theorem encodeGroups_layout (bs : List UInt8) :
    ∃ body, encodeGroups bs = body ++ List.replicate (padding bs.length) '=' ∧
      ∀ c ∈ body, c ∈ alphabet := by
  have hsix : ∀ n : Nat, n / 4096 % 64 < 64 ∧ n / 64 % 64 < 64 ∧ n % 64 < 64 :=
    fun n => ⟨Nat.mod_lt _ (by decide), Nat.mod_lt _ (by decide), Nat.mod_lt _ (by decide)⟩
  fun_induction encodeGroups bs with
  | case1 => exact ⟨[], rfl, by simp⟩
  | case2 a n =>
    have ha := a.toNat_lt
    refine ⟨[digit (n / 262144), digit (n / 4096 % 64)], rfl, ?_⟩
    simp only [List.mem_cons, List.not_mem_nil, or_false]
    rintro c (rfl | rfl)
    · exact digit_mem (by omega)
    · exact digit_mem (hsix n).1
  | case3 a b n =>
    have ha := a.toNat_lt
    have hb := b.toNat_lt
    refine ⟨[digit (n / 262144), digit (n / 4096 % 64), digit (n / 64 % 64)], rfl, ?_⟩
    simp only [List.mem_cons, List.not_mem_nil, or_false]
    rintro c (rfl | rfl | rfl)
    · exact digit_mem (by omega)
    · exact digit_mem (hsix n).1
    · exact digit_mem (hsix n).2.1
  | case4 a b c rest n ih =>
    obtain ⟨body, hbody, hmem⟩ := ih
    have ha := a.toNat_lt
    have hb := b.toNat_lt
    have hc := c.toNat_lt
    refine ⟨digit (n / 262144) :: digit (n / 4096 % 64) :: digit (n / 64 % 64) ::
      digit (n % 64) :: body, ?_, ?_⟩
    · rw [hbody]
      simp only [List.length_cons, padding, List.cons_append, List.cons.injEq,
        List.append_cancel_left_eq, true_and]
      congr 1
      omega
    · simp only [List.mem_cons]
      rintro x (rfl | rfl | rfl | rfl | hx)
      · exact digit_mem (by omega)
      · exact digit_mem (hsix n).1
      · exact digit_mem (hsix n).2.1
      · exact digit_mem (hsix n).2.2
      · exact hmem x hx

theorem value?_pad : value? '=' = none := rfl

theorem toUInt8_eq {a : UInt8} {n : Nat} (h : n % 256 = a.toNat) : n.toUInt8 = a :=
  UInt8.toNat_inj.1 (by simpa using h)

/-- Reading the six-bit values of the text back gives the bytes: a full group's four values make
its three bytes again, and the values of a short group make its one or two. -/
theorem bytesOf_encodeGroups (bs : List UInt8) :
    bytesOf ((encodeGroups bs).filterMap value?) = bs := by
  have hsix : ∀ n : Nat, n / 4096 % 64 < 64 ∧ n / 64 % 64 < 64 ∧ n % 64 < 64 :=
    fun n => ⟨Nat.mod_lt _ (by decide), Nat.mod_lt _ (by decide), Nat.mod_lt _ (by decide)⟩
  fun_induction encodeGroups bs with
  | case1 => rfl
  | case2 a n =>
    have ha := a.toNat_lt
    simp only [List.filterMap_cons, value?_digit (show n / 262144 < 64 by omega),
      value?_digit (hsix n).1, value?_pad, List.filterMap_nil]
    simp only [bytesOf, List.cons.injEq, and_true]
    exact toUInt8_eq (by omega)
  | case3 a b n =>
    have ha := a.toNat_lt
    have hb := b.toNat_lt
    simp only [List.filterMap_cons, value?_digit (show n / 262144 < 64 by omega),
      value?_digit (hsix n).1, value?_digit (hsix n).2.1, value?_pad, List.filterMap_nil]
    simp only [bytesOf, List.cons.injEq, and_true]
    exact ⟨toUInt8_eq (by omega), toUInt8_eq (by omega)⟩
  | case4 a b c rest n ih =>
    have ha := a.toNat_lt
    have hb := b.toNat_lt
    have hc := c.toNat_lt
    simp only [List.filterMap_cons, value?_digit (show n / 262144 < 64 by omega),
      value?_digit (hsix n).1, value?_digit (hsix n).2.1, value?_digit (hsix n).2.2]
    simp only [bytesOf, ih, List.cons.injEq, and_true]
    -- the four values put together are the group's 24 bits again
    have hn : n / 262144 * 262144 + n / 4096 % 64 * 4096 + n / 64 % 64 * 64 + n % 64 = n := by
      omega
    rw [hn]
    exact ⟨toUInt8_eq (by omega), toUInt8_eq (by omega), toUInt8_eq (by omega)⟩

theorem decode_encode (bs : List UInt8) : decode (encode bs) = bs := by
  rw [decode, encode, String.toList_ofList, bytesOf_encodeGroups]

end Tabula.Text.Base64

namespace Tabula

open Json

theorem linkKind_str (t : Text) :
    linkKind (.str t) =
      if t = Text.ofString "csv" then ("file/csv", "Download CSV file")
      else if t = Text.ofString "json" then ("application/json", "Download JSON file")
      else ("application/octet-stream", "Download file") := by
  have heq : ∀ s : String, t.eqString s = decide (t = Text.ofString s) := by
    intro s
    rw [Text.eqString, Bool.eq_iff_iff, beq_iff_eq, decide_eq_true_iff]
    cases t
    simp [Text.ofString]
  simp only [linkKind, heq, decide_eq_true_eq]

example : linkKind (.str (Text.ofString "csv")) = ("file/csv", "Download CSV file") := rfl

/-- The media type and label of a link: those of `csv` and `json` exactly for these two file
types, the generic ones for every other value. -/
theorem linkKind_cases (fileType : Value) :
    (linkKind fileType = ("file/csv", "Download CSV file") ↔ fileType = Value.ofString "csv") ∧
    (linkKind fileType = ("application/json", "Download JSON file") ↔
      fileType = Value.ofString "json") ∧
    (linkKind fileType = ("application/octet-stream", "Download file") ↔
      fileType ≠ Value.ofString "csv" ∧ fileType ≠ Value.ofString "json") := by
  cases fileType with
  | str t =>
    have hne : Text.ofString "csv" ≠ Text.ofString "json" := by decide
    rw [linkKind_str]
    by_cases hc : t = Text.ofString "csv"
    · subst hc
      simp [Value.ofString, hne]
    · by_cases hj : t = Text.ofString "json"
      · subst hj
        simp [Value.ofString, hne.symm]
      · simp [Value.ofString, hc, hj]
  | null | bool _ | int _ | float _ | arr _ | obj _ =>
    simp [linkKind, Value.ofString]

/-- A download link is its head with the media type, the base64 text of the data, the file name as
text and the label, where the head and label are the `csv` ones exactly when the file type is
`csv`, the `json` ones exactly when it is `json`, and the generic ones otherwise. The base64 text
is alphabet characters followed by its `=` padding, four characters per started group of three
bytes, and it reads back as the data. -/
theorem downloadLink_spells_data (data : List UInt8) (filename fileType : Value) :
    downloadLink data filename fileType =
      Text.ofString ("<a href=\"data:" ++ (linkKind fileType).1 ++ ";base64," ++
        Text.Base64.encode data ++ "\" download=\"") ++ filename.display ++
        Text.ofString ("\">" ++ (linkKind fileType).2 ++ "</a>") ∧
    (∃ body, (Text.Base64.encode data).toList =
        body ++ List.replicate (Text.Base64.padding data.length) '=' ∧
      ∀ c ∈ body, c ∈ Text.Base64.alphabet) ∧
    (Text.Base64.encode data).length = 4 * ((data.length + 2) / 3) ∧
    Text.Base64.decode (Text.Base64.encode data) = data ∧
    (linkKind fileType = ("file/csv", "Download CSV file") ↔ fileType = Value.ofString "csv") ∧
    (linkKind fileType = ("application/json", "Download JSON file") ↔
      fileType = Value.ofString "json") ∧
    (linkKind fileType = ("application/octet-stream", "Download file") ↔
      fileType ≠ Value.ofString "csv" ∧ fileType ≠ Value.ofString "json") := by
  refine ⟨rfl, ?_, ?_, Text.Base64.decode_encode data, linkKind_cases fileType⟩
  · rw [Text.Base64.encode, String.toList_ofList]
    exact Text.Base64.encodeGroups_layout data
  · rw [Text.Base64.encode, String.length_ofList, Text.Base64.encodeGroups_length]

end Tabula
