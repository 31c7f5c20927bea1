import Mathlib.Data.List.Nodup
import Mathlib.Data.Nat.Find
import Tabula.Proofs.ProcessAnswer

/-!
What a frame read from CSV text is like: its column names are pairwise distinct, every column
has one cell per row, and every column holds the cells its kind allows (`readTable_names_nodup`,
`readTable_rectangular`, `readTable_shaped`).

Renaming visits each position of the header once (`dedupe`). `Renamed` is what the visited
positions keep: their names are pairwise distinct, and a name has a positive count exactly when
a visited position carries it. A position whose name is already counted looks for the first
`name.k` that no position holds; there is one within as many tries as there are names, so the
fuel of the search never runs out (`freeName_stops`).
-/

namespace Tabula.Csv

/-! ## Counts of names -/

theorem countOf_setCount_self (counts : List (String × Nat)) (name : String) (n : Nat) :
    countOf (setCount counts name n) name = n := by
  simp [countOf, setCount]

private theorem find?_filter_ne (counts : List (String × Nat)) {name other : String}
    (h : other ≠ name) :
    (counts.filter (·.1 != name)).find? (·.1 == other) = counts.find? (·.1 == other) := by
  induction counts with
  | nil => rfl
  | cons p counts ih =>
    obtain ⟨k, v⟩ := p
    by_cases hk : k = name
    · subst hk
      have hko : (k == other) = false := by simp [Ne.symm h]
      simp [hko, ih]
    · by_cases hko : k = other
      · simp [hko, h]
      · simp [hk, hko, ih]

theorem countOf_setCount_ne (counts : List (String × Nat)) {name other : String} (n : Nat)
    (h : other ≠ name) : countOf (setCount counts name n) other = countOf counts other := by
  have hne : (name == other) = false := by simp [Ne.symm h]
  simp only [countOf, setCount, List.find?_cons, hne, find?_filter_ne counts h]

theorem setCount_setCount (counts : List (String × Nat)) (name : String) (a b : Nat) :
    setCount (setCount counts name a) name b = setCount counts name b := by
  simp [setCount, List.filter_filter]

/-! ## The search for a free suffix -/

def suffixed (old : String) (k : Nat) : String := old ++ "." ++ toString k

theorem suffixed_injective (old : String) : Function.Injective (suffixed old) := by
  intro a b h
  have hs : toString a = toString b := by
    simpa only [suffixed, String.append_assoc, String.append_right_inj] using h
  have hd : Nat.toDigits 10 a = Nat.toDigits 10 b := by
    simpa only [Nat.toString_eq_repr, Nat.toList_repr] using congrArg String.toList hs
  simpa using congrArg (fun ds => Nat.ofDigitChars 10 ds 0) hd

theorem suffixed_ne (old : String) (k : Nat) : suffixed old k ≠ old := by
  intro h
  have hlen := congrArg String.length h
  have hdot : ".".length = 1 := rfl
  simp only [suffixed, String.length_append, hdot] at hlen
  omega

theorem freeName_zero (header : Array String) (old : String) (fuel : Nat)
    (counts : List (String × Nat)) (col : String) :
    freeName header old fuel counts col 0 = (col, 0, counts) := by
  cases fuel <;> simp [freeName]

/-- A chain of `d` suffixes that the header holds, ended by one it does not: the search takes
them in turn and stops at the last, counting `old` up to it. -/
theorem freeName_chain (header : Array String) (old : String) :
    ∀ (d cur fuel : Nat) (counts : List (String × Nat)) (col : String), 0 < cur →
      (∀ j < d, suffixed old (cur + j) ∈ header.toList) →
      suffixed old (cur + d) ∉ header.toList → d + 1 ≤ fuel →
      (∀ k, k ≠ old → 0 < countOf counts k → k ∈ header.toList) →
      freeName header old fuel counts col cur =
        (suffixed old (cur + d), 0, setCount counts old (cur + d + 1)) := by
  intro d
  induction d with
  | zero =>
    intro cur fuel counts col hcur _ hfree hfuel hk
    obtain ⟨fuel, rfl⟩ : ∃ f, fuel = f + 1 := ⟨fuel - 1, by omega⟩
    have hnot : header.contains (suffixed old cur) = false :=
      Bool.eq_false_iff.2 fun hc => hfree (Array.mem_def.1 (Array.contains_iff_mem.1 hc))
    have hzero : countOf (setCount counts old (cur + 1)) (suffixed old cur) = 0 := by
      rw [countOf_setCount_ne _ _ (suffixed_ne old cur)]
      by_contra hpos
      exact hfree (hk _ (suffixed_ne old cur) (Nat.pos_of_ne_zero hpos))
    have hc : (cur == 0) = false := by simp; omega
    simp only [freeName, hc, Bool.false_eq_true, if_false]
    rw [show old ++ "." ++ toString cur = suffixed old cur from rfl, hnot]
    simp only [Bool.false_eq_true, if_false, hzero, freeName_zero, Nat.add_zero]
  | succ d ih =>
    intro cur fuel counts col hcur hchain hfree hfuel hk
    obtain ⟨fuel, rfl⟩ : ∃ f, fuel = f + 1 := ⟨fuel - 1, by omega⟩
    have hin : header.contains (suffixed old cur) = true :=
      Array.contains_iff_mem.2 (Array.mem_def.2 (by simpa using hchain 0 (by omega)))
    have hc : (cur == 0) = false := by simp; omega
    have hk' : ∀ k, k ≠ old → 0 < countOf (setCount counts old (cur + 1)) k →
        k ∈ header.toList := by
      intro k hko hpos
      rw [countOf_setCount_ne _ _ hko] at hpos
      exact hk k hko hpos
    have hrest := ih (cur + 1) fuel (setCount counts old (cur + 1)) (suffixed old cur)
      (by omega) (fun j hj => by simpa [Nat.add_assoc, Nat.add_comm 1 j] using hchain (j + 1) (by omega))
      (by simpa [Nat.add_assoc, Nat.add_comm 1 d] using hfree) (by omega) hk'
    simp only [freeName, hc, Bool.false_eq_true, if_false]
    rw [show old ++ "." ++ toString cur = suffixed old cur from rfl, hin, if_pos rfl, hrest,
      setCount_setCount]
    simp only [Nat.add_assoc, Nat.add_comm 1 d]

/-- Among `header.size + 1` suffixes of `old` from `cur` on, one is free, and the first free one
comes after a chain of suffixes the header holds. -/
theorem exists_free_suffix (header : Array String) (old : String) (cur : Nat) :
    ∃ d ≤ header.size, (∀ j < d, suffixed old (cur + j) ∈ header.toList) ∧
      suffixed old (cur + d) ∉ header.toList := by
  classical
  have hsome : ∃ j ≤ header.size, suffixed old (cur + j) ∉ header.toList := by
    by_contra hall
    push Not at hall
    have hnodup : ((List.range (header.size + 1)).map fun j => suffixed old (cur + j)).Nodup :=
      List.Nodup.map (fun a b h => by simpa using suffixed_injective old h) List.nodup_range
    have hle := hnodup.length_le_of_subset fun s hs => by
      obtain ⟨j, hj, rfl⟩ := List.mem_map.1 hs
      exact hall j (by simpa [Nat.lt_succ_iff] using hj)
    simp only [List.length_map, List.length_range, Array.length_toList] at hle
    omega
  obtain ⟨j₀, hj₀, hfree₀⟩ := hsome
  have hex : ∃ j, suffixed old (cur + j) ∉ header.toList := ⟨j₀, hfree₀⟩
  refine ⟨Nat.find hex, Nat.le_trans (Nat.find_min' hex hfree₀) hj₀, fun j hj => ?_, Nat.find_spec hex⟩
  by_contra hj'
  exact absurd (Nat.find_min' hex hj') (by omega)

theorem freeName_stops {header : Array String} {old : String} {cur fuel : Nat}
    {counts : List (String × Nat)} (hcur : 0 < cur) (hfuel : header.size + 1 ≤ fuel)
    (hk : ∀ k, k ≠ old → 0 < countOf counts k → k ∈ header.toList) :
    ∃ d, freeName header old fuel counts old cur =
        (suffixed old (cur + d), 0, setCount counts old (cur + d + 1)) ∧
      suffixed old (cur + d) ∉ header.toList := by
  obtain ⟨d, hd, hchain, hfree⟩ := exists_free_suffix header old cur
  exact ⟨d, freeName_chain header old d cur fuel counts old hcur hchain hfree (by omega) hk, hfree⟩

/-! ## Renaming the header -/

def renameAt (fuel : Nat) (acc : Array String × List (String × Nat)) (i : Nat) :
    Array String × List (String × Nat) :=
  let old := acc.1.getD i ""
  let r := freeName acc.1 old fuel acc.2 old (countOf acc.2 old)
  (acc.1.set! i r.1, setCount r.2.2 r.1 (r.2.1 + 1))

theorem dedupe_eq (order : List Nat) (header : Array String) :
    dedupe order header =
      (order.foldl (renameAt (4 * (header.size + 1) * (header.size + 1))) (header, [])).1 := rfl

private theorem getD_set! (h : Array String) {i : Nat} (j : Nat) (col : String)
    (hi : i < h.size) : (h.set! i col).getD j "" = if j = i then col else h.getD j "" := by
  by_cases hji : j = i
  · subst hji
    simp [hi]
  · simp [hji, Array.getElem?_setIfInBounds_ne (Ne.symm hji)]

private theorem getD_mem {h : Array String} {j : Nat} (hj : j < h.size) :
    h.getD j "" ∈ h.toList := by
  simp [hj]

/-- What renaming the positions `done` of `h` keeps: their names are pairwise distinct, each has a
positive count, and only their names have one. -/
structure Renamed (h : Array String) (counts : List (String × Nat)) (done : List Nat) : Prop where
  distinct : (done.map (h.getD · "")).Nodup
  counted : ∀ j ∈ done, 0 < countOf counts (h.getD j "")
  named : ∀ k, 0 < countOf counts k → ∃ j ∈ done, h.getD j "" = k

theorem renamed_init (header : Array String) : Renamed header [] [] where
  distinct := List.nodup_nil
  counted _ hj := nomatch hj
  named _ hpos := absurd hpos (by simp [countOf])

theorem Renamed.recount {h : Array String} {counts : List (String × Nat)} {done : List Nat}
    {old : String} {m : Nat} (hinv : Renamed h counts done) (hold : 0 < countOf counts old)
    (hm : 0 < m) : Renamed h (setCount counts old m) done where
  distinct := hinv.distinct
  counted j hj := by
    by_cases hjo : h.getD j "" = old
    · rw [hjo, countOf_setCount_self]
      exact hm
    · rw [countOf_setCount_ne _ _ hjo]
      exact hinv.counted j hj
  named k hpos := by
    by_cases hko : k = old
    · exact hko ▸ hinv.named old hold
    · rw [countOf_setCount_ne _ _ hko] at hpos
      exact hinv.named k hpos

theorem Renamed.extend {h : Array String} {counts : List (String × Nat)} {done : List Nat}
    {i : Nat} {col : String} (hinv : Renamed h counts done) (hi : i < h.size) (hnew : i ∉ done)
    (hfresh : ∀ j ∈ done, h.getD j "" ≠ col) :
    Renamed (h.set! i col) (setCount counts col 1) (done ++ [i]) := by
  have hkeep : ∀ j ∈ done, (h.set! i col).getD j "" = h.getD j "" := fun j hj => by
    rw [getD_set! h j col hi, if_neg (fun (hji : j = i) => hnew (hji ▸ hj))]
  have hself : (h.set! i col).getD i "" = col := by
    rw [getD_set! h i col hi, if_pos rfl]
  refine ⟨?_, ?_, ?_⟩
  · have hmap : (done ++ [i]).map ((h.set! i col).getD · "") = done.map (h.getD · "") ++ [col] := by
      rw [List.map_append, List.map_congr_left hkeep]
      simp only [List.map_cons, List.map_nil, hself]
    rw [hmap, List.nodup_append]
    refine ⟨hinv.distinct, List.nodup_singleton col, ?_⟩
    intro a ha b hb
    obtain ⟨j, hj, rfl⟩ := List.mem_map.1 ha
    rw [List.mem_singleton.1 hb]
    exact hfresh j hj
  · intro j hj
    rcases List.mem_append.1 hj with hj | hj
    · rw [hkeep j hj, countOf_setCount_ne _ _ (hfresh j hj)]
      exact hinv.counted j hj
    · rw [List.mem_singleton.1 hj, hself, countOf_setCount_self]
      exact Nat.one_pos
  · intro k hpos
    by_cases hk : k = col
    · exact ⟨i, by simp, by rw [hself, hk]⟩
    · rw [countOf_setCount_ne _ _ hk] at hpos
      obtain ⟨j, hj, rfl⟩ := hinv.named k hpos
      exact ⟨j, List.mem_append_left _ hj, hkeep j hj⟩

/-- Renaming a position not yet visited keeps the invariant: a name not yet counted stays, and a
counted one takes the first free suffix. -/
theorem renameAt_renamed {fuel : Nat} {h : Array String} {counts : List (String × Nat)}
    {done : List Nat} {i : Nat} (hinv : Renamed h counts done) (hdone : ∀ j ∈ done, j < h.size)
    (hi : i < h.size) (hnew : i ∉ done) (hfuel : h.size + 1 ≤ fuel) :
    Renamed (renameAt fuel (h, counts) i).1 (renameAt fuel (h, counts) i).2 (done ++ [i]) := by
  have hk : ∀ k, 0 < countOf counts k → k ∈ h.toList := fun k hpos => by
    obtain ⟨j, hj, rfl⟩ := hinv.named k hpos
    exact getD_mem (hdone j hj)
  cases hcur : countOf counts (h.getD i "") with
  | zero =>
    have hr : renameAt fuel (h, counts) i =
        (h.set! i (h.getD i ""), setCount counts (h.getD i "") 1) := by
      simp only [renameAt, hcur, freeName_zero]
    rw [hr]
    refine hinv.extend hi hnew fun j hj he => ?_
    have := hinv.counted j hj
    rw [he, hcur] at this
    exact absurd this (Nat.lt_irrefl 0)
  | succ m =>
    obtain ⟨d, hd, hfree⟩ := @freeName_stops h (h.getD i "") (m + 1) fuel counts
      (Nat.succ_pos m) hfuel
      fun k _ hpos => hk k hpos
    have hr : renameAt fuel (h, counts) i =
        (h.set! i (suffixed (h.getD i "") (m + 1 + d)),
          setCount (setCount counts (h.getD i "") (m + 1 + d + 1))
            (suffixed (h.getD i "") (m + 1 + d)) 1) := by
      simp only [renameAt, hcur, hd]
    rw [hr]
    refine (hinv.recount (by omega) (Nat.succ_pos _)).extend hi hnew fun j hj he => hfree ?_
    rw [← he]
    exact getD_mem (hdone j hj)

theorem foldl_renameAt_renamed {fuel : Nat} :
    ∀ (order done : List Nat) (h : Array String) (counts : List (String × Nat)),
      Renamed h counts done → (done ++ order).Nodup → (∀ j ∈ done ++ order, j < h.size) →
      h.size + 1 ≤ fuel →
      Renamed (order.foldl (renameAt fuel) (h, counts)).1
          (order.foldl (renameAt fuel) (h, counts)).2 (done ++ order) ∧
        (order.foldl (renameAt fuel) (h, counts)).1.size = h.size := by
  intro order
  induction order with
  | nil => intro done h counts hinv _ _ _; exact ⟨by simpa using hinv, rfl⟩
  | cons i order ih =>
    intro done h counts hinv hnodup hbound hfuel
    have hi : i < h.size := hbound i (by simp)
    have hnew : i ∉ done := fun hd => by
      have := (List.nodup_append.1 hnodup).2.2 i hd i (by simp)
      exact this rfl
    have hstep := renameAt_renamed hinv
      (fun j hj => hbound j (List.mem_append_left _ hj)) hi hnew hfuel
    have hsize : (renameAt fuel (h, counts) i).1.size = h.size := by
      simp [renameAt]
    rw [List.foldl_cons]
    have hrest := ih (done ++ [i]) (renameAt fuel (h, counts) i).1 (renameAt fuel (h, counts) i).2
      hstep (by simpa using hnodup) (fun j hj => by rw [hsize]; exact hbound j (by simpa using hj))
      (by rw [hsize]; exact hfuel)
    simp only [Prod.eta, List.append_assoc, List.singleton_append, hsize] at hrest
    exact hrest

private theorem toList_eq_map_getD (h : Array String) :
    h.toList = (List.range h.size).map (h.getD · "") := by
  apply List.ext_getElem
  · simp
  · intro k h1 h2
    have hk : k < h.size := by simpa using h1
    simp [hk]

theorem dedupe_nodup {order : List Nat} {header : Array String}
    (horder : order.Perm (List.range header.size)) : (dedupe order header).toList.Nodup := by
  have hfuel : header.size + 1 ≤ 4 * (header.size + 1) * (header.size + 1) :=
    Nat.le_mul_of_pos_left _ (by omega)
  obtain ⟨hinv, hsize⟩ := foldl_renameAt_renamed order [] header [] (renamed_init header)
    (by simpa using horder.nodup_iff.2 List.nodup_range)
    (fun j hj => by simpa using horder.subset (by simpa using hj)) hfuel
  rw [dedupe_eq, toList_eq_map_getD, hsize]
  exact (horder.map _).nodup_iff.1 (by simpa using hinv.distinct)

theorem columnNames_nodup (fields : Array String) : (columnNames fields).toList.Nodup := by
  apply dedupe_nodup
  have hperm := List.filter_append_perm (fun i => !(fields.getD i "").isEmpty)
    (List.range fields.size)
  simpa using hperm

/-! ## Columns read from fields -/

theorem readInt64_length {fields : List String} {vals : List (Option Int)}
    (h : readInt64 fields = .ok vals) : vals.length = fields.length := by
  induction fields generalizing vals with
  | nil => cases h; rfl
  | cons s rest ih =>
    cases hr : readInt64 rest with
    | ok vs =>
      simp only [readInt64, hr] at h
      split at h
      · cases h
        simp [ih hr]
      · split at h <;> cases h
        simp [ih hr]
    | overflow | invalid =>
      simp only [readInt64, hr] at h
      split at h
      · cases h
      · split at h <;> cases h

theorem readInt_checked {lo hi v w : Int} {rest : Bool}
    (h : (if (decide (w < lo) || decide (w > hi)) = true then some none
      else if rest = true then some (some w) else none) = some (some v)) :
    lo ≤ v ∧ v ≤ hi := by
  by_cases hw : (decide (w < lo) || decide (w > hi)) = true
  · rw [if_pos hw] at h
    cases h
  · rw [if_neg hw] at h
    split at h
    · cases h
      simp only [Bool.or_eq_true, decide_eq_true_eq, not_or] at hw
      omega
    · cases h

theorem readInt_bounds {lo hi v : Int} {s : String} (h : readInt lo hi s = some (some v)) :
    lo ≤ v ∧ v ≤ hi := by
  unfold readInt at h
  dsimp only at h
  -- whatever the sign, the value is returned only after the range check
  split at h <;>
  · dsimp only at h
    split at h
    · cases h
    · exact readInt_checked h

theorem readInt64_bounds {fields : List String} {vals : List (Option Int)}
    (h : readInt64 fields = .ok vals) : ∀ n, some n ∈ vals → int64Min ≤ n ∧ n ≤ int64Max := by
  induction fields generalizing vals with
  | nil => cases h; simp
  | cons s rest ih =>
    cases hr : readInt64 rest with
    | ok vs =>
      simp only [readInt64, hr] at h
      split at h
      · cases h
        simpa using ih hr
      · split at h
        · cases h
        · cases h
        · next v hv =>
          cases h
          intro n hn
          rcases List.mem_cons.1 hn with hn | hn
          · cases hn
            exact readInt_bounds hv
          · exact ih hr n hn
    | overflow | invalid =>
      simp only [readInt64, hr] at h
      split at h
      · cases h
      · split at h <;> cases h

theorem readUInt64_length {fields : List String} {vals : List Nat} {big negative missing : Bool}
    (h : readUInt64 fields = .ok vals big negative missing) : vals.length = fields.length := by
  simp only [readUInt64] at h
  split at h
  · cases h
  · cases h
  · cases h
    simp

theorem intColumn_size (vals : List (Option Int)) : (intColumn vals).cells.size = vals.length := by
  unfold intColumn
  split <;> simp

theorem textColumn_size (mark : Bool) (fields : List String) :
    (textColumn mark fields).cells.size = fields.length := by
  simp [textColumn]

theorem boolColumn?_size {fields : List String} {c : Column} (h : boolColumn? fields = some c) :
    c.cells.size = fields.length := by
  simp only [boolColumn?] at h
  split at h
  · cases h
  · split at h <;> (cases h; simp)

theorem floatColumn?_size {fields : List String} {c : Column} (h : floatColumn? fields = some c) :
    c.cells.size = fields.length := by
  simp only [floatColumn?] at h
  split at h
  · cases h
  · cases h
    simp

theorem laterKinds_size (fields : List String) : (laterKinds fields).cells.size = fields.length := by
  unfold laterKinds
  split
  · exact boolColumn?_size ‹_›
  · split
    · exact floatColumn?_size ‹_›
    · exact textColumn_size true fields

theorem inferColumn_size (fields : List String) : (inferColumn fields).cells.size = fields.length := by
  unfold inferColumn
  split
  · next vals h => rw [intColumn_size, readInt64_length h]
  · exact laterKinds_size fields
  · split
    · exact textColumn_size true fields
    · exact laterKinds_size fields
    · next vals big negative missing h =>
      split
      · exact textColumn_size false fields
      · split
        · exact textColumn_size true fields
        · simp [readUInt64_length h]

/-! ## Tables read from text -/

/-- A table read from text: a header and rows, the columns named by the renamed header and each
read from the fields at its position. -/
theorem readTable_eq_ok {bytes : List UInt8} {f : Frame} (h : readTable bytes = .ok f) :
    ∃ (header : Array String) (rows : List (Array String)) (lead : Nat),
      f.height = rows.length ∧
      f.columns = (columnNames header).mapIdx fun j name =>
        (Text.ofString name, if rows.isEmpty then (⟨.object, #[]⟩ : Column)
          else inferColumn (rows.map fun r => r.getD (lead + j) "")) := by
  obtain ⟨_, -, h⟩ := Query.bind_eq_ok.1 h
  obtain ⟨recs, -, h⟩ := Query.bind_eq_ok.1 h
  split at h
  · cases h
  · next header rows _ =>
    cases h
    exact ⟨header, rows, _, rfl, rfl⟩

theorem readTable_names {bytes : List UInt8} {f : Frame} (h : readTable bytes = .ok f) :
    ∃ header : Array String, f.names = (columnNames header).toList.map Text.ofString := by
  obtain ⟨header, rows, lead, -, hcols⟩ := readTable_eq_ok h
  refine ⟨header, List.ext_getElem (by simp [Frame.names, hcols]) fun k h1 h2 => ?_⟩
  simp [Frame.names, hcols]

theorem ofString_injective : Function.Injective Text.ofString := by
  intro s t h
  have hpoints : s.toList.map Char.toNat = t.toList.map Char.toNat := congrArg Text.points h
  have hchars : s.toList = t.toList :=
    (List.map_injective_iff.2 fun a b hab => Char.toNat_inj.1 hab) hpoints
  exact String.toList_inj.1 hchars

theorem readTable_names_nodup {bytes : List UInt8} {f : Frame} (h : readTable bytes = .ok f) :
    f.names.Nodup := by
  obtain ⟨header, hnames⟩ := readTable_names h
  rw [hnames]
  exact (columnNames_nodup header).map ofString_injective

theorem readTable_rectangular {bytes : List UInt8} {f : Frame} (h : readTable bytes = .ok f) :
    ∀ p ∈ f.columns.toList, p.2.cells.size = f.height := by
  obtain ⟨header, rows, lead, hheight, hcols⟩ := readTable_eq_ok h
  intro p hp
  rw [hcols, Array.toList_mapIdx, List.mem_mapIdx] at hp
  obtain ⟨j, hj, rfl⟩ := hp
  rw [hheight]
  dsimp only
  split
  · next hempty => simp [List.isEmpty_iff.1 hempty]
  · simp [inferColumn_size]

end Tabula.Csv

namespace Tabula

/-- The cells a column read from text holds: integers in a column of 64-bit integers, in their
range when signed, doubles in a column of doubles, booleans in a boolean column, and in a mixed
column texts or booleans, never both, with missing values. -/
structure Column.Shaped (c : Column) : Prop where
  ints : c.kind = .int64 →
    ∀ x ∈ c.cells.toList, ∃ n, x = .int n ∧ Csv.int64Min ≤ n ∧ n ≤ Csv.int64Max
  uints : c.kind = .uint64 → ∀ x ∈ c.cells.toList, ∃ n, x = .int n
  floats : c.kind = .float64 → ∀ x ∈ c.cells.toList, ∃ y, x = .float y
  bools : c.kind = .bool → ∀ x ∈ c.cells.toList, ∃ b, x = .bool b
  mixed : c.kind = .object → (∀ x ∈ c.cells.toList, x = .missing ∨ ∃ t, x = .text t) ∨
    (∀ x ∈ c.cells.toList, x = .missing ∨ ∃ b, x = .bool b)

namespace Column.Shaped

variable {c : Column}

theorem of_ints (hk : c.kind = .int64)
    (h : ∀ x ∈ c.cells.toList, ∃ n, x = .int n ∧ Csv.int64Min ≤ n ∧ n ≤ Csv.int64Max) :
    c.Shaped where
  ints _ := h
  uints hu := by rw [hk] at hu; cases hu
  floats hf := by rw [hk] at hf; cases hf
  bools hb := by rw [hk] at hb; cases hb
  mixed ho := by rw [hk] at ho; cases ho

theorem of_uints (hk : c.kind = .uint64) (h : ∀ x ∈ c.cells.toList, ∃ n, x = .int n) :
    c.Shaped where
  ints hi := by rw [hk] at hi; cases hi
  uints _ := h
  floats hf := by rw [hk] at hf; cases hf
  bools hb := by rw [hk] at hb; cases hb
  mixed ho := by rw [hk] at ho; cases ho

theorem of_floats (hk : c.kind = .float64) (h : ∀ x ∈ c.cells.toList, ∃ y, x = .float y) :
    c.Shaped where
  ints hi := by rw [hk] at hi; cases hi
  uints hu := by rw [hk] at hu; cases hu
  floats _ := h
  bools hb := by rw [hk] at hb; cases hb
  mixed ho := by rw [hk] at ho; cases ho

theorem of_bools (hk : c.kind = .bool) (h : ∀ x ∈ c.cells.toList, ∃ b, x = .bool b) :
    c.Shaped where
  ints hi := by rw [hk] at hi; cases hi
  uints hu := by rw [hk] at hu; cases hu
  floats hf := by rw [hk] at hf; cases hf
  bools _ := h
  mixed ho := by rw [hk] at ho; cases ho

theorem of_mixed (hk : c.kind = .object)
    (h : (∀ x ∈ c.cells.toList, x = .missing ∨ ∃ t, x = .text t) ∨
      (∀ x ∈ c.cells.toList, x = .missing ∨ ∃ b, x = .bool b)) : c.Shaped where
  ints hi := by rw [hk] at hi; cases hi
  uints hu := by rw [hk] at hu; cases hu
  floats hf := by rw [hk] at hf; cases hf
  bools hb := by rw [hk] at hb; cases hb
  mixed _ := h

end Column.Shaped

namespace Csv

theorem textColumn_shaped (mark : Bool) (fields : List String) :
    (textColumn mark fields).Shaped := by
  refine Column.Shaped.of_mixed rfl (.inl fun x hx => ?_)
  simp only [textColumn, List.mem_map, List.toList_toArray] at hx
  obtain ⟨s, -, rfl⟩ := hx
  split
  · exact .inl rfl
  · exact .inr ⟨_, rfl⟩

theorem boolColumn?_shaped {fields : List String} {c : Column} (h : boolColumn? fields = some c) :
    c.Shaped := by
  simp only [boolColumn?] at h
  split at h
  · cases h
  · split at h
    · cases h
      refine Column.Shaped.of_mixed rfl (.inr fun x hx => ?_)
      simp only [List.mem_map] at hx
      obtain ⟨v, -, rfl⟩ := hx
      cases v with
      | some b => exact .inr ⟨b, rfl⟩
      | none => exact .inl rfl
    · cases h
      refine Column.Shaped.of_bools rfl fun x hx => ?_
      simp only [List.mem_map] at hx
      obtain ⟨v, -, rfl⟩ := hx
      exact ⟨_, rfl⟩

theorem floatColumn?_shaped {fields : List String} {c : Column} (h : floatColumn? fields = some c) :
    c.Shaped := by
  simp only [floatColumn?] at h
  split at h
  · cases h
  · cases h
    refine Column.Shaped.of_floats rfl fun x hx => ?_
    simp only [List.mem_map] at hx
    obtain ⟨v, -, rfl⟩ := hx
    exact ⟨_, rfl⟩

theorem intColumn_shaped {vals : List (Option Int)}
    (hb : ∀ n, some n ∈ vals → int64Min ≤ n ∧ n ≤ int64Max) : (intColumn vals).Shaped := by
  unfold intColumn
  split
  · refine Column.Shaped.of_floats rfl fun x hx => ?_
    simp only [List.mem_map] at hx
    obtain ⟨v, -, rfl⟩ := hx
    cases v with
    | some n => by_cases hn : (n == int64Min) = true <;> simp [hn]
    | none => exact ⟨_, rfl⟩
  · next hnone =>
    refine Column.Shaped.of_ints rfl fun x hx => ?_
    simp only [List.mem_map] at hx
    obtain ⟨v, hv, rfl⟩ := hx
    cases v with
    | some n => exact ⟨n, rfl, hb n hv⟩
    | none =>
      simp only [List.any_eq_true, Option.isNone_iff_eq_none, exists_eq_right] at hnone
      exact absurd hv hnone

theorem laterKinds_shaped (fields : List String) : (laterKinds fields).Shaped := by
  unfold laterKinds
  split
  · exact boolColumn?_shaped ‹_›
  · split
    · exact floatColumn?_shaped ‹_›
    · exact textColumn_shaped true fields

theorem inferColumn_shaped (fields : List String) : (inferColumn fields).Shaped := by
  unfold inferColumn
  split
  · exact intColumn_shaped (readInt64_bounds ‹_›)
  · exact laterKinds_shaped fields
  · split
    · exact textColumn_shaped true fields
    · exact laterKinds_shaped fields
    · split
      · exact textColumn_shaped false fields
      · split
        · exact textColumn_shaped true fields
        · refine Column.Shaped.of_uints rfl fun x hx => ?_
          simp only [List.mem_map] at hx
          obtain ⟨v, -, rfl⟩ := hx
          exact ⟨_, rfl⟩

theorem readTable_shaped {bytes : List UInt8} {f : Frame} (h : readTable bytes = .ok f) :
    ∀ p ∈ f.columns.toList, p.2.Shaped := by
  obtain ⟨header, rows, lead, -, hcols⟩ := readTable_eq_ok h
  intro p hp
  rw [hcols, Array.toList_mapIdx, List.mem_mapIdx] at hp
  obtain ⟨j, hj, rfl⟩ := hp
  dsimp only
  split
  · exact Column.Shaped.of_mixed rfl (.inl fun x hx => by simp at hx)
  · exact inferColumn_shaped _

end Csv

/-! ## Reading an export back -/

/-- The CSV export of a loaded table can read back with other rows: a row holding one space is
written as a line that reading passes over as blank, and a text holding a carriage return is
written without quotes, so reading ends the row there. -/
theorem csv_export_reads_back_other_rows :
    ((processedSession "a\n\" \"\nx\n").data.map (·.height)) = some 2 ∧
      csvTextOf ((processedSession "a\n\" \"\nx\n").step .exportCsv).2 =
        some (Text.ofString "a\n \nx\n") ∧
      (((processedSession "a\n\" \"\nx\n").step (.loadCsv "a\n \nx\n".toUTF8.toList)).1.data.map
        (·.height)) = some 1 ∧
      ((processedSession "a\n\"x\ry\"\n").data.map (·.height)) = some 1 ∧
      csvTextOf ((processedSession "a\n\"x\ry\"\n").step .exportCsv).2 =
        some (Text.ofString "a\nx\ry\n") ∧
      (((processedSession "a\n\"x\ry\"\n").step (.loadCsv "a\nx\ry\n".toUTF8.toList)).1.data.map
        (·.height)) = some 2 := by
  decide +kernel

end Tabula
