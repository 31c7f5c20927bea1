import Tabula.Proofs.LabelSort

/-!
Grouping rows by key columns. Each key column is coded by its sorted distinct values
(`SortedValues`): a row whose key cells are all present gets, under each key, the position of the
value its cell equals, and rows with a missing key cell get no codes (`rowCodes_present`,
`rowCodes_absent`). Codes compare as the rows' key tuples do under `tupleCmp`, the lexicographic
order of `classOrder` (`compare_codes`). The coded rows are sorted by their codes and split into
runs of equal codes (`codeRuns`), whose codes strictly increase (`codeRuns_sorted`). So grouping by
key columns of one class each never fails, and the groups it makes are the classes of rows with
equal key tuples, labelled by strictly increasing tuples (`GroupedBy`, `Grouping.build_grouped`).
-/

namespace Tabula

theorem Cell.isMissing_of_orderClass {x : Cell} {k : OrderClass} (h : x.orderClass = some k) :
    x.isMissing = false := by
  cases x <;> simp_all [Cell.orderClass, Cell.isMissing]

namespace Query

/-! ## Key tuples and codes -/

def keyCells (cols : List Column) (i : Nat) : List Cell := cols.map fun c => cellAt c i

def keysPresent (cols : List Column) (i : Nat) : Bool := (keyCells cols i).all fun x => !x.isMissing

def tupleCmp : List Cell → List Cell → Ordering := List.compareLex classOrder

instance : Std.TransCmp tupleCmp := by
  unfold tupleCmp
  infer_instance

/-- The sorted distinct values `uniq` of a column: strictly increasing present cells of the
column, one equal to each present cell. -/
structure SortedValues (c : Column) (uniq : List Cell) : Prop where
  sorted : uniq.Pairwise fun a b => classOrder a b = .lt
  mem : ∀ u ∈ uniq, u ∈ c.cells.toList ∧ u.isMissing = false
  cover : ∀ x ∈ c.cells.toList, x.isMissing = false → ∃ u ∈ uniq, classOrder x u = .eq

/-- A key column as the grouping codes it: its kind, its sorted distinct values and each row's
code. -/
def coding (p : Column × List Cell) : Kind × List Cell × List (Option Nat) :=
  (p.1.kind, p.2, p.1.cells.toList.map (codeIn p.2))

/-- `e` is the position of the value of row `i` among the key column's sorted distinct values. -/
def CodeAt (i : Nat) (p : Column × List Cell) (e : Nat) : Prop :=
  ∃ h : e < p.2.length, classOrder (cellAt p.1 i) p.2[e] = .eq

theorem cellAt_mem {c : Column} {i : Nat} (h : (cellAt c i).isMissing = false) :
    cellAt c i ∈ c.cells.toList := by
  unfold cellAt at h ⊢
  by_cases hi : i < c.cells.size
  · rw [Array.getD_eq_getD_getElem?, Array.getElem?_eq_getElem hi, Option.getD_some]
    exact Array.getElem_mem_toList hi
  · rw [Array.getD_eq_getD_getElem?, Array.getElem?_eq_none (by omega), Option.getD_none] at h
    cases h

theorem getD_map_codeIn (c : Column) (uniq : List Cell) (i : Nat) :
    (c.cells.toList.map (codeIn uniq)).getD i none = codeIn uniq (cellAt c i) := by
  unfold cellAt
  by_cases hi : i < c.cells.size
  · rw [List.getD_eq_getElem?_getD, List.getElem?_map, Array.getElem?_toList,
      Array.getD_eq_getD_getElem?, Array.getElem?_eq_getElem hi]
    rfl
  · rw [List.getD_eq_getElem?_getD, List.getElem?_map, Array.getElem?_toList,
      Array.getD_eq_getD_getElem?, Array.getElem?_eq_none (by omega)]
    exact (codeIn_missing rfl).symm

theorem codeIn_cellAt {p : Column × List Cell} (hp : SortedValues p.1 p.2) (hc : p.1.OneClass)
    {i : Nat} (hi : (cellAt p.1 i).isMissing = false) :
    ∃ e, codeIn p.2 (cellAt p.1 i) = some e ∧ CodeAt i p e := by
  obtain ⟨k, hk⟩ := hc
  have hclass : ∀ x ∈ p.1.cells.toList, x.isMissing = false → x.orderClass = some k :=
    fun x hx hm => (hk x hx).resolve_left (by simp [hm])
  obtain ⟨e, he, hcode, heq⟩ := codeIn_present (fun u hu => hclass u (hp.mem u hu).1 (hp.mem u hu).2)
    (hclass _ (cellAt_mem hi) hi) (hp.cover _ (cellAt_mem hi) hi)
  exact ⟨e, hcode, he, heq⟩

theorem codes_of_oneClass {keys : List (Text × Column)} (hk : ∀ p ∈ keys, p.2.OneClass) :
    ∃ ks : List (Column × List Cell), ks.map (·.1) = keys.map (·.2) ∧
      (∀ p ∈ ks, SortedValues p.1 p.2 ∧ p.1.OneClass) ∧
      (keys.map fun p => Grouper.column p.1 p.2).mapM Grouper.codes = .ok (ks.map coding) := by
  induction keys with
  | nil => exact ⟨[], rfl, fun p hp => absurd hp List.not_mem_nil, rfl⟩
  | cons q keys ih =>
    obtain ⟨ks, hcols, hks, hcodes⟩ := ih fun p hp => hk p (List.mem_cons_of_mem _ hp)
    obtain ⟨k, hc⟩ := hk q List.mem_cons_self
    obtain ⟨uniq, hq, hsorted, hmem, hcover⟩ := Grouper.codes_column (n := q.1) hc
    refine ⟨(q.2, uniq) :: ks, by simp [hcols], fun p hp => ?_, ?_⟩
    · rcases List.mem_cons.1 hp with rfl | hp
      · exact ⟨⟨hsorted, fun u hu => ⟨(hmem u hu).1, Cell.isMissing_of_orderClass (hmem u hu).2⟩,
          hcover⟩, k, hc⟩
      · exact hks p hp
    · rw [List.map_cons, List.mapM_cons, hq, hcodes]
      rfl

section Rows

variable {ks : List (Column × List Cell)}

theorem rowCodes_present (hks : ∀ p ∈ ks, SortedValues p.1 p.2 ∧ p.1.OneClass) {i : Nat}
    (hi : keysPresent (ks.map (·.1)) i = true) :
    ∃ cs, (ks.map coding).mapM (fun x => x.2.2.getD i none) = some cs ∧
      List.Forall₂ (CodeAt i) ks cs := by
  induction ks with
  | nil => exact ⟨[], rfl, .nil⟩
  | cons p ks ih =>
    simp only [keysPresent, keyCells, List.map_cons, List.all_cons, Bool.and_eq_true] at hi
    obtain ⟨e, hcode, hat⟩ := codeIn_cellAt (hks p List.mem_cons_self).1
      (hks p List.mem_cons_self).2 (by simpa using hi.1)
    obtain ⟨cs, hcs, hall⟩ := ih (fun q hq => hks q (List.mem_cons_of_mem _ hq))
      (by simpa [keysPresent, keyCells] using hi.2)
    refine ⟨e :: cs, ?_, .cons hat hall⟩
    rw [List.map_cons, List.mapM_cons, hcs]
    simp only [coding, getD_map_codeIn, hcode]
    rfl

theorem rowCodes_absent {i : Nat} (hi : keysPresent (ks.map (·.1)) i = false) :
    (ks.map coding).mapM (fun x => x.2.2.getD i none) = none := by
  induction ks with
  | nil => cases hi
  | cons p ks ih =>
    simp only [keysPresent, keyCells, List.map_cons, List.all_cons, Bool.and_eq_false_iff] at hi
    rw [List.map_cons, List.mapM_cons]
    rcases hi with hi | hi
    · simp only [coding, getD_map_codeIn, codeIn_missing (by simpa using hi)]
      rfl
    · rw [ih (by simpa [keysPresent, keyCells] using hi)]
      cases (coding p).2.2.getD i none <;> rfl

theorem compare_codes (hks : ∀ p ∈ ks, SortedValues p.1 p.2) {i i' : Nat} {cs cs' : List Nat}
    (h : List.Forall₂ (CodeAt i) ks cs) (h' : List.Forall₂ (CodeAt i') ks cs') :
    compare cs cs' = tupleCmp (keyCells (ks.map (·.1)) i) (keyCells (ks.map (·.1)) i') := by
  induction h generalizing cs' with
  | nil => cases h'; rfl
  | @cons p e ks es he _ ih =>
    cases h' with
    | @cons _ e' _ es' he' hrest =>
      obtain ⟨hlt, heq⟩ := he
      obtain ⟨hlt', heq'⟩ := he'
      simp only [keyCells, List.map_cons, tupleCmp, List.compareLex_cons_cons,
        List.compare_cons_cons] at ih ⊢
      rw [ih (fun q hq => hks q (List.mem_cons_of_mem _ hq)) hrest,
        compare_eq_classOrder (hks p List.mem_cons_self).sorted hlt hlt',
        ← Std.TransCmp.congr_left heq, ← Std.TransCmp.congr_right heq']

def labelOf (ks : List (Column × List Cell)) (cs : List Nat) : List Cell :=
  (ks.zip cs).map fun q => q.1.2.getD q.2 .missing

theorem tupleCmp_labelOf {i : Nat} {cs : List Nat} (h : List.Forall₂ (CodeAt i) ks cs) :
    tupleCmp (keyCells (ks.map (·.1)) i) (labelOf ks cs) = .eq := by
  induction h with
  | nil => rfl
  | @cons p e ks es he _ ih =>
    obtain ⟨hlt, heq⟩ := he
    simp only [keyCells, labelOf, List.map_cons, List.zip_cons_cons, tupleCmp,
      List.compareLex_cons_cons] at ih ⊢
    rw [ih, List.getD_eq_getElem _ _ hlt, heq]
    rfl

theorem labelOf_cells (hks : ∀ p ∈ ks, SortedValues p.1 p.2) {i : Nat} {cs : List Nat}
    (h : List.Forall₂ (CodeAt i) ks cs) :
    List.Forall₂ (fun x c => x ∈ c.cells.toList ∧ x.isMissing = false) (labelOf ks cs)
      (ks.map (·.1)) := by
  induction h with
  | nil => exact .nil
  | @cons p e ks es he _ ih =>
    obtain ⟨hlt, -⟩ := he
    simp only [labelOf, List.zip_cons_cons, List.map_cons] at ih ⊢
    rw [List.getD_eq_getElem _ _ hlt]
    exact .cons ((hks p List.mem_cons_self).mem _ (List.getElem_mem hlt))
      (ih fun q hq => hks q (List.mem_cons_of_mem _ hq))

theorem labelOf_eq (ks : List (Column × List Cell)) (cs : List Nat) :
    ((ks.map coding).zip cs).map (fun x => x.1.2.1.getD x.2 .missing) = labelOf ks cs := by
  rw [List.zip_map_left, List.map_map]
  rfl

end Rows

/-! ## Runs of equal codes -/

theorem codesLE_eq (a b : List Nat) : codesLE a b = (compare a b).isLE := by
  induction a generalizing b with
  | nil => cases b <;> rfl
  | cons x xs ih =>
    cases b with
    | nil => rfl
    | cons y ys =>
      rw [codesLE, List.compare_cons_cons, ih]
      rcases Nat.lt_trichotomy x y with h | rfl | h
      · simp [h, Nat.compare_eq_lt.2 h]
      · simp
      · simp [Nat.not_lt.2 (Nat.le_of_lt h), Nat.ne_of_gt h, Nat.compare_eq_gt.2 h]

theorem codeRuns_flatMap (xs : List (Nat × List Nat)) :
    (codeRuns xs).flatMap (fun r => r.2.map fun i => (i, r.1)) = xs := by
  induction xs with
  | nil => rfl
  | cons x rest ih =>
    obtain ⟨i, cs⟩ := x
    rw [codeRuns]
    cases h : codeRuns rest with
    | nil =>
      rw [h] at ih
      simp [← ih]
    | cons r runs =>
      obtain ⟨ds, is⟩ := r
      rw [h] at ih
      dsimp only
      by_cases hd : (ds == cs) = true
      · rw [if_pos hd, ← ih, eq_of_beq hd]
        simp
      · rw [if_neg hd, ← ih]
        simp

theorem codeRuns_ne_nil {xs : List (Nat × List Nat)} : ∀ r ∈ codeRuns xs, r.2 ≠ [] := by
  induction xs with
  | nil => simp [codeRuns]
  | cons x rest ih =>
    obtain ⟨i, cs⟩ := x
    rw [codeRuns]
    cases h : codeRuns rest with
    | nil => simp
    | cons r runs =>
      obtain ⟨ds, is⟩ := r
      rw [h] at ih
      dsimp only
      by_cases hd : (ds == cs) = true
      · rw [if_pos hd]
        intro r hr
        rcases List.mem_cons.1 hr with rfl | hr
        · simp
        · exact ih r (List.mem_cons_of_mem _ hr)
      · rw [if_neg hd]
        intro r hr
        rcases List.mem_cons.1 hr with rfl | hr
        · simp
        · exact ih r hr

theorem mem_of_mem_codeRuns {xs : List (Nat × List Nat)} {r : List Nat × List Nat}
    (hr : r ∈ codeRuns xs) {i : Nat} (hi : i ∈ r.2) : (i, r.1) ∈ xs := by
  rw [← codeRuns_flatMap xs, List.mem_flatMap]
  exact ⟨r, hr, List.mem_map.2 ⟨i, hi, rfl⟩⟩

theorem codeRuns_sorted {xs : List (Nat × List Nat)}
    (h : xs.Pairwise fun a b => (compare a.2 b.2).isLE) :
    (codeRuns xs).Pairwise fun r r' => compare r.1 r'.1 = .lt := by
  induction xs with
  | nil => exact List.Pairwise.nil
  | cons x rest ih =>
    obtain ⟨i, cs⟩ := x
    obtain ⟨hx, hrest⟩ := List.pairwise_cons.1 h
    -- the codes of every run after the first row are at least the first row's
    have hge : ∀ r ∈ codeRuns rest, (compare cs r.1).isLE := by
      intro r hr
      obtain ⟨j, hj⟩ := List.exists_mem_of_ne_nil _ (codeRuns_ne_nil r hr)
      exact hx _ (mem_of_mem_codeRuns hr hj)
    have ih := ih hrest
    rw [codeRuns]
    cases hruns : codeRuns rest with
    | nil => exact List.pairwise_singleton _ _
    | cons r runs =>
      obtain ⟨ds, is⟩ := r
      rw [hruns] at ih hge
      dsimp only
      by_cases hd : (ds == cs) = true
      · rw [if_pos hd]
        obtain ⟨hhead, htail⟩ := List.pairwise_cons.1 ih
        rw [eq_of_beq hd] at hhead
        exact List.pairwise_cons.2 ⟨hhead, htail⟩
      · rw [if_neg hd]
        -- a new run: its codes are below the next run's, so below every later run's
        have hlt : compare cs ds = .lt := by
          have hle := hge _ List.mem_cons_self
          cases hc : compare cs ds with
          | lt => rfl
          | eq => exact absurd (beq_iff_eq.2 (Std.LawfulEqCmp.compare_eq_iff_eq.1 hc).symm) hd
          | gt => rw [hc] at hle; cases hle
        refine List.pairwise_cons.2 ⟨fun r hr => ?_, ih⟩
        rcases List.mem_cons.1 hr with rfl | hr
        · exact hlt
        · exact Std.TransCmp.lt_trans hlt ((List.pairwise_cons.1 ih).1 r hr)

/-! ## Groups -/

/-- Rows grouped by key columns: `groups` are the rows of each group and `labels` their key
tuples. Every row whose key cells are all present is in exactly one group and no other row is in
any; each group is non-empty, and its rows' key tuples are all equal to its label; the labels are
present cells of the key columns, strictly increasing under `tupleCmp`. -/
structure GroupedBy (cols : List Column) (height : Nat) (groups : List (List Nat))
    (labels : List (List Cell)) : Prop where
  length_eq : groups.length = labels.length
  perm : groups.flatten.Perm ((List.range height).filter (keysPresent cols))
  nonempty : ∀ rows ∈ groups, rows ≠ []
  same : ∀ p ∈ groups.zip labels, ∀ i ∈ p.1, tupleCmp (keyCells cols i) p.2 = .eq
  sorted : labels.Pairwise fun l l' => tupleCmp l l' = .lt
  cells : ∀ l ∈ labels, List.Forall₂ (fun x c => x ∈ c.cells.toList ∧ x.isMissing = false) l cols

/-- The rows with present keys, sorted by their codes and split into runs of equal codes, are
grouped by the key columns. -/
theorem groupedBy_of_present {ks : List (Column × List Cell)}
    (hks : ∀ p ∈ ks, SortedValues p.1 p.2) {present : List (Nat × List Nat)} {height : Nat}
    (hrows : present.map (·.1) = (List.range height).filter (keysPresent (ks.map (·.1))))
    (hcodes : ∀ x ∈ present, List.Forall₂ (CodeAt x.1) ks x.2) :
    GroupedBy (ks.map (·.1)) height
      ((codeRuns (present.mergeSort fun a b => codesLE a.2 b.2)).map (·.2))
      ((codeRuns (present.mergeSort fun a b => codesLE a.2 b.2)).map fun r => labelOf ks r.1) := by
  have hperm := List.mergeSort_perm present fun a b => codesLE a.2 b.2
  have htrans : ∀ a b c : Nat × List Nat, codesLE a.2 b.2 → codesLE b.2 c.2 → codesLE a.2 c.2 := by
    intro a b c hab hbc
    rw [codesLE_eq] at hab hbc ⊢
    exact Std.TransCmp.isLE_trans hab hbc
  have htotal : ∀ a b : Nat × List Nat, (codesLE a.2 b.2 || codesLE b.2 a.2) = true := by
    intro a b
    rw [codesLE_eq, codesLE_eq, @Std.OrientedCmp.eq_swap _ compare _ b.2 a.2]
    cases compare a.2 b.2 <;> rfl
  have hsorted := (List.pairwise_mergeSort htrans htotal present).imp fun {a b} h => by
    rwa [codesLE_eq] at h
  generalize present.mergeSort (fun a b => codesLE a.2 b.2) = sorted at hperm hsorted ⊢
  -- every row of a run has the run's codes
  have hrun : ∀ r ∈ codeRuns sorted, ∀ i ∈ r.2, List.Forall₂ (CodeAt i) ks r.1 :=
    fun r hr i hi => hcodes (i, r.1) (hperm.mem_iff.1 (mem_of_mem_codeRuns hr hi))
  have hsome : ∀ r ∈ codeRuns sorted, ∃ i ∈ r.2, List.Forall₂ (CodeAt i) ks r.1 := by
    intro r hr
    obtain ⟨i, hi⟩ := List.exists_mem_of_ne_nil _ (codeRuns_ne_nil r hr)
    exact ⟨i, hi, hrun r hr i hi⟩
  refine ⟨by simp, ?_, ?_, ?_, ?_, ?_⟩
  · -- the runs' rows, in order, are the sorted rows
    have hflat : ((codeRuns sorted).map (·.2)).flatten = sorted.map (·.1) := by
      conv => rhs; rw [← codeRuns_flatMap sorted]
      simp [List.flatMap_def, Function.comp_def, List.map_map]
    rw [hflat, ← hrows]
    exact hperm.map _
  · intro rows hrows
    obtain ⟨r, hr, rfl⟩ := List.mem_map.1 hrows
    exact codeRuns_ne_nil r hr
  · intro p hp i hi
    rw [List.zip_map', List.mem_map] at hp
    obtain ⟨r, hr, rfl⟩ := hp
    exact tupleCmp_labelOf (hrun r hr i hi)
  · -- labels compare as their rows' key tuples, which compare as the runs' codes
    rw [List.pairwise_map]
    refine (codeRuns_sorted hsorted).imp_of_mem fun {r r'} hr hr' hlt => ?_
    obtain ⟨i, -, hi⟩ := hsome r hr
    obtain ⟨i', -, hi'⟩ := hsome r' hr'
    rw [← Std.TransCmp.congr_left (tupleCmp_labelOf hi),
      Std.TransCmp.congr_right (Std.OrientedCmp.eq_symm (tupleCmp_labelOf hi')),
      ← compare_codes hks hi hi']
    exact hlt
  · intro l hl
    obtain ⟨r, hr, rfl⟩ := List.mem_map.1 hl
    obtain ⟨i, -, hi⟩ := hsome r hr
    exact labelOf_cells hks hi

theorem map_fst_filterMap {β : Type} (l : List Nat) (g : Nat → Option β) :
    (l.filterMap fun i => (g i).map fun x => (i, x)).map (·.1) = l.filter fun i => (g i).isSome := by
  induction l with
  | nil => rfl
  | cons i l ih =>
    cases h : g i <;> simp [h, ih]

/-- The index of groups by the named key columns: one level per key column, named by it and of
its kind, holding the groups' labels. -/
def keyIndex (keys : List (Text × Column)) (labels : List (List Cell)) : RowIndex :=
  RowIndex.build (if keys.length > 1 then .nested else .flat) (keys.map fun p => some p.1)
    (keys.map fun p => p.2.kind) labels

/-- Grouping by key columns of one class each never fails: it groups the rows by their key
tuples, and labels the groups by an index of one level per key column. -/
theorem Grouping.build_grouped {keys : List (Text × Column)} (hne : keys ≠ [])
    (hk : ∀ p ∈ keys, p.2.OneClass) (rows : RowIndex) (height : Nat) :
    ∃ groups labels, Grouping.build (keys.map fun p => .column p.1 p.2) rows height =
      .ok ⟨keyIndex keys labels, groups, rows, height, keys.map (·.1)⟩ ∧
      GroupedBy (keys.map (·.2)) height groups labels := by
  obtain ⟨ks, hcols, hks, hcodes⟩ := codes_of_oneClass hk
  have hrows : ((List.range height).filterMap fun i =>
      ((ks.map coding).mapM fun (x : Kind × List Cell × List (Option Nat)) => x.2.2.getD i none).map
        fun x => (i, x)).map (·.1) =
      (List.range height).filter (keysPresent (ks.map (·.1))) := by
    rw [map_fst_filterMap]
    refine List.filter_congr fun i _ => ?_
    cases hi : keysPresent (ks.map (·.1)) i
    · rw [rowCodes_absent hi]
      rfl
    · obtain ⟨cs, hcs, -⟩ := rowCodes_present hks hi
      rw [hcs]
      rfl
  have hcodes' : ∀ x ∈ (List.range height).filterMap (fun i =>
      ((ks.map coding).mapM fun (x : Kind × List Cell × List (Option Nat)) => x.2.2.getD i none).map
        fun x => (i, x)),
      List.Forall₂ (CodeAt x.1) ks x.2 := by
    intro x hx
    obtain ⟨i, -, hi⟩ := List.mem_filterMap.1 hx
    cases hp : keysPresent (ks.map (·.1)) i
    · rw [rowCodes_absent hp] at hi
      cases hi
    · obtain ⟨cs, hcs, hall⟩ := rowCodes_present (fun q hq => hks q hq) hp
      rw [hcs] at hi
      cases hi
      exact hall
  unfold Grouping.build
  rw [hcodes]
  simp only [bind, Except.bind, pure, Except.pure]
  refine ⟨_, _, ?_, hcols ▸ groupedBy_of_present (fun q hq => (hks q hq).1) hrows hcodes'⟩
  have hempty : (keys.map fun p => Grouper.column p.1 p.2).isEmpty = false := by
    simpa using hne
  simp only [hempty, Bool.false_eq_true, if_false, List.length_map, labelOf_eq, List.map_map]
  have hkinds : ks.map ((fun x => x.1) ∘ coding) = keys.map fun p => p.2.kind := by
    have := congrArg (List.map Column.kind) hcols
    simpa [List.map_map, Function.comp_def, coding] using this
  rw [hkinds]
  -- the index's names and kinds are the key columns'; what is left is the columns' names
  unfold keyIndex
  congr 2
  simp [List.filterMap_map]

end Query

end Tabula
