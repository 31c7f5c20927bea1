import Tabula.Proofs.LoadedFrames
import Tabula.Proofs.RuleCells

/-!
The filter stage on a loaded table. Keeping rows is `Frame.keepWhere`: the rows where a test
holds, in order, with their labels, under the same names and kinds. Two such steps make one
(`Frame.keepWhere_keepWhere`), so a run of rules whose keys each name one column keeps exactly
the rows every rule keeps (`applyFilters_keepWhere`), where a rule judges a row by that row's
cell in its column alone (`Rule.keeps`). The rules' order then matters only for whether the run
completes. Loaded tables, and their selections by names, have pairwise distinct names and
columns of the frame's height, which is what this needs of the frame.
-/

namespace Tabula

/-! ## Positions -/

theorem map_getD_range (l : List Nat) : (List.range l.length).map (l.getD · 0) = l := by
  apply List.ext_getElem
  · simp
  · intro i h1 h2
    simp [List.getElem?_eq_getElem h2]

theorem filter_range_map_getD (l : List Nat) (q : Nat → Bool) :
    ((List.range l.length).filter fun j => q (l.getD j 0)).map (l.getD · 0) = l.filter q := by
  conv_rhs => rw [← map_getD_range l]
  rw [List.filter_map]
  rfl

theorem mem_filter_range {n : Nat} {p : Nat → Bool} {i : Nat}
    (h : i ∈ (List.range n).filter p) : i < n :=
  List.mem_range.1 (List.mem_filter.1 h).1

/-! ## Picking and keeping rows -/

namespace Column

theorem pick_cells (c : Column) (rows : List Nat) :
    (c.pick rows).cells.toList = rows.map (c.cells.getD · .missing) := by
  simp [pick]

theorem pick_pick (c : Column) {rows rows' : List Nat} (h : ∀ j ∈ rows', j < rows.length) :
    (c.pick rows).pick rows' = c.pick (rows'.map (rows.getD · 0)) := by
  simp only [pick, List.map_map, Column.mk.injEq, true_and]
  congr 1
  refine List.map_congr_left fun j hj => ?_
  have hj := h j hj
  simp [hj, List.getD_eq_getElem?_getD]

theorem pick_range {c : Column} {n : Nat} (h : c.cells.size = n) : c.pick (List.range n) = c := by
  obtain ⟨kind, cells⟩ := c
  simp only [pick, Column.mk.injEq, true_and]
  apply Array.ext
  · simpa using h.symm
  · intro i _ hi
    simp [Array.getD, hi]

end Column

namespace Frame

/-- The rows of `f` at which `p` holds, in order, with their labels (see `Frame.pick`). -/
def keepWhere (f : Frame) (p : Nat → Bool) : Frame := f.pick ((List.range f.height).filter p)

theorem keepWhere_congr (f : Frame) {p q : Nat → Bool} (h : ∀ i < f.height, p i = q i) :
    f.keepWhere p = f.keepWhere q := by
  unfold keepWhere
  rw [List.filter_congr fun i hi => h i (List.mem_range.1 hi)]

theorem keepRows_eq_keepWhere (f : Frame) (mask : List Bool) :
    f.keepRows mask = f.keepWhere (mask.getD · false) := by
  have key : ∀ (n s : Nat) (mask : List Bool),
      ((List.range' s n).zip mask).filterMap (fun x => if x.2 then some x.1 else none) =
        (List.range' s n).filter fun i => mask.getD (i - s) false := by
    intro n
    induction n with
    | zero => intro s mask; simp
    | succ n ih =>
      intro s mask
      cases mask with
      | nil => simp
      | cons b ms =>
        rw [List.range'_succ, List.zip_cons_cons, List.filterMap_cons, List.filter_cons, ih]
        have hrest : ((List.range' (s + 1) n).filter fun i => ms.getD (i - (s + 1)) false) =
            (List.range' (s + 1) n).filter fun i => (b :: ms).getD (i - s) false := by
          refine List.filter_congr fun i hi => ?_
          have hs : i - s = (i - (s + 1)) + 1 := by
            have := (List.mem_range'_1.1 hi).1
            omega
          rw [hs, List.getD_cons_succ]
        rw [hrest]
        cases b <;> simp
  unfold keepRows keepWhere
  rw [List.range_eq_range', key f.height 0 mask]
  simp

theorem pick_of_eq_range (f : Frame) {rows : List Nat} (h : rows = List.range f.height) :
    f.pick rows = f := by
  simp [pick, h]

theorem pick_of_ne_range (f : Frame) {rows : List Nat} (h : rows ≠ List.range f.height) :
    f.pick rows = ⟨rows.length, f.columns.map fun p => (p.1, p.2.pick rows),
      .kept (rows.map f.labelOf).toArray⟩ := by
  simp [pick, h]

theorem pick_labelOf (f : Frame) {rows : List Nat} (h : rows ≠ List.range f.height) {j : Nat}
    (hj : j < rows.length) : (f.pick rows).labelOf j = f.labelOf (rows.getD j 0) := by
  rw [pick_of_ne_range f h]
  simp [labelOf, hj]

theorem filter_range_eq_range {n : Nat} {p : Nat → Bool}
    (h : (List.range n).filter p = List.range n) : ∀ i < n, p i = true := by
  intro i hi
  have hmem : i ∈ (List.range n).filter p := by
    rw [h]
    exact List.mem_range.2 hi
  exact (List.mem_filter.1 hmem).2

theorem keepWhere_eq (f : Frame) (p : Nat → Bool) :
    f.keepWhere p = f.pick ((List.range f.height).filter p) := rfl

/-- Keeping rows twice keeps the rows both tests hold at, the second test reading the rows that
the first kept. -/
theorem keepWhere_keepWhere (f : Frame) (p q : Nat → Bool) :
    (f.keepWhere p).keepWhere (fun j => q (((List.range f.height).filter p).getD j 0)) =
      f.keepWhere fun i => p i && q i := by
  set rows := (List.range f.height).filter p with hrows
  have hsub : rows.filter q = (List.range f.height).filter fun i => p i && q i := by
    rw [hrows, List.filter_filter]
    exact List.filter_congr fun i _ => Bool.and_comm _ _
  by_cases hall : rows = List.range f.height
  · -- the first test keeps every row: the frame is left as it is
    have hp := filter_range_eq_range (hrows ▸ hall)
    have hf : f.keepWhere p = f := f.pick_of_eq_range hall
    rw [hf]
    refine keepWhere_congr f fun i hi => ?_
    rw [hp i hi, hall]
    simp [hi]
  · have hg : f.keepWhere p = ⟨rows.length, f.columns.map fun x => (x.1, x.2.pick rows),
        .kept (rows.map f.labelOf).toArray⟩ := f.pick_of_ne_range hall
    have hheight : (f.keepWhere p).height = rows.length := by rw [hg]
    set rows' := (List.range rows.length).filter fun j => q (rows.getD j 0) with hrows'
    have hcomp : rows'.map (rows.getD · 0) = rows.filter q := filter_range_map_getD rows q
    rw [keepWhere_eq (f.keepWhere p), hheight, ← hrows', keepWhere_eq f fun i => p i && q i, ← hsub]
    by_cases hall' : rows' = List.range rows.length
    · -- the second test keeps every row the first kept
      have hfilter : rows.filter q = rows := by
        rw [← hcomp, hall', map_getD_range]
      rw [(f.keepWhere p).pick_of_eq_range (hall'.trans (congrArg List.range hheight.symm)),
        hfilter]
      rfl
    · have hsub' : rows.filter q ≠ List.range f.height := by
        intro heq
        apply hall
        have hs : (rows.filter q).Sublist rows := List.filter_sublist
        have hr : rows.Sublist (List.range f.height) := List.filter_sublist
        exact hr.eq_of_length (Nat.le_antisymm hr.length_le (heq ▸ hs.length_le))
      have hbound : ∀ j ∈ rows', j < rows.length := fun j hj => mem_filter_range hj
      rw [pick_of_ne_range f hsub', pick_of_ne_range _ (by rw [hheight]; exact hall'), hg]
      simp only [Frame.mk.injEq]
      refine ⟨by rw [← hcomp, List.length_map], ?_, ?_⟩
      · rw [Array.map_map]
        congr 1
        funext x
        simp only [Function.comp_apply, Column.pick_pick x.2 hbound, hcomp]
      · congr 2
        rw [← hcomp, List.map_map]
        refine List.map_congr_left fun j hj => ?_
        rw [← hg]
        exact f.pick_labelOf hall (hbound j hj)

theorem pick_names (f : Frame) (rows : List Nat) : (f.pick rows).names = f.names := by
  by_cases h : rows = List.range f.height
  · rw [f.pick_of_eq_range h]
  · rw [f.pick_of_ne_range h]
    simp [names]

theorem pick_kinds (f : Frame) (rows : List Nat) :
    (f.pick rows).columns.toList.map (·.2.kind) = f.columns.toList.map (·.2.kind) := by
  by_cases h : rows = List.range f.height
  · rw [f.pick_of_eq_range h]
  · rw [f.pick_of_ne_range h]
    simp [Column.pick]

theorem keepWhere_names (f : Frame) (p : Nat → Bool) : (f.keepWhere p).names = f.names :=
  f.pick_names _

theorem keepWhere_kinds (f : Frame) (p : Nat → Bool) :
    (f.keepWhere p).columns.toList.map (·.2.kind) = f.columns.toList.map (·.2.kind) :=
  f.pick_kinds _

theorem keepWhere_height (f : Frame) (p : Nat → Bool) :
    (f.keepWhere p).height = ((List.range f.height).filter p).length :=
  f.pick_height _

theorem keepWhere_true (f : Frame) : f.keepWhere (fun _ => true) = f :=
  f.pick_of_eq_range (List.filter_true _)

theorem pick_rowLabels (f : Frame) (rows : List Nat) :
    (f.pick rows).rowLabels = rows.map f.labelOf := by
  by_cases h : rows = List.range f.height
  · rw [f.pick_of_eq_range h, h]
    rfl
  · unfold rowLabels
    rw [pick_height]
    conv_rhs => rw [← map_getD_range rows, List.map_map]
    exact List.map_congr_left fun j hj => f.pick_labelOf h (List.mem_range.1 hj)

theorem pick_row (f : Frame) {rows : List Nat} {j : Nat} (hj : j < rows.length) :
    (f.pick rows).row j = f.row (rows.getD j 0) := by
  by_cases h : rows = List.range f.height
  · rw [f.pick_of_eq_range h]
    subst h
    simp [List.getD_eq_getElem?_getD, List.getElem?_range (by simpa using hj)]
  · rw [f.pick_of_ne_range h]
    simp [row, Column.pick, hj, List.getD_eq_getElem?_getD]

theorem pick_rows (f : Frame) (rows : List Nat) :
    (List.range (f.pick rows).height).map (f.pick rows).row = rows.map f.row := by
  rw [pick_height]
  conv_rhs => rw [← map_getD_range rows, List.map_map]
  exact List.map_congr_left fun j hj => f.pick_row (List.mem_range.1 hj)

/-! ## Keys that name one column -/

/-- Every column of the frame has one cell per row. -/
def Rectangular (f : Frame) : Prop := ∀ p ∈ f.columns.toList, p.2.cells.size = f.height

theorem mem_positionsNamed {f : Frame} {key : Json.Value} {i : Nat} :
    i ∈ f.positionsNamed key ↔
      ∃ name c, f.columns[i]? = some (name, c) ∧ Query.keyNames key name = true := by
  unfold positionsNamed
  rw [List.mem_filter, List.mem_range]
  cases h : f.columns[i]? with
  | none => simp
  | some x =>
    obtain ⟨name, c⟩ := x
    have hi : i < f.columns.size := (Array.getElem?_eq_some_iff.1 h).1
    simp [hi]

theorem eq_of_mem_positionsNamed {f : Frame} (hd : f.names.Nodup) {key : Json.Value}
    {i j : Nat} (hi : i ∈ f.positionsNamed key) (hj : j ∈ f.positionsNamed key) : i = j := by
  obtain ⟨n, c, hic, hn⟩ := mem_positionsNamed.1 hi
  obtain ⟨n', c', hjc, hn'⟩ := mem_positionsNamed.1 hj
  have hsame : n = n' := by
    cases key with
    | str t =>
      simp only [Query.keyNames, beq_iff_eq] at hn hn'
      exact hn.symm.trans hn'
    | null | bool _ | int _ | float _ | arr _ | obj _ => cases hn
  have hlen : i < f.names.length := by
    simpa [names] using (Array.getElem?_eq_some_iff.1 hic).1
  refine (List.getElem?_inj hlen hd).1 ?_
  simp [names, hic, hjc, hsame]

theorem positionsNamed_nodup (f : Frame) (key : Json.Value) : (f.positionsNamed key).Nodup :=
  List.nodup_range.filter _

theorem positionsNamed_length_le {f : Frame} (hd : f.names.Nodup) (key : Json.Value) :
    (f.positionsNamed key).length ≤ 1 := by
  rcases hps : f.positionsNamed key with _ | ⟨i, _ | ⟨j, ps⟩⟩
  · simp
  · simp
  · -- two positions would be one position named twice
    have hi : i ∈ f.positionsNamed key := by simp [hps]
    have hj : j ∈ f.positionsNamed key := by simp [hps]
    have hnd : (i :: j :: ps).Nodup := hps ▸ f.positionsNamed_nodup key
    simp [eq_of_mem_positionsNamed hd hi hj] at hnd

theorem positionsNamed_str {f : Frame} (hd : f.names.Nodup) {n : Text}
    (hne : f.positionsNamed (.str n) ≠ []) :
    ∃ i c, f.positionsNamed (.str n) = [i] ∧ f.columns[i]? = some (n, c) := by
  have hle := positionsNamed_length_le hd (.str n)
  rcases hps : f.positionsNamed (.str n) with _ | ⟨i, _ | ⟨j, ps⟩⟩
  · exact absurd hps hne
  · obtain ⟨name, c, hc, hname⟩ := mem_positionsNamed.1 (hps ▸ List.mem_singleton_self i)
    simp only [Query.keyNames, beq_iff_eq] at hname
    exact ⟨i, c, rfl, hname ▸ hc⟩
  · simp [hps] at hle

theorem pick_positionsNamed (f : Frame) (rows : List Nat) (key : Json.Value) :
    (f.pick rows).positionsNamed key = f.positionsNamed key := by
  by_cases h : rows = List.range f.height
  · rw [f.pick_of_eq_range h]
  · rw [f.pick_of_ne_range h]
    unfold positionsNamed
    simp only [Array.size_map]
    refine List.filter_congr fun i _ => ?_
    rw [Array.getElem?_map]
    cases f.columns[i]? <;> rfl

theorem pickBy_eq_column {f : Frame} {key : Json.Value} (hk : key.isScalar = true)
    {name : Text} {c : Column} :
    f.pickBy key = .ok (.column name c) ↔
      ∃ i, f.positionsNamed key = [i] ∧ f.columns[i]? = some (name, c) := by
  cases key with
  | arr _ | obj _ => cases hk
  | null | bool _ | int _ | float _ | str _ =>
    simp only [pickBy]
    generalize f.positionsNamed _ = ps
    rcases ps with _ | ⟨i, _ | ⟨j, ps⟩⟩
    · simp
    · cases h : f.columns[i]? with
      | none => simp [h]
      | some x => simp [h, Prod.ext_iff]
    · simp

theorem pickBy_scalar {f : Frame} (hd : f.names.Nodup) {key : Json.Value}
    (hk : key.isScalar = true) {pick : Query.Pick} (h : f.pickBy key = .ok pick) :
    ∃ name c, pick = .column name c := by
  cases key with
  | arr _ | obj _ => cases hk
  | null | bool _ | int _ | float _ | str _ =>
    simp only [pickBy] at h
    generalize hps : f.positionsNamed _ = ps at h
    rcases ps with _ | ⟨i, _ | ⟨j, ps⟩⟩
    · cases h
    · cases hc : f.columns[i]? with
      | none => simp [hc] at h
      | some x => exact ⟨x.1, x.2, by simpa [hc] using h.symm⟩
    · have hle := hps ▸ positionsNamed_length_le hd _
      simp at hle

theorem pick_columns {f : Frame} (hf : f.Rectangular) (rows : List Nat) :
    (f.pick rows).columns = f.columns.map fun p => (p.1, p.2.pick rows) := by
  by_cases h : rows = List.range f.height
  · rw [f.pick_of_eq_range h]
    conv_lhs => rw [← Array.map_id f.columns]
    refine Array.map_congr_left fun p hp => ?_
    rw [h, Column.pick_range (hf p (Array.mem_toList_iff.2 hp))]
    rfl
  · rw [f.pick_of_ne_range h]

/-- On a rectangular frame with distinct names, what a scalar key picks from some of the rows is
the one column it picks from the whole frame, on those rows. -/
theorem pickBy_pick {f : Frame} (hf : f.Rectangular) (hd : f.names.Nodup) {key : Json.Value}
    (hk : key.isScalar = true) {rows : List Nat} {pick : Query.Pick}
    (h : (f.pick rows).pickBy key = .ok pick) :
    ∃ name c, f.pickBy key = .ok (.column name c) ∧ pick = .column name (c.pick rows) := by
  obtain ⟨name, c', rfl⟩ := pickBy_scalar ((f.pick_names rows).symm ▸ hd) hk h
  obtain ⟨i, hps, hc'⟩ := (pickBy_eq_column hk).1 h
  rw [pick_columns hf, Array.getElem?_map] at hc'
  obtain ⟨⟨name₀, c⟩, hc, heq⟩ := Option.map_eq_some_iff.1 hc'
  simp only [Prod.mk.injEq] at heq
  obtain ⟨rfl, rfl⟩ := heq
  refine ⟨name₀, c, (pickBy_eq_column hk).2 ⟨i, ?_, hc⟩, rfl⟩
  rw [← hps, pick_positionsNamed]

/-- A mask over the rows `p` keeps, read from `q` at each such row, keeps the rows where both
hold. -/
theorem keepRows_keepWhere (f : Frame) (p q : Nat → Bool) :
    (f.keepWhere p).keepRows (((List.range f.height).filter p).map q) =
      f.keepWhere fun i => p i && q i := by
  rw [keepRows_eq_keepWhere, ← keepWhere_keepWhere]
  refine keepWhere_congr _ fun j hj => ?_
  rw [keepWhere_height] at hj
  simp [List.getD_eq_getElem?_getD, hj]

theorem take_names (f : Frame) (ps : List Nat) :
    (f.take ps).names = (ps.filterMap fun i => f.columns[i]?).map (·.1) := by
  simp [take, names]

theorem take_rectangular {f : Frame} (hf : f.Rectangular) (ps : List Nat) :
    (f.take ps).Rectangular := by
  intro p hp
  simp only [take, List.mem_filterMap] at hp
  obtain ⟨i, -, hi⟩ := hp
  exact hf p (Array.mem_toList_iff.2 (Array.mem_of_getElem? hi))

theorem take_positionsNamed_names {f : Frame} (hd : f.names.Nodup) {names : List Text}
    (hall : ∀ n ∈ names, f.positionsNamed (.str n) ≠ []) :
    (f.take (names.map fun n => f.positionsNamed (.str n)).flatten).names = names := by
  rw [take_names]
  induction names with
  | nil => rfl
  | cons n rest ih =>
    obtain ⟨i, c, hps, hc⟩ := positionsNamed_str hd (hall n List.mem_cons_self)
    have hrest := ih fun m hm => hall m (List.mem_cons_of_mem n hm)
    simp only [List.map_cons, List.flatten_cons, hps, List.filterMap_append, List.map_append,
      hrest]
    simp [hc]

end Frame

namespace Query

open Json

/-! ## Selecting columns by name -/

theorem visit_text (n : Nat) (t : Text) :
    ShapeScan.visit 1 ⟨1, #[n], true, false, some .text⟩ (.str t) =
      ⟨1, #[n], true, false, some .text⟩ := by
  simp [ShapeScan.visit, ShapeScan.meetElement, ShapeScan.addKind, BlockKind.ofValue,
    BlockKind.join_self]

theorem visitAll_texts (n : Nat) (ts : List Text) :
    ShapeScan.visitAll 1 ⟨1, #[n], true, false, some .text⟩ (ts.map .str) =
      ⟨1, #[n], true, false, some .text⟩ := by
  induction ts with
  | nil => rfl
  | cons t ts ih => rw [List.map_cons, ShapeScan.visitAll, visit_text, ih]

theorem visit_texts (t : Text) (ts : List Text) :
    ShapeScan.visit 0 ShapeScan.init (.arr ((t :: ts).map .str)) =
      ⟨1, #[ts.length + 1], true, false, some .text⟩ := by
  simp [ShapeScan.visit, ShapeScan.meetList, ShapeScan.init, setDim, ShapeScan.visitAll,
    ShapeScan.meetElement, ShapeScan.addKind, BlockKind.ofValue, maxDims]
  exact visitAll_texts _ _

theorem ofKeys_texts {names : List Text} (h : names ≠ []) :
    Labels.ofKeys (names.map .str) = .ok ⟨.object, names.map fun n => .value (.str n)⟩ := by
  obtain ⟨t, ts, rfl⟩ := List.exists_cons_of_ne_nil h
  have hb : Block.build ((t :: ts).map .str) = .ok ⟨[ts.length + 1], .text,
      (leaves (.arr ((t :: ts).map .str))).map (convertElement .text)⟩ := by
    simp only [Block.build, visit_texts]
    rfl
  rw [Labels.ofKeys, hb]
  simp only [beq_self_eq_true, if_true, List.map_map]
  rfl

theorem foldl_gather_eq_nil {xs acc : List Value}
    (h : xs.foldl (fun acc k => if acc.any (sameLabel k) = true then acc else acc ++ [k]) acc = []) :
    acc = [] ∧ xs = [] := by
  induction xs generalizing acc with
  | nil => exact ⟨h, rfl⟩
  | cons k xs ih =>
    obtain ⟨hstep, -⟩ := ih h
    dsimp only at hstep
    split at hstep
    · next hany => simp [hstep] at hany
    · simp at hstep

/-- The positions a list of names picks: every name is carried, and the positions are those of
each name in turn. -/
theorem positionsOf_texts {f : Frame} {names : List Text} (hne : names ≠ [])
    {ps : List Nat} (h : f.positionsOf (names.map .str) = .ok ps) :
    ps = (names.map fun n => f.positionsNamed (.str n)).flatten ∧
      ∀ n ∈ names, f.positionsNamed (.str n) ≠ [] := by
  unfold Frame.positionsOf Labels.positionsAlong at h
  obtain ⟨labels, hl, h⟩ := bind_eq_ok.1 h
  rw [ofKeys_texts hne] at hl
  cases hl
  have hfind : (names.map fun n => Label.value (.str n)).findSome? Label.unhashable? = none := by
    simp [List.findSome?_eq_none_iff, Label.unhashable?, unhashableName?]
  have hsome : (names.map fun n => Label.value (.str n)).isEmpty = false := by simpa using hne
  simp only [hfind, hsome, Bool.false_eq_true, if_false] at h
  split at h
  · cases h
  split at h
  · next hunique =>
    cases h
    -- no name is absent: an absent name would be listed
    have habsent := (foldl_gather_eq_nil (List.isEmpty_iff.1 hunique)).2
    rw [List.filterMap_eq_nil_iff, List.map_map, List.zip_map'] at habsent
    refine ⟨by rw [List.map_map]; rfl, fun n hn hnil => ?_⟩
    have := habsent _ (List.mem_map_of_mem hn)
    simp [Frame.positionsOfLabel, hnil] at this
  · cases h

/-- Selecting a non-empty list of names from a frame with distinct names gives the frame of those
columns, under those names. -/
theorem select_texts {f : Frame} (hd : f.names.Nodup) {names : List Text} (hne : names ≠ [])
    {t : Table} (h : f.select (.arr (names.map .str)) = .ok t) :
    ∃ ps, t = .frame (f.take ps) ∧ (f.take ps).names = names := by
  have hmask : isRowMask (names.map .str) = false := by
    obtain ⟨n, ns, rfl⟩ := List.exists_cons_of_ne_nil hne
    simp [isRowMask]
  obtain ⟨pick, hpick, h⟩ := bind_eq_ok.1 h
  simp only [Frame.pickBy, hmask, Bool.false_eq_true, if_false] at hpick
  cases hps : f.positionsOf (names.map .str) with
  | error e =>
    rw [hps] at hpick
    cases hpick
  | ok ps =>
    rw [hps] at hpick
    cases hpick
    cases h
    obtain ⟨rfl, hall⟩ := positionsOf_texts hne hps
    exact ⟨_, rfl, Frame.take_positionsNamed_names hd hall⟩

/-- Selecting a list of distinct names, or nothing, from a rectangular frame with distinct names
leaves such a frame. -/
theorem selectStage_frame {config sel : Value} {f : Frame} {t₀ : Table} (hf : f.Rectangular)
    (hd : f.names.Nodup) (hsel : index config "selected_columns" = .ok sel)
    (hnames : sel.truthy = false ∨ ∃ names : List Text, sel = .arr (names.map .str) ∧ names.Nodup)
    (h : selectStage config f = .ok t₀) : ∃ g, t₀ = .frame g ∧ g.Rectangular ∧ g.names.Nodup := by
  unfold selectStage at h
  obtain ⟨sel', hsel', h⟩ := bind_eq_ok.1 h
  rw [lift_eq_ok, hsel] at hsel'
  cases hsel'
  by_cases ht : sel.truthy = true
  · obtain ⟨names, rfl, hnd⟩ := hnames.resolve_left (by simp [ht])
    have hne : names ≠ [] := by
      rintro rfl
      simp [Value.truthy] at ht
    simp only [ht, if_true] at h
    obtain ⟨ps, rfl, hnames⟩ := select_texts hd hne (lift_eq_ok.1 h)
    exact ⟨_, rfl, Frame.take_rectangular hf ps, hnames ▸ hnd⟩
  · simp only [ht, Bool.false_eq_true, if_false] at h
    cases h
    exact ⟨f, rfl, hf, hd⟩

def Pick.column? : Pick → Option Column
  | .column _ c => some c
  | _ => none

/-- Does the rule keep row `i` of `f`? It reads the row's cell in the column its key picks, that
column's kind, its test and its value, and nothing else. A rule whose key picks no single column
tests nothing. -/
def Rule.keeps (f : Frame) (r : Rule) (i : Nat) : Bool :=
  ((f.pickBy r.column).toOption.bind Pick.column?).elim true fun c =>
    r.test.keepsCell c.kind (c.kind.ruleValue r.value) (c.cells.getD i .missing)

theorem Rule.keeps_column {f : Frame} {r : Rule} {name : Text} {c : Column}
    (h : f.pickBy r.column = .ok (.column name c)) (i : Nat) :
    r.keeps f i = r.test.keepsCell c.kind (c.kind.ruleValue r.value) (c.cells.getD i .missing) := by
  simp [Rule.keeps, h, Except.toOption, Pick.column?]

theorem Rule.keeps_ignored {f : Frame} {r : Rule} (h : r.test = .ignored) (i : Nat) :
    r.keeps f i = true := by
  unfold Rule.keeps
  cases (f.pickBy r.column).toOption.bind Pick.column? <;> simp [h, Test.keepsCell]

theorem Rule.apply_ignored {r : Rule} (h : r.test = .ignored) (t : Table) : r.apply t = .ok t := by
  simp only [Rule.apply, h]
  rfl

theorem Rule.apply_pickBy {f : Frame} {r : Rule} (hi : r.test ≠ .ignored) {t : Table}
    (h : r.apply (.frame f) = .ok t) : ∃ pick, f.pickBy r.column = .ok pick := by
  rw [Rule.apply_eq hi] at h
  obtain ⟨_, -, h⟩ := bind_eq_ok.1 h
  obtain ⟨pick, hp, -⟩ := bind_eq_ok.1 h
  exact ⟨pick, lift_eq_ok.1 hp⟩

theorem Rule.onSeries_eq_ok {r : Rule} {name : Text} {c : Column} {ls : RowLabels}
    {value : Value} {parts : List Text} {t : Table} (h : r.onSeries name c ls value parts = .ok t) :
    ∃ keep, t = keepSeriesRows name c ls keep := by
  unfold Rule.onSeries at h
  obtain ⟨pick, -, h⟩ := bind_eq_ok.1 h
  cases pick with
  | cell i =>
    obtain ⟨keep, -, h⟩ := bind_eq_ok.1 h
    cases h
    exact ⟨keep, rfl⟩
  | rows ps =>
    obtain ⟨mask, -, h⟩ := bind_eq_ok.1 h
    obtain ⟨keep, -, h⟩ := bind_eq_ok.1 h
    cases h
    exact ⟨keep, rfl⟩

theorem Rule.apply_series {r : Rule} {name : Text} {c : Column} {ls : RowLabels} {t : Table}
    (h : r.apply (.series name c ls) = .ok t) : ∃ name' c' ls', t = .series name' c' ls' := by
  by_cases hi : r.test = .ignored
  · rw [Rule.apply_ignored hi] at h
    cases h
    exact ⟨name, c, ls, rfl⟩
  rw [Rule.apply_eq hi] at h
  obtain ⟨parts, -, h⟩ := bind_eq_ok.1 h
  obtain ⟨keep, rfl⟩ := Rule.onSeries_eq_ok h
  dsimp only [keepSeriesRows]
  split
  · exact ⟨name, c, ls, rfl⟩
  · exact ⟨_, _, _, rfl⟩

section KeptRows

variable {g : Frame} (hg : g.Rectangular) (hd : g.names.Nodup) {r : Rule}
  (hcol : r.column.isScalar = true) {p : Nat → Bool} {t : Table}
include hg hd hcol

/-- A rule that tests something and completes on some rows of the frame picks one column of the
whole frame. -/
theorem Rule.apply_keepWhere_picks (hi : r.test ≠ .ignored)
    (h : r.apply (.frame (g.keepWhere p)) = .ok t) :
    ∃ name c, g.pickBy r.column = .ok (.column name c) := by
  obtain ⟨pick, hp⟩ := Rule.apply_pickBy hi h
  obtain ⟨name, c, hpick, -⟩ := Frame.pickBy_pick hg hd hcol hp
  exact ⟨name, c, hpick⟩

/-- One rule, with scalar key and value, on the rows `p` keeps: when it completes, it keeps those
of the rows it keeps in the whole frame. -/
theorem Rule.apply_keepWhere (hval : r.value.isScalar = true)
    (h : r.apply (.frame (g.keepWhere p)) = .ok t) :
    t = .frame (g.keepWhere fun i => p i && r.keeps g i) := by
  by_cases hi : r.test = .ignored
  · rw [Rule.apply_ignored hi] at h
    cases h
    simp [Rule.keeps_ignored hi]
  -- the key picks one column of the kept rows: that column of the frame, on those rows
  obtain ⟨pick, hp⟩ := Rule.apply_pickBy hi h
  obtain ⟨name, c, hgpick, rfl⟩ := Frame.pickBy_pick hg hd hcol hp
  rw [Rule.apply_column_ok hp hval hi h, Column.pick_cells, ← Frame.keepRows_keepWhere]
  congr 2
  simp only [Column.pick, List.map_map]
  exact List.map_congr_left fun j _ => (Rule.keeps_column hgpick j).symm

end KeptRows

/-! ## A run of rules -/

/-- A filter rule as the form supplies it: an object whose column, operator and value entries are
JSON scalars. -/
def ScalarRule (item : Value) : Prop :=
  ∃ column op value, index item "column" = .ok column ∧ index item "operator" = .ok op ∧
    index item "value" = .ok value ∧ column.isScalar = true ∧ op.isScalar = true ∧
    value.isScalar = true

theorem ScalarRule.read {item : Value} (h : ScalarRule item) {r : Rule}
    (hr : Rule.read item = .ok r) : r.column.isScalar = true ∧ r.value.isScalar = true := by
  obtain ⟨column, op, value, hc, ho, hv, hcs, -, hvs⟩ := h
  obtain rfl : r = ⟨column, Test.ofValue op, value⟩ := by
    rw [Rule.read, hc, ho, hv] at hr
    exact (Except.ok.inj hr).symm
  exact ⟨hcs, hvs⟩

/-- What a rule is as a test of the rows of `g`: either it tests nothing, never fails and keeps
every row, or its key picks one column of `g` and it judges a row by that row's cell there, the
column's kind, its test and its value alone. -/
def Rule.JudgesCells (g : Frame) (r : Rule) : Prop :=
  (r.test = .ignored ∧ (∀ t, r.apply t = .ok t) ∧ ∀ i, r.keeps g i = true) ∨
  ∃ name c, g.pickBy r.column = .ok (.column name c) ∧
    ∀ i, r.keeps g i = r.test.keepsCell c.kind (c.kind.ruleValue r.value) (c.cells.getD i .missing)

/-- The loop invariant: after the rules read so far, the table is the frame's rows where the
starting test and every rule read hold, each rule judging cells of `g`. -/
theorem foldlM_filterStep_keepWhere {g : Frame} (hg : g.Rectangular) (hd : g.names.Nodup)
    {items : List Value} (hitems : ∀ item ∈ items, ScalarRule item) {p : Nat → Bool} {t : Table}
    (h : items.foldlM filterStep (.frame (g.keepWhere p)) = .ok t) :
    ∃ rules, items.mapM Rule.read = .ok rules ∧ (∀ r ∈ rules, r.JudgesCells g) ∧
      t = .frame (g.keepWhere fun i => p i && rules.all fun r => r.keeps g i) := by
  induction items generalizing p with
  | nil =>
    cases h
    exact ⟨[], rfl, by simp, by simp⟩
  | cons item items ih =>
    rw [List.foldlM_cons] at h
    obtain ⟨t₁, h₁, h⟩ := bind_eq_ok.1 h
    obtain ⟨r, hr, happ⟩ := bind_eq_ok.1 h₁
    have hr := lift_eq_ok.1 hr
    obtain ⟨hcol, hval⟩ := (hitems item List.mem_cons_self).read hr
    -- the rule judges cells of `g`
    have hjudge : r.JudgesCells g := by
      by_cases hi : r.test = .ignored
      · exact .inl ⟨hi, Rule.apply_ignored hi, Rule.keeps_ignored hi⟩
      · obtain ⟨name, c, hpick⟩ := Rule.apply_keepWhere_picks hg hd hcol hi happ
        exact .inr ⟨name, c, hpick, Rule.keeps_column hpick⟩
    rw [Rule.apply_keepWhere hg hd hcol hval happ] at h
    obtain ⟨rules, hrules, hall, rfl⟩ := ih (fun x hx => hitems x (List.mem_cons_of_mem _ hx)) h
    refine ⟨r :: rules, ?_, ?_, ?_⟩
    · rw [List.mapM_cons, hr, hrules]
      rfl
    · exact List.forall_mem_cons.2 ⟨hjudge, hall⟩
    · simp only [List.all_cons, Bool.and_assoc]

theorem mem_of_mapM_eq_ok {ε α β : Type} {f : α → Except ε β} {xs : List α} {ys : List β}
    (h : xs.mapM f = .ok ys) {y : β} : y ∈ ys ↔ ∃ x ∈ xs, f x = .ok y := by
  have hall := mapM_eq_ok_iff.1 h
  clear h
  induction hall with
  | nil => simp
  | cons hx _ ih => simp [ih, hx, eq_comm]

/-- The rules read from a permutation of the items are the same rules, so every test of all of
them agrees. -/
theorem all_read_perm {items items' : List Value} (hperm : items'.Perm items)
    {rules rules' : List Rule} (h : items.mapM Rule.read = .ok rules)
    (h' : items'.mapM Rule.read = .ok rules') (q : Rule → Bool) :
    rules'.all q = rules.all q := by
  rw [Bool.eq_iff_iff, List.all_eq_true, List.all_eq_true]
  simp only [mem_of_mapM_eq_ok h, mem_of_mapM_eq_ok h', hperm.mem_iff]

/-- The filter loop on a rectangular frame with distinct names: when it completes, it keeps the
rows every rule keeps. -/
theorem applyFilters_keepWhere {g : Frame} (hg : g.Rectangular) (hd : g.names.Nodup)
    {items : List Value} (hitems : ∀ item ∈ items, ScalarRule item) {t : Table}
    (h : applyFilters (.frame g) (.arr items) = .ok t) :
    ∃ rules, items.mapM Rule.read = .ok rules ∧ (∀ r ∈ rules, r.JudgesCells g) ∧
      t = .frame (g.keepWhere fun i => rules.all fun r => r.keeps g i) := by
  -- the loop starts from every row
  have hstart : items.foldlM filterStep (.frame (g.keepWhere fun _ => true)) = .ok t := by
    rw [Frame.keepWhere_true]
    exact h
  simpa using foldlM_filterStep_keepWhere hg hd hitems hstart

/-- The filter loop on a loaded table, after no selection or a selection of distinct names, with
rules whose key, operator and value are scalars: when it completes, the table has the columns it
had, under the same names and of the same kinds, and exactly the rows, in order and with their
labels, that every rule keeps, each rule judging a row by that row's cell in its column alone.
Any reordering of the rules that also completes gives the same table. -/
theorem applyFilters_keeps_rows_every_rule_keeps {bytes : List UInt8} {f : Frame}
    {config sel : Value} {items : List Value} {t₀ t : Table}
    (hload : Csv.readTable bytes = .ok f) (hsel : index config "selected_columns" = .ok sel)
    (hnames : sel.truthy = false ∨ ∃ names : List Text, sel = .arr (names.map .str) ∧ names.Nodup)
    (hitems : ∀ item ∈ items, ScalarRule item)
    (h₀ : selectStage config f = .ok t₀) (h : applyFilters t₀ (.arr items) = .ok t) :
    ∃ g rules g', t₀ = .frame g ∧ items.mapM Rule.read = .ok rules ∧
      (∀ r ∈ rules, r.JudgesCells g) ∧ t = .frame g' ∧ g'.names = g.names ∧
      g'.columns.toList.map (·.2.kind) = g.columns.toList.map (·.2.kind) ∧
      (List.range g'.height).map g'.row =
        ((List.range g.height).filter fun i => rules.all (·.keeps g i)).map g.row ∧
      g'.rowLabels =
        ((List.range g.height).filter fun i => rules.all (·.keeps g i)).map g.labelOf ∧
      ∀ items', items'.Perm items → ∀ t', applyFilters t₀ (.arr items') = .ok t' → t' = t := by
  obtain ⟨g, rfl, hg, hd⟩ := selectStage_frame (Csv.readTable_rectangular hload)
    (Csv.readTable_names_nodup hload) hsel hnames h₀
  obtain ⟨rules, hrules, hjudge, rfl⟩ := applyFilters_keepWhere hg hd hitems h
  refine ⟨g, rules, _, rfl, hrules, hjudge, rfl, g.keepWhere_names _, g.keepWhere_kinds _,
    g.pick_rows _, g.pick_rowLabels _, ?_⟩
  -- a permutation reads the same rules, and keeping rows reads them as a set
  intro items' hperm t' h'
  obtain ⟨rules', hrules', -, rfl⟩ :=
    applyFilters_keepWhere hg hd (fun x hx => hitems x (hperm.mem_iff.1 hx)) h'
  simp only [all_read_perm hperm hrules hrules']

theorem eq_ok_getD {ε α : Type} [Inhabited α] {x : Except ε α} (h : x.isOk = true) :
    x = .ok (x.toOption.getD default) := by
  cases x with
  | error e => cases h
  | ok a => rfl

def filterSampleCsv : List UInt8 := "a,b\n1,x\n2,y\n3,x\n".toUTF8.toList

def filterSampleConfig : Value :=
  .obj [(Text.ofString "selected_columns", .arr [.str (Text.ofString "b"), .str (Text.ofString "a")])]

def filterSampleRules : List Value :=
  [.obj [(Text.ofString "column", .str (Text.ofString "b")),
    (Text.ofString "operator", .str (Text.ofString "eq")),
    (Text.ofString "value", .str (Text.ofString "x"))]]

def filterSampleFrame : Frame := (Csv.readTable filterSampleCsv).toOption.getD default

def filterSampleSelected : Table :=
  (selectStage filterSampleConfig filterSampleFrame).toOption.getD default

def filterSampleFiltered : Table :=
  (applyFilters filterSampleSelected (.arr filterSampleRules)).toOption.getD default

theorem applyFilters_keeps_rows_every_rule_keeps_sample :
    Csv.readTable filterSampleCsv = .ok filterSampleFrame ∧
      selectStage filterSampleConfig filterSampleFrame = .ok filterSampleSelected ∧
      applyFilters filterSampleSelected (.arr filterSampleRules) = .ok filterSampleFiltered ∧
      ∃ g rules g', filterSampleSelected = .frame g ∧ filterSampleRules.mapM Rule.read = .ok rules ∧
        (∀ r ∈ rules, r.JudgesCells g) ∧ filterSampleFiltered = .frame g' ∧ g'.names = g.names ∧
        g'.columns.toList.map (·.2.kind) = g.columns.toList.map (·.2.kind) ∧
        (List.range g'.height).map g'.row =
          ((List.range g.height).filter fun i => rules.all (·.keeps g i)).map g.row ∧
        g'.rowLabels =
          ((List.range g.height).filter fun i => rules.all (·.keeps g i)).map g.labelOf ∧
        ∀ items', items'.Perm filterSampleRules → ∀ t',
          applyFilters filterSampleSelected (.arr items') = .ok t' → t' = filterSampleFiltered := by
  have hload : Csv.readTable filterSampleCsv = .ok filterSampleFrame :=
    eq_ok_getD (by decide +kernel)
  have h₀ : selectStage filterSampleConfig filterSampleFrame = .ok filterSampleSelected :=
    eq_ok_getD (by decide +kernel)
  have h : applyFilters filterSampleSelected (.arr filterSampleRules) = .ok filterSampleFiltered :=
    eq_ok_getD (by decide +kernel)
  have hitems : ∀ item ∈ filterSampleRules, ScalarRule item := by
    intro item hitem
    rw [filterSampleRules, List.mem_singleton] at hitem
    subst hitem
    exact ⟨_, _, _, rfl, rfl, rfl, rfl, rfl, rfl⟩
  exact ⟨hload, h₀, h, applyFilters_keeps_rows_every_rule_keeps hload rfl
    (.inr ⟨[Text.ofString "b", Text.ofString "a"], rfl, by decide⟩) hitems h₀ h⟩

end Query

end Tabula
