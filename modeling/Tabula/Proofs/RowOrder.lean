import Tabula.Proofs.GroupedRuns

/-!
Grouping and the order of rows. Grouping sorts the groups by their keys, so the order of the rows
shows only through which of several cells ranked equal stands for a group, and through sums whose
value depends on the order of their terms. Over key columns whose order tells present cells apart
(`Column.Separated`, true of integers, booleans and texts) permuting the rows permutes each group
and keeps the labels, and counts, integer sums and extremes depend only on the group's cells; so
frames that are row permutations of each other group alike (`grouping_ignores_row_order`), while
a sum of texts follows the row order (`text_sum_follows_row_order`).
-/

namespace Tabula

/-! ## Columns whose order tells cells apart -/

/-- Present cells of the column that `classOrder` ranks equal are equal. -/
def Column.Separated (c : Column) : Prop :=
  ∀ x ∈ c.cells.toList, ∀ y ∈ c.cells.toList, x.isMissing = false → y.isMissing = false →
    classOrder x y = .eq → x = y

theorem Cell.orderClass_float {a : Float} {k : OrderClass}
    (h : (Cell.float a).orderClass = some k) : k = .double := by
  simp only [Cell.orderClass] at h
  split at h
  · cases h
  · exact (Option.some.inj h).symm

theorem eq_of_classOrder_eq {k : OrderClass} (hk : k ≠ .double) {x y : Cell}
    (hx : x.orderClass = some k) (hy : y.orderClass = some k) (h : classOrder x y = .eq) :
    x = y := by
  -- the first key of the order is the number, the last the text
  have hnum : compare x.numberKey y.numberKey = .eq := (compareLex_eq_eq.1 h).1
  have htext : compare x.textKey y.textKey = .eq :=
    (compareLex_eq_eq.1 (compareLex_eq_eq.1 h).2).2
  have hcls : x.orderClass = y.orderClass := hx.trans hy.symm
  cases x with
  | int a =>
    cases y with
    | int b => exact congrArg Cell.int (compare_eq_iff_eq.1 hnum)
    | float b => exact absurd (Cell.orderClass_float hy) hk
    | bool _ | text _ => cases hcls
    | missing | array _ _ | tuple _ => cases hy
  | bool a =>
    cases y with
    | bool b =>
      have hab := compare_eq_iff_eq.1 hnum
      cases a <;> cases b <;> first | rfl | cases hab
    | float b => exact absurd (Cell.orderClass_float hy) hk
    | int _ | text _ => cases hcls
    | missing | array _ _ | tuple _ => cases hy
  | text s =>
    cases y with
    | text t => exact congrArg Cell.text (Text.eq_iff_points.2 (Std.LawfulEqCmp.eq_of_compare htext))
    | float b => exact absurd (Cell.orderClass_float hy) hk
    | int _ | bool _ => cases hcls
    | missing | array _ _ | tuple _ => cases hy
  | float a => exact absurd (Cell.orderClass_float hx) hk
  | missing | array _ _ | tuple _ => cases hx

theorem Column.separated_of_class {c : Column} {k : OrderClass} (hk : k ≠ .double)
    (hc : ∀ x ∈ c.cells.toList, x.InClass k) : c.Separated := by
  intro x hx y hy hxm hym h
  exact eq_of_classOrder_eq hk ((hc x hx).resolve_left (by simp [hxm]))
    ((hc y hy).resolve_left (by simp [hym])) h

theorem Column.mem_of_mem_pick {c : Column} {rows : List Nat} {x : Cell}
    (hx : x ∈ (c.pick rows).cells.toList) (hxm : x.isMissing = false) : x ∈ c.cells.toList := by
  rw [Column.pick_cells, List.mem_map] at hx
  obtain ⟨i, -, rfl⟩ := hx
  exact Query.cellAt_mem hxm

theorem Column.Separated.pick {c : Column} (h : c.Separated) (rows : List Nat) :
    (c.pick rows).Separated := by
  intro x hx y hy hxm hym
  exact h x (Column.mem_of_mem_pick hx hxm) y (Column.mem_of_mem_pick hy hym) hxm hym

end Tabula

namespace Tabula.Query

open Json

/-! ## Groups over separated keys -/

section Groups

variable {cols : List Column} {height : Nat} {groups : List (List Nat)} {labels : List (List Cell)}

theorem eq_of_tupleCmp_eq (hsep : ∀ c ∈ cols, c.Separated) {l l' : List Cell}
    (hl : List.Forall₂ (fun x c => x ∈ c.cells.toList ∧ x.isMissing = false) l cols)
    (hl' : List.Forall₂ (fun x c => x ∈ c.cells.toList ∧ x.isMissing = false) l' cols)
    (h : tupleCmp l l' = .eq) : l = l' := by
  induction hl generalizing l' with
  | nil =>
    cases hl'
    rfl
  | cons hx _ ih =>
    cases hl' with
    | cons hy hrest =>
      rw [tupleCmp, List.compareLex_cons_cons, Ordering.then_eq_eq] at h
      rw [hsep _ List.mem_cons_self _ hx.1 _ hy.1 hx.2 hy.2 h.1,
        ih (fun c hc => hsep c (List.mem_cons_of_mem _ hc)) hrest h.2]

theorem keyCells_present {i : Nat} (h : keysPresent cols i = true) :
    List.Forall₂ (fun x c => x ∈ c.cells.toList ∧ x.isMissing = false) (keyCells cols i) cols := by
  rw [keyCells, List.forall₂_map_left_iff, List.forall₂_same]
  intro c hc
  have hx : (cellAt c i).isMissing = false := by
    simpa using (List.all_eq_true.1 h) _ (List.mem_map_of_mem hc)
  exact ⟨cellAt_mem hx, hx⟩

theorem GroupedBy.flatten_nodup (h : GroupedBy cols height groups labels) :
    groups.flatten.Nodup :=
  h.perm.nodup_iff.2 (List.nodup_range.filter _)

theorem GroupedBy.labels_nodup (h : GroupedBy cols height groups labels) : labels.Nodup :=
  h.sorted.imp fun {l _} hlt heq => by
    subst heq
    rw [@Std.ReflCmp.compare_self _ tupleCmp _] at hlt
    cases hlt

theorem GroupedBy.mem_present (h : GroupedBy cols height groups labels) {rows : List Nat}
    (hrows : rows ∈ groups) {i : Nat} (hi : i ∈ rows) : i < height ∧ keysPresent cols i = true :=
  let hmem := List.mem_filter.1 (h.perm.mem_iff.1 (List.mem_flatten_of_mem hrows hi))
  ⟨List.mem_range.1 hmem.1, hmem.2⟩

theorem GroupedBy.keyCells_eq (h : GroupedBy cols height groups labels)
    (hsep : ∀ c ∈ cols, c.Separated) {j : Nat} (hj : j < groups.length) {i : Nat}
    (hi : i ∈ groups[j]) : keyCells cols i = labels.get ⟨j, h.length_eq ▸ hj⟩ := by
  have hjl : j < labels.length := h.length_eq ▸ hj
  have hj' : j < (groups.zip labels).length := by
    rw [List.length_zip, ← h.length_eq, Nat.min_self]
    exact hj
  have hp : (groups[j], labels[j]) ∈ groups.zip labels := by
    rw [← List.getElem_zip (h := hj')]
    exact List.getElem_mem hj'
  exact eq_of_tupleCmp_eq hsep (keyCells_present (h.mem_present (List.getElem_mem hj) hi).2)
    (h.cells _ (List.getElem_mem _)) (h.same _ hp i hi)

theorem GroupedBy.exists_group (h : GroupedBy cols height groups labels) {i : Nat}
    (hi : i < height) (hp : keysPresent cols i = true) :
    ∃ j, ∃ hj : j < groups.length, i ∈ groups[j] := by
  have hflat : i ∈ groups.flatten :=
    h.perm.mem_iff.2 (List.mem_filter.2 ⟨List.mem_range.2 hi, hp⟩)
  obtain ⟨rows, hrows, hirows⟩ := List.mem_flatten.1 hflat
  obtain ⟨j, hj, rfl⟩ := List.mem_iff_getElem.1 hrows
  exact ⟨j, hj, hirows⟩

theorem GroupedBy.mem_group_iff (h : GroupedBy cols height groups labels)
    (hsep : ∀ c ∈ cols, c.Separated) {j : Nat} (hj : j < groups.length) (i : Nat) :
    i ∈ groups[j] ↔
      i < height ∧ keysPresent cols i = true ∧
        keyCells cols i = labels.get ⟨j, h.length_eq ▸ hj⟩ := by
  constructor
  · intro hi
    exact ⟨(h.mem_present (List.getElem_mem hj) hi).1, (h.mem_present (List.getElem_mem hj) hi).2,
      h.keyCells_eq hsep hj hi⟩
  · rintro ⟨hi, hp, hkey⟩
    -- the group holding the row has the same label, hence the same position
    obtain ⟨j', hj', hi'⟩ := h.exists_group hi hp
    have hlab := (h.keyCells_eq hsep hj' hi').symm.trans hkey
    obtain rfl := Fin.mk.inj (h.labels_nodup.get_inj_iff.1 hlab)
    exact hi'

theorem GroupedBy.mem_labels_iff (h : GroupedBy cols height groups labels)
    (hsep : ∀ c ∈ cols, c.Separated) (l : List Cell) :
    l ∈ labels ↔ ∃ i < height, keysPresent cols i = true ∧ keyCells cols i = l := by
  constructor
  · intro hl
    obtain ⟨⟨j, hj⟩, rfl⟩ := List.mem_iff_get.1 hl
    have hjg : j < groups.length := h.length_eq ▸ hj
    obtain ⟨i, hi⟩ := List.exists_mem_of_ne_nil _ (h.nonempty _ (List.getElem_mem hjg))
    obtain ⟨hlt, hp, hkey⟩ := (h.mem_group_iff hsep hjg i).1 hi
    exact ⟨i, hlt, hp, hkey⟩
  · rintro ⟨i, hi, hp, rfl⟩
    obtain ⟨j, hj, hi'⟩ := h.exists_group hi hp
    rw [h.keyCells_eq hsep hj hi']
    exact List.get_mem _ _

end Groups

/-! ## Permuted rows -/

section Permuted

variable {σ : List Nat}

theorem cellAt_pick (c : Column) {i : Nat} (hi : i < σ.length) :
    cellAt (c.pick σ) i = cellAt c σ[i] := by
  simp [cellAt, Column.pick, Array.getD_eq_getD_getElem?, hi]

theorem keyCells_pick (cols : List Column) {i : Nat} (hi : i < σ.length) :
    keyCells (cols.map (·.pick σ)) i = keyCells cols σ[i] := by
  simp [keyCells, cellAt_pick _ hi]

theorem keysPresent_pick (cols : List Column) {i : Nat} (hi : i < σ.length) :
    keysPresent (cols.map (·.pick σ)) i = keysPresent cols σ[i] := by
  rw [keysPresent, keyCells_pick cols hi, keysPresent]

variable {cols : List Column} {height : Nat} {groups groups' : List (List Nat)}
  {labels labels' : List (List Cell)}

theorem separated_pick (hsep : ∀ c ∈ cols, c.Separated) (σ : List Nat) :
    ∀ c ∈ cols.map (·.pick σ), c.Separated := by
  intro c hc
  obtain ⟨c₀, hc₀, rfl⟩ := List.mem_map.1 hc
  exact (hsep c₀ hc₀).pick σ

theorem mem_of_perm_range (hσ : σ.Perm (List.range height)) {i : Nat} :
    i ∈ σ ↔ i < height := by
  rw [hσ.mem_iff, List.mem_range]

theorem GroupedBy.pick_labels (h : GroupedBy cols height groups labels)
    (h' : GroupedBy (cols.map (·.pick σ)) σ.length groups' labels')
    (hσ : σ.Perm (List.range height)) (hsep : ∀ c ∈ cols, c.Separated) : labels' = labels := by
  have hsep' := separated_pick hsep σ
  -- both are the tuples of the rows with present keys, the rows of `σ` being those of the frame
  have hmem : ∀ l, l ∈ labels' ↔ l ∈ labels := by
    intro l
    rw [h'.mem_labels_iff hsep', h.mem_labels_iff hsep]
    constructor
    · rintro ⟨i, hi, hp, hkey⟩
      rw [keysPresent_pick cols hi] at hp
      rw [keyCells_pick cols hi] at hkey
      exact ⟨σ[i], (mem_of_perm_range hσ).1 (List.getElem_mem hi), hp, hkey⟩
    · rintro ⟨i, hi, hp, rfl⟩
      obtain ⟨i', hi', rfl⟩ := List.mem_iff_getElem.1 ((mem_of_perm_range hσ).2 hi)
      exact ⟨i', hi', by rw [keysPresent_pick cols hi', hp], keyCells_pick cols hi'⟩
  refine List.Perm.eq_of_pairwise (fun a b _ _ hab hba => ?_) h'.sorted h.sorted
    ((List.perm_ext_iff_of_nodup h'.labels_nodup h.labels_nodup).2 hmem)
  rw [@Std.OrientedCmp.eq_swap _ tupleCmp _ b a, hab] at hba
  cases hba

/-- Permuting the rows permutes each group: read through `σ`, a group of the permuted rows is
the group of the same position. -/
theorem GroupedBy.pick_groups (h : GroupedBy cols height groups labels)
    (h' : GroupedBy (cols.map (·.pick σ)) σ.length groups' labels')
    (hσ : σ.Perm (List.range height)) (hsep : ∀ c ∈ cols, c.Separated) :
    List.Forall₂ (fun rows rows' => (rows'.map (σ.getD · 0)).Perm rows ∧ ∀ i ∈ rows', i < σ.length)
      groups groups' := by
  have hsep' := separated_pick hsep σ
  obtain rfl := h.pick_labels h' hσ hsep
  have hσnodup : σ.Nodup := hσ.nodup_iff.2 List.nodup_range
  refine List.forall₂_iff_get.2 ⟨h.length_eq.trans h'.length_eq.symm, fun j hj hj' => ?_⟩
  simp only [List.get_eq_getElem]
  have hbound : ∀ i ∈ groups'[j], i < σ.length := fun i hi =>
    ((h'.mem_group_iff hsep' hj' i).1 hi).1
  refine ⟨(List.perm_ext_iff_of_nodup ?_ ?_).2 fun i => ?_, hbound⟩
  · -- distinct positions of `σ` hold distinct rows
    refine (List.nodup_flatten.1 h'.flatten_nodup).1 _ (List.getElem_mem hj') |>.map_on ?_
    intro a ha b hb hab
    rw [List.getD_eq_getElem _ _ (hbound a ha), List.getD_eq_getElem _ _ (hbound b hb)] at hab
    exact (hσnodup.getElem_inj_iff).1 hab
  · exact (List.nodup_flatten.1 h.flatten_nodup).1 _ (List.getElem_mem hj)
  · rw [List.mem_map, h.mem_group_iff hsep hj]
    constructor
    · rintro ⟨i', hi', rfl⟩
      obtain ⟨hlt, hp, hkey⟩ := (h'.mem_group_iff hsep' hj' i').1 hi'
      rw [keysPresent_pick cols hlt] at hp
      rw [keyCells_pick cols hlt] at hkey
      rw [List.getD_eq_getElem _ _ hlt]
      exact ⟨(mem_of_perm_range hσ).1 (List.getElem_mem hlt), hp, hkey⟩
    · rintro ⟨hi, hp, hkey⟩
      obtain ⟨i', hi', rfl⟩ := List.mem_iff_getElem.1 ((mem_of_perm_range hσ).2 hi)
      refine ⟨i', (h'.mem_group_iff hsep' hj' i').2 ⟨hi', ?_, ?_⟩, List.getD_eq_getElem _ _ hi'⟩
      · rw [keysPresent_pick cols hi', hp]
      · rw [keyCells_pick cols hi', hkey]

/-- Over a permutation of the rows, each group's cells in a column are those of the group of the
same position, in another order. -/
theorem cells_perm_of_groups (c : Column)
    (hg : List.Forall₂ (fun rows rows' => (rows'.map (σ.getD · 0)).Perm rows ∧
      ∀ i ∈ rows', i < σ.length) groups groups') :
    List.Forall₂ (fun rows rows' => (rows'.map (cellAt (c.pick σ))).Perm (rows.map (cellAt c)))
      groups groups' := by
  refine hg.imp fun rows rows' hrows => ?_
  have hcells : rows'.map (cellAt (c.pick σ)) = (rows'.map (σ.getD · 0)).map (cellAt c) := by
    rw [List.map_map]
    refine List.map_congr_left fun i hi => ?_
    rw [Function.comp_apply, cellAt_pick c (hrows.2 i hi), List.getD_eq_getElem _ _ (hrows.2 i hi)]
  rw [hcells]
  exact hrows.1.map _

end Permuted

/-! ## Summaries that forget the order of a group -/

/-- A summary of a column whose value depends only on the multiset of a group's cells: a count, a
sum of integers or booleans, or a least or greatest cell of a separated column. -/
def Agg.OrderFreeOn (a : Agg) (c : Column) : Prop :=
  a = .count ∨ (a = .sum ∧ (c.kind = .int64 ∨ c.kind = .uint64 ∨ c.kind = .bool)) ∨
    ((a = .min ∨ a = .max) ∧ c.Separated)

section Summaries

variable {k : Kind} {cells cells' : List Cell}

theorem summarize_count_perm (h : cells.Perm cells') (numbers numbers' : List Float)
    (labels labels' : List Cell) :
    summarize k .count cells numbers labels = summarize k .count cells' numbers' labels' := by
  rw [summarize_count, summarize_count, (h.filter _).length_eq]

theorem numericSum_perm (hk : k ≠ .float64) (h : cells.Perm cells') :
    numericSum k cells = numericSum k cells' := by
  cases k with
  | float64 => exact absurd rfl hk
  | uint64 =>
    simp only [numericSum]
    -- each step adds the cell's integer, or nothing
    rw [h.foldl_eq' fun x _ y _ z => by
      cases x <;> cases y
      all_goals dsimp only
      all_goals omega]
  | int64 => rw [numericSum_int64, numericSum_int64, (h.map _).sum_eq]
  | bool | object =>
    -- these kinds sum as signed integers do
    show numericSum .int64 cells = numericSum .int64 cells'
    rw [numericSum_int64, numericSum_int64, (h.map _).sum_eq]

theorem summarize_sum_perm (hk : k ≠ .object) (hk' : k ≠ .float64) (h : cells.Perm cells')
    (numbers numbers' : List Float) (labels labels' : List Cell) :
    summarize k .sum cells numbers labels = summarize k .sum cells' numbers' labels' := by
  simp only [summarize, beq_iff_eq, hk, if_false, numericSum_perm hk' h]

theorem classOrder_antisymm {a b : Cell} (hab : (classOrder a b).isLE = true)
    (hba : (classOrder b a).isLE = true) : classOrder a b = .eq := by
  rw [@Std.OrientedCmp.eq_swap _ classOrder _ b a] at hba
  cases h : classOrder a b with
  | lt =>
    rw [h] at hba
    cases hba
  | eq => rfl
  | gt =>
    rw [h] at hab
    cases hab

theorem LeastPresent.unique {cmp : Cell → Cell → Ordering}
    (hanti : ∀ a b, (cmp a b).isLE = true → (cmp b a).isLE = true → cmp a b = .eq)
    (hp : cells.Perm cells')
    (hsep : ∀ x ∈ cells, ∀ y ∈ cells, x.isMissing = false → y.isMissing = false →
      cmp x y = .eq → x = y)
    {r r' : Cell} (h : LeastPresent cmp cells r) (h' : LeastPresent cmp cells' r') : r' = r := by
  have hall : cells'.all (·.isMissing) = cells.all (·.isMissing) :=
    Bool.eq_iff_iff.2 (by simp only [List.all_eq_true, hp.mem_iff])
  unfold LeastPresent at h h'
  rw [hall] at h'
  split at h
  · -- no cell is present: both are missing
    next hnone =>
    rw [if_pos hnone] at h'
    rw [h, h']
  · next hsome =>
    rw [if_neg hsome] at h'
    obtain ⟨hr, hrm, hle⟩ := h
    obtain ⟨hr', hrm', hle'⟩ := h'
    have hr'c : r' ∈ cells := hp.mem_iff.2 hr'
    exact hsep r' hr'c r hr hrm' hrm
      (hanti r' r (hle' r (hp.mem_iff.1 hr) hrm) (hle r' hr'c hrm'))

/-- A least and a greatest cell of a group of one class whose present cells the order tells apart
do not depend on the order of the group. -/
theorem summarize_extreme_perm {agg : Agg} (hagg : agg = .min ∨ agg = .max) {kc : OrderClass}
    (h : cells.Perm cells') (hclass : ∀ x ∈ cells, x.InClass kc)
    (hsep : ∀ x ∈ cells, ∀ y ∈ cells, x.isMissing = false → y.isMissing = false →
      classOrder x y = .eq → x = y)
    {numbers numbers' : List Float} {labels labels' : List Cell} {x x' : Cell}
    (hx : summarize k agg cells numbers labels = .ok x)
    (hx' : summarize k agg cells' numbers' labels' = .ok x') : x' = x := by
  have hclass' : ∀ y ∈ cells', y.InClass kc := fun y hy => hclass y (h.mem_iff.2 hy)
  rw [summarize_extreme hagg hx, summarize_extreme hagg hx']
  rcases hagg with rfl | rfl
  · exact LeastPresent.unique (fun a b => classOrder_antisymm) h hsep
      (extreme_leastPresent (fun x y hx hy => smaller_eq hx hy) hclass)
      (extreme_leastPresent (fun x y hx hy => smaller_eq hx hy) hclass')
  · -- a greatest cell is a least one of the reversed order
    exact LeastPresent.unique (fun a b hab hba => classOrder_antisymm hab hba) h
      (fun a ha b hb ham hbm hab => (hsep b hb a ha hbm ham hab).symm)
      (extreme_leastPresent (fun x y hx hy => greater_eq hx hy) hclass)
      (extreme_leastPresent (fun x y hx hy => greater_eq hx hy) hclass')

end Summaries

/-! ## Grouping permuted rows -/

/-- Lists related item by item to the same list, through relations that pin down the related
item, are equal. -/
theorem forall₂_eq_of_rel {α β γ : Type} {S : α → β → Prop} {R : α → γ → Prop}
    {R' : β → γ → Prop} {as : List α} {bs : List β} {cs cs' : List γ}
    (hS : List.Forall₂ S as bs) (h : List.Forall₂ R as cs) (h' : List.Forall₂ R' bs cs')
    (hR : ∀ a b c c', S a b → R a c → R' b c' → c' = c) : cs' = cs := by
  induction hS generalizing cs cs' with
  | nil => rw [List.forall₂_nil_left_iff.1 h, List.forall₂_nil_left_iff.1 h']
  | cons hab _ ih =>
    cases h with
    | cons hac hrest =>
      cases h' with
      | cons hbc hrest' => rw [hR _ _ _ _ hab hac hbc, ih hrest hrest']

theorem Column.pick_kind (c : Column) (rows : List Nat) : (c.pick rows).kind = c.kind := rfl

/-- Over groups whose cells are the same up to order, a summary that forgets the order gives the
same column. -/
theorem summarizeColumn_perm {c : Column} (hone : c.OneClass) {σ : List Nat}
    {groups groups' : List (List Nat)}
    (hg : List.Forall₂ (fun rows rows' =>
      (rows'.map (cellAt (c.pick σ))).Perm (rows.map (cellAt c))) groups groups')
    {agg : Agg} (hagg : agg.OrderFreeOn c) {labels labels' : Array Cell} {p p' : Column}
    (h : summarizeColumn c agg groups labels = .ok p)
    (h' : summarizeColumn (c.pick σ) agg groups' labels' = .ok p') : p' = p := by
  have hfour : agg = .count ∨ agg = .sum ∨ agg = .min ∨ agg = .max := by
    rcases hagg with h | ⟨h, -⟩ | ⟨h | h, -⟩ <;> simp [h]
  have hnum : (agg == .std || agg == .sem || agg == .skew) = false := by
    rcases hfour with rfl | rfl | rfl | rfl <;> rfl
  have hidx : (agg == .idxmax || agg == .idxmin) = false := by
    rcases hfour with rfl | rfl | rfl | rfl <;> rfl
  rw [summarizeColumn_eq hnum hidx, map_eq_ok] at h h'
  obtain ⟨cells, hcells, rfl⟩ := h
  obtain ⟨cells', hcells', rfl⟩ := h'
  rw [Column.pick_kind]
  congr 2
  refine forall₂_eq_of_rel hg (mapM_eq_ok_iff.1 hcells) (mapM_eq_ok_iff.1 hcells') ?_
  intro rows rows' x x' hperm hx hx'
  rw [Column.pick_kind] at hx'
  obtain ⟨kc, hkc⟩ := hone
  rcases hagg with rfl | ⟨rfl, hk⟩ | ⟨hext, hsep⟩
  · rw [summarize_count_perm hperm _ (rows.map fun _ => nan) _
      (rows.map fun i => labels.getD i .missing), hx] at hx'
    exact (Except.ok.inj hx').symm
  · have hko : c.kind ≠ .object := by rcases hk with hk | hk | hk <;> simp [hk]
    have hkf : c.kind ≠ .float64 := by rcases hk with hk | hk | hk <;> simp [hk]
    rw [summarize_sum_perm hko hkf hperm _ (rows.map fun _ => nan) _
      (rows.map fun i => labels.getD i .missing), hx] at hx'
    exact (Except.ok.inj hx').symm
  · -- the group's present cells are cells of the column, which the order tells apart
    have hclass : ∀ y ∈ rows.map (cellAt c), y.InClass kc := by
      intro y hy
      obtain ⟨i, -, rfl⟩ := List.mem_map.1 hy
      exact Column.OneClass.getD hkc i
    refine summarize_extreme_perm hext hperm.symm hclass (fun y hy z hz hym hzm => ?_) hx hx'
    obtain ⟨i, -, rfl⟩ := List.mem_map.1 hy
    obtain ⟨i', -, rfl⟩ := List.mem_map.1 hz
    exact hsep _ (cellAt_mem hym) _ (cellAt_mem hzm) hym hzm

theorem aggregatedColumn_pick {f : Frame} {rows : List Nat} (h : rows ≠ List.range f.height)
    (key : Value) :
    aggregatedColumn (f.pick rows) key =
      (aggregatedColumn f key).map fun p => (p.1, p.2.pick rows) := by
  unfold aggregatedColumn
  rw [Frame.pick_positionsNamed, Frame.pick_of_ne_range f h]
  cases f.positionsNamed key with
  | nil => rfl
  | cons i _ => exact Array.getElem?_map ..

theorem pickBy_pick_column {f : Frame} {rows : List Nat} (h : rows ≠ List.range f.height)
    {key : Value} (hk : key.isScalar = true) {name : Text} {c : Column}
    (hpick : f.pickBy key = .ok (.column name c)) :
    (f.pick rows).pickBy key = .ok (.column name (c.pick rows)) := by
  obtain ⟨i, hps, hc⟩ := (Frame.pickBy_eq_column hk).1 hpick
  refine (Frame.pickBy_eq_column hk).2 ⟨i, by rw [Frame.pick_positionsNamed, hps], ?_⟩
  rw [Frame.pick_of_ne_range f h, Array.getElem?_map, hc]
  rfl

theorem keyColumns_pick (keys : List (Text × Column)) (labels : List (List Cell))
    (rows : List Nat) :
    keyColumns (keys.map fun p => (p.1, p.2.pick rows)) labels = keyColumns keys labels := by
  refine List.ext_getElem (by simp [keyColumns]) fun j h1 h2 => ?_
  simp [keyColumns, Column.pick_kind]

/-- Aggregating a permutation of a frame's rows, by separated key columns and with summaries that
forget the order of a group, gives the aggregation of the frame. -/
theorem aggregateFrame_pick {g : Frame} (hone : g.All Column.OneClass)
    (htyped : g.All Column.Typed) {keys : List (Text × Column)} (hne : keys ≠ [])
    (hkeys : ∀ p ∈ keys, g.pickBy (.str p.1) = .ok (.column p.1 p.2))
    (hsep : ∀ p ∈ keys, p.2.Separated) {A : List (Text × Agg)}
    (hA : ∀ q ∈ A, ∀ c, aggregatedColumn g (.str q.1) = some (q.1, c) → q.2.OrderFreeOn c)
    {σ : List Nat} (hσ : σ.Perm (List.range g.height)) {out out' : Frame}
    (h : aggregateFrame (.frame g) (.arr (keys.map fun p => .str p.1)) (requestsOf A) = .ok out)
    (h' : aggregateFrame (.frame (g.pick σ)) (.arr (keys.map fun p => .str p.1)) (requestsOf A) =
      .ok out') :
    out' = out := by
  by_cases hid : σ = List.range g.height
  · -- picking every row in order leaves the frame as it is
    rw [g.pick_of_eq_range hid, h] at h'
    exact (Except.ok.inj h').symm
  -- the picked frame's keys pick the picked key columns
  have hnames : (keys.map fun p => (p.1, p.2.pick σ)).map (fun p => Value.str p.1) =
      keys.map fun p => .str p.1 := by
    simp
  have hkeys' : ∀ p ∈ keys.map (fun p => (p.1, p.2.pick σ)),
      (g.pick σ).pickBy (.str p.1) = .ok (.column p.1 p.2) := by
    intro p hp
    obtain ⟨p₀, hp₀, rfl⟩ := List.mem_map.1 hp
    exact pickBy_pick_column hid rfl (hkeys p₀ hp₀)
  rw [← hnames] at h'
  obtain ⟨groups, labels, aggCols, hgrouped, hheight, hcols, hsum, hpos⟩ :=
    aggregateFrame_eq hone htyped hne hkeys h
  obtain ⟨groups', labels', aggCols', hgrouped', hheight', hcols', hsum', hpos'⟩ :=
    aggregateFrame_eq (hone.pick oneClass_stageInvariant σ) (htyped.pick typed_stageInvariant σ)
      (by simpa using hne) hkeys' h'
  have hkc : (keys.map fun p => (p.1, p.2.pick σ)).map (·.2) = (keys.map (·.2)).map (·.pick σ) := by
    simp
  rw [hkc, Frame.pick_height] at hgrouped'
  have hsepc : ∀ c ∈ keys.map (·.2), c.Separated := by
    intro c hc
    obtain ⟨p, hp, rfl⟩ := List.mem_map.1 hc
    exact hsep p hp
  -- the groups are those of the frame, permuted, under the same labels
  obtain rfl := hgrouped.pick_labels hgrouped' hσ hsepc
  have hg := hgrouped.pick_groups hgrouped' hσ hsepc
  -- each summary column is that of the frame
  have hagg : aggCols' = aggCols := by
    refine forall₂_eq_of_rel (S := fun q q' => q' = q ∧ q ∈ regrouped A)
      (List.forall₂_same.2 fun q hq => ⟨rfl, hq⟩) hsum hsum' ?_
    rintro q₀ q p p' ⟨rfl, hq⟩ ⟨hname, c, hc, hs⟩ ⟨hname', c', hc', hs'⟩
    rw [aggregatedColumn_pick hid, hc] at hc'
    obtain rfl : c' = c.pick σ := (Prod.mk.inj (Option.some.inj hc')).2.symm
    exact Prod.ext (hname'.trans hname.symm)
      (summarizeColumn_perm (hone _ (mem_of_aggregatedColumn hc)) (cells_perm_of_groups c hg)
        (hA q (mem_regrouped hq) c hc) hs hs')
  obtain ⟨H, cols, labs⟩ := out
  obtain ⟨H', cols', labs'⟩ := out'
  dsimp only at hheight hcols hpos hheight' hcols' hpos'
  subst hpos hpos'
  rw [Frame.mk.injEq]
  refine ⟨hheight'.trans (hg.length_eq.symm.trans hheight.symm), ?_, rfl⟩
  rw [← Array.toList_inj, hcols, hcols', keyColumns_pick, hagg]

/-! ## Runs -/

section Runs

variable {bytes : List UInt8} {config : Value} {keys : List (Text × Column)}
  {A : List (Text × Agg)} {f g : Frame} {t : Table}

/-- Two runs whose tables reaching grouping are row permutations of each other, grouped by the same
separated key columns with the same summaries that forget the order of a group, give the same
table. -/
theorem grouping_ignores_row_order (h : GroupedRun bytes config keys A f g t) {σ : List Nat}
    (hσ : σ.Perm (List.range g.height)) {config' : Value} {f' : Frame} {t' : Table}
    (hgroup' : GroupsBy config' (keys.map (·.1)) A)
    (hstage' : sortStage config' f' = .ok (.frame (g.pick σ)))
    (hrun' : runQuery config' f' = .ok t') (hkeys : ∀ p ∈ keys, p.2.Separated)
    (hA : ∀ q ∈ A, ∀ c, aggregatedColumn g (.str q.1) = some (q.1, c) → q.2.OrderFreeOn c) :
    t' = t := by
  obtain ⟨hone, htyped⟩ := sortStage_loaded h.load h.stage
  obtain ⟨out, hout, rfl⟩ :=
    map_eq_ok.1 (lift_eq_ok.1 ((runQuery_grouped h.groupsBy h.stage).symm.trans h.run))
  obtain ⟨out', hout', rfl⟩ :=
    map_eq_ok.1 (lift_eq_ok.1 ((runQuery_grouped hgroup' hstage').symm.trans hrun'))
  rw [aggregateFrame_pick hone htyped h.keys_ne h.picks hkeys hA hσ hout hout']

end Runs

/-- Sort by `column` in the direction `ascending`, then group by the columns named `keys` and ask
for the summaries `pairs`, each a column's name and a summary's. -/
def sortedGroupConfig (column : String) (ascending : Bool) (keys : List String)
    (pairs : List (String × String)) : Value :=
  .obj [(Text.ofString "selected_columns", .arr []), (Text.ofString "filters", .arr []),
    (Text.ofString "sorting", .arr [.obj [(Text.ofString "column", Value.ofString column),
      (Text.ofString "ascending", .bool ascending)]]),
    (Text.ofString "grouping", .obj [(Text.ofString "enabled", .bool true),
      (Text.ofString "columns", .arr (keys.map Value.ofString))]),
    (Text.ofString "aggregations", .arr (pairs.map fun p => .obj
      [(Text.ofString "column", Value.ofString p.1), (Text.ofString "function", Value.ofString p.2)]))]

theorem sortedGroupConfig_groupsBy (column : String) (ascending : Bool) (keys : List String)
    (pairs : List (String × Agg)) :
    GroupsBy (sortedGroupConfig column ascending keys (pairs.map fun p => (p.1, p.2.name)))
      (keys.map Text.ofString) (pairs.map fun p => (Text.ofString p.1, p.2)) := by
  refine ⟨_, _, _, rfl, rfl, rfl, rfl, ?_, rfl, ?_⟩
  · show Except.ok (Value.arr (keys.map Value.ofString)) = _
    rw [List.map_map]
    rfl
  · rw [List.map_map, List.forall₂_map_left_iff, List.forall₂_map_right_iff]
    exact List.forall₂_same.2 fun p _ => ⟨rfl, rfl⟩

def groupSortedConfig : Value :=
  sortedGroupConfig "v" true ["k"] [("v", "count"), ("v", "min"), ("v", "max"), ("v", "sum")]

set_option maxRecDepth 100000 in
theorem groupSorted_stage :
    sortStage groupSortedConfig groupSampleFrame = .ok (.frame (groupSampleFrame.pick [2, 0, 1])) := by
  cbv

set_option maxRecDepth 100000 in
theorem groupSorted_build :
    Grouping.build [.column (Text.ofString "k") (groupSampleKey.pick [2, 0, 1])]
        (RowIndex.ofFrame (groupSampleFrame.pick [2, 0, 1])) (groupSampleFrame.pick [2, 0, 1]).height =
      .ok ⟨keyIndex [(Text.ofString "k", groupSampleKey.pick [2, 0, 1])] [[.int 1], [.int 2]],
        [[2], [0, 1]], RowIndex.ofFrame (groupSampleFrame.pick [2, 0, 1]), 3, [Text.ofString "k"]⟩ := by
  cbv

theorem grouping_ignores_row_order_sample :
    [2, 0, 1].Perm (List.range groupSampleFrame.height) ∧
      sortStage groupSortedConfig groupSampleFrame =
        .ok (.frame (groupSampleFrame.pick [2, 0, 1])) ∧
      runQuery groupSortedConfig groupSampleFrame = .ok groupSampleResult := by
  have hσ : [2, 0, 1].Perm (List.range groupSampleFrame.height) := by decide
  have hgroup : GroupsBy groupSortedConfig
      ([(Text.ofString "k", groupSampleKey.pick [2, 0, 1])].map (·.1)) groupSampleAggs :=
    sortedGroupConfig_groupsBy "v" true ["k"] [("v", .count), ("v", .min), ("v", .max), ("v", .sum)]
  have hpicks : ∀ p ∈ [(Text.ofString "k", groupSampleKey.pick [2, 0, 1])],
      (groupSampleFrame.pick [2, 0, 1]).pickBy (.str p.1) = .ok (.column p.1 p.2) :=
    picks_first (by rw [Frame.pick_of_ne_range _ (by decide), Array.getElem?_map]; rfl)
      (by decide +kernel)
  -- the sorted run completes
  have hrun : runQuery groupSortedConfig groupSampleFrame =
      .ok ((runQuery groupSortedConfig groupSampleFrame).toOption.getD default) := by
    refine eq_ok_getD ?_
    rw [runQuery_grouped hgroup groupSorted_stage, aggregateFrame,
      readGroupers_columns (List.cons_ne_nil _ _) hpicks]
    simp only [bind, Except.bind, pure, Except.pure, List.map_cons, List.map_nil, groupSorted_build]
    decide +kernel
  have hkeys : ∀ p ∈ groupSampleKeys, p.2.Separated := by
    intro p hp
    rw [groupSampleKeys, List.mem_singleton] at hp
    subst hp
    refine Column.separated_of_class (k := .integer) (by decide) fun x hx => ?_
    simp only [groupSampleKey, List.mem_cons, List.not_mem_nil, or_false] at hx
    rcases hx with rfl | rfl | rfl <;> exact .inr rfl
  have hA : ∀ q ∈ groupSampleAggs, ∀ c, aggregatedColumn groupSampleFrame (.str q.1) = some (q.1, c) →
      q.2.OrderFreeOn c := by
    have hv : aggregatedColumn groupSampleFrame (.str (Text.ofString "v")) =
        some (Text.ofString "v", ⟨.int64, #[.int 4, .int 7, .int 1]⟩) := rfl
    have hsep : (⟨.int64, #[.int 4, .int 7, .int 1]⟩ : Column).Separated := by
      refine Column.separated_of_class (k := .integer) (by decide) fun x hx => ?_
      simp only [List.mem_cons, List.not_mem_nil, or_false] at hx
      rcases hx with rfl | rfl | rfl <;> exact .inr rfl
    intro q hq c hc
    simp only [groupSampleAggs, List.mem_cons, List.not_mem_nil, or_false] at hq
    rcases hq with rfl | rfl | rfl | rfl
    all_goals
      rw [hv] at hc
      cases hc
    · exact .inl rfl
    · exact .inr (.inr ⟨.inl rfl, hsep⟩)
    · exact .inr (.inr ⟨.inr rfl, hsep⟩)
    · exact .inr (.inl ⟨rfl, .inl rfl⟩)
  refine ⟨hσ, groupSorted_stage, ?_⟩
  rw [hrun, grouping_ignores_row_order groupSample_groupedRun hσ hgroup groupSorted_stage hrun hkeys hA]

/-! ## A sum of texts follows the order of the rows -/

/-- The table `k,s / 1,a / 1,b`: one group, whose texts are summed. -/
def textSumCsv : List UInt8 := "k,s\n1,a\n1,b\n".toUTF8.toList

def textSumKey : Column := ⟨.int64, #[.int 1, .int 1]⟩

def textSumColumn : Column := ⟨.object, #[.text (Text.ofString "a"), .text (Text.ofString "b")]⟩

def textSumFrame : Frame :=
  ⟨2, #[(Text.ofString "k", textSumKey), (Text.ofString "s", textSumColumn)], .positions⟩

def textSumSortedConfig : Value := sortedGroupConfig "s" false ["k"] [("s", "sum")]

set_option maxRecDepth 100000 in
theorem textSum_records :
    Csv.records textSumCsv.toArray = .ok #[#["k", "s"], #["1", "a"], #["1", "b"]] := by
  decide +kernel

set_option maxRecDepth 100000 in
theorem textSum_read : Csv.readTable textSumCsv = .ok textSumFrame := by
  have hkey : Csv.inferColumn ["1", "1"] = textSumKey := by cbv
  -- neither integers, booleans nor doubles: the texts as they are
  have htext : Csv.inferColumn ["a", "b"] = textSumColumn := by rfl
  have hnames : Csv.columnNames #["k", "s"] = #["k", "s"] := by decide +kernel
  have hdec : (Text.Utf8.decode textSumCsv).isOk = true := by decide +kernel
  obtain ⟨d, hd⟩ : ∃ d, Text.Utf8.decode textSumCsv = .ok d := by
    cases h : Text.Utf8.decode textSumCsv with
    | ok d => exact ⟨d, rfl⟩
    | error e =>
      rw [h] at hdec
      cases hdec
  simp only [Csv.readTable, hd, textSum_records, bind, Except.bind, Except.mapError, pure,
    Except.pure, hnames]
  show Except.ok (⟨2, #[(Text.ofString "k", Csv.inferColumn ["1", "1"]),
    (Text.ofString "s", Csv.inferColumn ["a", "b"])], .positions⟩ : Frame) = _
  rw [hkey, htext]
  rfl

set_option maxRecDepth 100000 in
theorem textSum_stage :
    sortStage (groupConfig ["k"] [("s", "sum")]) textSumFrame = .ok (.frame textSumFrame) := by
  cbv

set_option maxRecDepth 100000 in
theorem textSum_sorted_stage :
    sortStage textSumSortedConfig textSumFrame = .ok (.frame (textSumFrame.pick [1, 0])) := by
  cbv

set_option maxRecDepth 100000 in
theorem textSum_build :
    Grouping.build [.column (Text.ofString "k") textSumKey] (RowIndex.ofFrame textSumFrame)
        textSumFrame.height =
      .ok ⟨keyIndex [(Text.ofString "k", textSumKey)] [[.int 1]], [[0, 1]],
        RowIndex.ofFrame textSumFrame, 2, [Text.ofString "k"]⟩ := by
  cbv

set_option maxRecDepth 100000 in
theorem textSum_sorted_build :
    Grouping.build [.column (Text.ofString "k") (textSumKey.pick [1, 0])]
        (RowIndex.ofFrame (textSumFrame.pick [1, 0])) (textSumFrame.pick [1, 0]).height =
      .ok ⟨keyIndex [(Text.ofString "k", textSumKey.pick [1, 0])] [[.int 1]], [[0, 1]],
        RowIndex.ofFrame (textSumFrame.pick [1, 0]), 2, [Text.ofString "k"]⟩ := by
  cbv

/-- The table `k,s / 1,a / 1,b` reaches grouping as it is, and sorted by `s` from the greatest as
its rows swapped; grouping by `k` and summing `s` gives `ab` for the first and `ba` for the
second. -/
theorem text_sum_follows_row_order :
    Csv.readTable textSumCsv = .ok textSumFrame ∧
      sortStage (groupConfig ["k"] [("s", "sum")]) textSumFrame = .ok (.frame textSumFrame) ∧
      sortStage textSumSortedConfig textSumFrame = .ok (.frame (textSumFrame.pick [1, 0])) ∧
      (runQuery (groupConfig ["k"] [("s", "sum")]) textSumFrame).toOption.map Csv.writeTable =
        some (Text.ofString "k_,s_sum\n1,ab\n") ∧
      (runQuery textSumSortedConfig textSumFrame).toOption.map Csv.writeTable =
        some (Text.ofString "k_,s_sum\n1,ba\n") := by
  have hgroup : GroupsBy (groupConfig ["k"] [("s", "sum")])
      ([(Text.ofString "k", textSumKey)].map (·.1)) [(Text.ofString "s", .sum)] :=
    groupConfig_groupsBy ["k"] [("s", .sum)]
  have hgroup' : GroupsBy textSumSortedConfig
      ([(Text.ofString "k", textSumKey.pick [1, 0])].map (·.1)) [(Text.ofString "s", .sum)] :=
    sortedGroupConfig_groupsBy "s" false ["k"] [("s", .sum)]
  have hpicks : ∀ p ∈ [(Text.ofString "k", textSumKey)],
      textSumFrame.pickBy (.str p.1) = .ok (.column p.1 p.2) :=
    picks_first rfl (by decide)
  have hpicks' : ∀ p ∈ [(Text.ofString "k", textSumKey.pick [1, 0])],
      (textSumFrame.pick [1, 0]).pickBy (.str p.1) = .ok (.column p.1 p.2) :=
    picks_first (by rw [Frame.pick_of_ne_range _ (by decide), Array.getElem?_map]; rfl)
      (by decide +kernel)
  refine ⟨textSum_read, textSum_stage, textSum_sorted_stage, ?_, ?_⟩
  · rw [runQuery_grouped hgroup textSum_stage, aggregateFrame,
      readGroupers_columns (List.cons_ne_nil _ _) hpicks]
    simp only [bind, Except.bind, pure, Except.pure, List.map_cons, List.map_nil, textSum_build]
    decide +kernel
  · rw [runQuery_grouped hgroup' textSum_sorted_stage, aggregateFrame,
      readGroupers_columns (List.cons_ne_nil _ _) hpicks']
    simp only [bind, Except.bind, pure, Except.pure, List.map_cons, List.map_nil,
      textSum_sorted_build]
    decide +kernel

end Tabula.Query
