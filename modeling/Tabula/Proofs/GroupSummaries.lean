import Tabula.Proofs.GroupResult

/-!
What a summary column says of each group of rows. A count is the number of the group's rows whose
cell is present (`summarizeColumn_count`), and the counts of all groups add up to the rows whose
key cells and cell are present (`GroupedBy.sum_presentRows_length`). A minimum or a maximum is a
least or a greatest present cell of the group under `classOrder`, or missing when none is present
(`summarizeColumn_min`, `summarizeColumn_max`): the fold that keeps the running best ends at a
least value (`foldl_keepBest`). A sum of an integer column is the exact sum wrapped around into
64 bits (`summarizeColumn_sum_int64`, `summarizeColumn_sum_uint64`), which is the exact sum
exactly when that lies in the column's range (`wrapSigned_eq_self_iff`,
`wrapUnsigned_eq_self_iff`).
-/

namespace Tabula.Query

/-! ## Summaries by group -/

theorem map_eq_ok {ε α β : Type} {f : α → β} {x : Except ε α} {b : β} :
    x.map f = .ok b ↔ ∃ a, x = .ok a ∧ f a = b := by
  cases x <;> simp [Except.map]

/-- Outside deviations, skewness and the positions of extremes, a column's summaries are those of
its groups' cells, under the summary's kind. -/
theorem summarizeColumn_eq {c : Column} {agg : Agg}
    (hnum : (agg == .std || agg == .sem || agg == .skew) = false)
    (hidx : (agg == .idxmax || agg == .idxmin) = false) (groups : List (List Nat))
    (labels : Array Cell) :
    summarizeColumn c agg groups labels =
      (groups.mapM fun rows => summarize c.kind agg (rows.map (cellAt c)) (rows.map fun _ => nan)
        (rows.map fun i => labels.getD i .missing)).map
        fun cells => ⟨agg.resultKind c.kind, cells.toArray⟩ := by
  simp only [summarizeColumn, hnum, hidx, Bool.false_eq_true, if_false, pure_bind, Bool.false_and]
  -- no numbers are read, so each group's numbers are NaN
  show (groups.mapM fun rows => summarize c.kind agg (rows.map (cellAt c)) (rows.map fun _ => nan)
    (rows.map fun i => labels.getD i .missing)) >>= _ = _
  cases groups.mapM fun rows => summarize c.kind agg (rows.map (cellAt c)) (rows.map fun _ => nan)
    (rows.map fun i => labels.getD i .missing) <;> rfl

theorem summarizeColumn_of_forall {c : Column} {agg : Agg}
    (hnum : (agg == .std || agg == .sem || agg == .skew) = false)
    (hidx : (agg == .idxmax || agg == .idxmin) = false) {groups : List (List Nat)}
    {labels : Array Cell} {F : List Nat → Cell}
    (h : ∀ rows ∈ groups, summarize c.kind agg (rows.map (cellAt c)) (rows.map fun _ => nan)
      (rows.map fun i => labels.getD i .missing) = .ok (F rows)) :
    summarizeColumn c agg groups labels = .ok ⟨agg.resultKind c.kind, (groups.map F).toArray⟩ := by
  rw [summarizeColumn_eq hnum hidx, mapM_eq_ok_of_forall h]
  rfl

/-! ## Counts -/

def presentRows (c : Column) (rows : List Nat) : List Nat :=
  rows.filter fun i => !(cellAt c i).isMissing

theorem summarize_count (k : Kind) (cells : List Cell) (numbers : List Float) (labels : List Cell) :
    summarize k .count cells numbers labels = .ok (.int (cells.filter (!·.isMissing)).length) :=
  rfl

theorem summarizeColumn_count (c : Column) (groups : List (List Nat)) (labels : Array Cell) :
    summarizeColumn c .count groups labels =
      .ok ⟨.int64, (groups.map fun rows => Cell.int (presentRows c rows).length).toArray⟩ :=
  summarizeColumn_of_forall rfl rfl fun rows _ => by
    rw [summarize_count, List.filter_map, List.length_map]
    rfl

/-- The counts of the groups add up to the rows whose key cells and cell in `c` are all present:
no row is counted twice or lost. -/
theorem GroupedBy.sum_presentRows_length {cols : List Column} {height : Nat}
    {groups : List (List Nat)} {labels : List (List Cell)} (h : GroupedBy cols height groups labels)
    (c : Column) :
    (groups.map fun rows => (presentRows c rows).length).sum =
      ((List.range height).filter fun i => keysPresent cols i && !(cellAt c i).isMissing).length := by
  have hflat : (groups.map fun rows => (presentRows c rows).length).sum =
      (presentRows c groups.flatten).length := by
    simp [presentRows, List.filter_flatten, List.length_flatten, List.map_map, Function.comp_def]
  rw [hflat, presentRows, (h.perm.filter _).length_eq, List.filter_filter]
  congr 1
  exact List.filter_congr fun i _ => Bool.and_comm _ _

/-! ## Extremes -/

/-- `r` is a least present cell of `cells` under `cmp`, or missing when no cell is present. -/
def LeastPresent (cmp : Cell → Cell → Ordering) (cells : List Cell) (r : Cell) : Prop :=
  if cells.all (·.isMissing) then r = .missing
  else r ∈ cells ∧ r.isMissing = false ∧ ∀ y ∈ cells, y.isMissing = false → (cmp r y).isLE

section KeepBest

variable {α : Type} {cmp : α → α → Ordering} [Std.TransCmp cmp]

/-- Keeping a running value and replacing it by each later value strictly below it ends at a least
value of the start and the rest. The test `better` need only agree with "strictly below" on the
values `S` holds of. -/
theorem foldl_keepBest {S : α → Prop} {better : α → α → Bool}
    (hb : ∀ x y, S x → S y → better x y = (cmp x y == .lt)) (xs : List α) {a r : α} (ha : S a)
    (hxs : ∀ x ∈ xs, S x) (hr : xs.foldl (fun acc x => if better x acc then x else acc) a = r) :
    r ∈ a :: xs ∧ ∀ y ∈ a :: xs, (cmp r y).isLE := by
  induction xs generalizing a with
  | nil =>
    subst hr
    exact ⟨List.mem_cons_self, fun y hy => by
      rw [List.mem_singleton.1 hy]
      exact Std.ReflCmp.isLE_rfl⟩
  | cons x xs ih =>
    have hx := hxs x List.mem_cons_self
    have hrest : ∀ y ∈ xs, S y := fun y hy => hxs y (List.mem_cons_of_mem _ hy)
    rw [List.foldl_cons] at hr
    by_cases hbx : better x a = true
    · -- `x` replaces `a`, being strictly below it
      rw [if_pos hbx] at hr
      obtain ⟨hmem, hle⟩ := ih hx hrest hr
      have hxa : cmp x a = .lt := by simpa [hb x a hx ha] using hbx
      refine ⟨List.mem_cons_of_mem _ hmem, fun y hy => ?_⟩
      rcases List.mem_cons.1 hy with rfl | hy
      · exact Std.TransCmp.isLE_trans (hle x List.mem_cons_self) (Ordering.isLE_of_eq_lt hxa)
      · exact hle y hy
    · -- `a` stays, being at or below `x`
      rw [if_neg hbx] at hr
      obtain ⟨hmem, hle⟩ := ih ha hrest hr
      have hax : (cmp a x).isLE := by
        by_contra hnot
        exact hbx (by simp [hb x a hx ha, Std.OrientedCmp.lt_of_not_isLE hnot])
      refine ⟨List.cons_subset_cons _ (List.subset_cons_self _ _) hmem, fun y hy => ?_⟩
      rcases List.mem_cons.1 hy with rfl | hy
      · exact hle y List.mem_cons_self
      rcases List.mem_cons.1 hy with rfl | hy
      · exact Std.TransCmp.isLE_trans (hle _ List.mem_cons_self) hax
      · exact hle y (List.mem_cons_of_mem _ hy)

end KeepBest

/-- On cells of one class, a test that agrees there with "strictly below" under `cmp` picks a least
present cell, or a missing one when none is present. -/
theorem extreme_leastPresent {k : OrderClass} {cmp : Cell → Cell → Ordering} [Std.TransCmp cmp]
    {better : Cell → Cell → Bool}
    (hb : ∀ x y, x.orderClass = some k → y.orderClass = some k → better x y = (cmp x y == .lt))
    {cells : List Cell} (hc : ∀ x ∈ cells, x.InClass k) :
    LeastPresent cmp cells (extreme better cells) := by
  -- the present cells are those of class `k`
  have hpresent : ∀ x ∈ cells.filter (!·.isMissing), x.orderClass = some k := by
    intro x hx
    obtain ⟨hx, hxm⟩ := List.mem_filter.1 hx
    exact (hc x hx).resolve_left (by simpa using hxm)
  unfold extreme
  split
  case h_1 hnil =>
    rw [LeastPresent, if_pos (by simpa [List.filter_eq_nil_iff] using hnil)]
  case h_2 c rest hcons =>
    rw [LeastPresent]
    have hc₀ : c ∈ cells.filter (!·.isMissing) := hcons ▸ List.mem_cons_self
    rw [if_neg (by
      obtain ⟨hmem, hm⟩ := List.mem_filter.1 hc₀
      simpa using ⟨c, hmem, by simpa using hm⟩)]
    obtain ⟨hmem, hle⟩ := foldl_keepBest hb rest (hpresent c hc₀)
      (fun x hx => hpresent x (hcons ▸ List.mem_cons_of_mem _ hx)) rfl
    rw [← hcons] at hmem hle
    obtain ⟨hr, hrm⟩ := List.mem_filter.1 hmem
    exact ⟨hr, by simpa using hrm, fun y hy hym => hle y (List.mem_filter.2 ⟨hy, by simp [hym]⟩)⟩

theorem smaller_eq {k : OrderClass} {x y : Cell} (hx : x.orderClass = some k)
    (hy : y.orderClass = some k) : smaller x y = (classOrder x y == .lt) := by
  rw [smaller, cellOrder_eq_classOrder (by simp [hx]) (hx.trans hy.symm)]

theorem greater_eq {k : OrderClass} {x y : Cell} (hx : x.orderClass = some k)
    (hy : y.orderClass = some k) : greater x y = (classOrder y x == .lt) := by
  rw [greater, cellOrder_eq_classOrder (by simp [hx]) (hx.trans hy.symm),
    @Std.OrientedCmp.eq_swap _ classOrder _ x y]
  cases classOrder y x <;> rfl

theorem mixedExtreme_eq {agg : Agg} {cells : List Cell} {x : Cell}
    (h : mixedExtreme agg cells = .ok x) :
    x = extreme (if agg == .max then greater else smaller) cells := by
  rw [mixedExtreme] at h
  split at h
  · cases h
  · cases h
    rfl

theorem summarize_extreme {k : Kind} {agg : Agg} (hagg : agg = .min ∨ agg = .max)
    {cells : List Cell} {numbers : List Float} {labels : List Cell} {x : Cell}
    (h : summarize k agg cells numbers labels = .ok x) :
    x = extreme (if agg == .max then greater else smaller) cells := by
  rcases hagg with rfl | rfl <;> simp only [summarize] at h <;> split at h
  all_goals first | exact mixedExtreme_eq h | (cases h; rfl)

/-- The summaries `min` and `max` of a column hold, group by group, the extreme its test picks from
the group's cells. -/
theorem summarizeColumn_extreme {c : Column} {agg : Agg} (hagg : agg = .min ∨ agg = .max)
    {groups : List (List Nat)} {labels : Array Cell} {col : Column}
    (h : summarizeColumn c agg groups labels = .ok col) :
    List.Forall₂ (fun rows x => x = extreme (if agg == .max then greater else smaller)
      (rows.map (cellAt c))) groups col.cells.toList := by
  have hnum : (agg == .std || agg == .sem || agg == .skew) = false := by
    rcases hagg with rfl | rfl <;> rfl
  have hidx : (agg == .idxmax || agg == .idxmin) = false := by
    rcases hagg with rfl | rfl <;> rfl
  rw [summarizeColumn_eq hnum hidx, map_eq_ok] at h
  obtain ⟨cells, hcells, rfl⟩ := h
  exact (mapM_eq_ok_iff.1 hcells).imp fun rows x hx => summarize_extreme hagg hx

theorem summarizeColumn_min {c : Column} (hc : c.OneClass) {groups : List (List Nat)}
    {labels : Array Cell} {col : Column} (h : summarizeColumn c .min groups labels = .ok col) :
    List.Forall₂ (fun rows x => LeastPresent classOrder (rows.map (cellAt c)) x) groups
      col.cells.toList := by
  obtain ⟨k, hk⟩ := hc
  refine (summarizeColumn_extreme (.inl rfl) h).imp fun rows x hx => ?_
  subst hx
  exact extreme_leastPresent (fun x y hx hy => smaller_eq hx hy)
    (fun x hx => by
      obtain ⟨i, -, rfl⟩ := List.mem_map.1 hx
      exact Column.OneClass.getD hk i)

theorem summarizeColumn_max {c : Column} (hc : c.OneClass) {groups : List (List Nat)}
    {labels : Array Cell} {col : Column} (h : summarizeColumn c .max groups labels = .ok col) :
    List.Forall₂ (fun rows x => LeastPresent (fun a b => classOrder b a) (rows.map (cellAt c)) x)
      groups col.cells.toList := by
  obtain ⟨k, hk⟩ := hc
  refine (summarizeColumn_extreme (.inr rfl) h).imp fun rows x hx => ?_
  subst hx
  exact extreme_leastPresent (fun x y hx hy => greater_eq hx hy)
    (fun x hx => by
      obtain ⟨i, -, rfl⟩ := List.mem_map.1 hx
      exact Column.OneClass.getD hk i)

/-! ## Integer sums -/

theorem wrapSigned_eq_self_iff (n : Int) :
    wrapSigned n = n ↔ -9223372036854775808 ≤ n ∧ n < 9223372036854775808 := by
  have h63 : Int.ofNat (Nat.pow 2 63) = 9223372036854775808 := rfl
  have h64 : Int.ofNat (Nat.pow 2 64) = 18446744073709551616 := rfl
  rw [wrapSigned, h63, h64]
  omega

theorem wrapUnsigned_eq_self_iff (n : Int) :
    wrapUnsigned n = n ↔ 0 ≤ n ∧ n < 18446744073709551616 := by
  have h64 : Int.ofNat (Nat.pow 2 64) = 18446744073709551616 := rfl
  rw [wrapUnsigned, h64]
  omega

/-- The sum of a signed column's cells is their exact sum, booleans counting as `0` and `1`,
wrapped around into 64 bits. -/
theorem numericSum_int64 (cells : List Cell) :
    numericSum .int64 cells = .int (wrapSigned (cells.map Cell.numberKey).sum) := by
  simp only [numericSum]
  congr 2
  -- the running sum grows by each cell's number, the last cell last
  induction cells using List.reverseRecOn with
  | nil => rfl
  | append_singleton xs x ih =>
    rw [List.foldl_append, ih, List.map_append, List.sum_append]
    cases x with
    | bool b => cases b <;> simp [Cell.numberKey]
    | _ => simp [Cell.numberKey]

/-- The sum of an unsigned column's cells, integers or missing, is their exact sum wrapped around
into 64 bits. -/
theorem numericSum_uint64 {cells : List Cell} (h : ∀ x ∈ cells, x.fitsKind .uint64 = true) :
    numericSum .uint64 cells = .int (wrapUnsigned (cells.map Cell.numberKey).sum) := by
  simp only [numericSum]
  congr 2
  induction cells using List.reverseRecOn with
  | nil => rfl
  | append_singleton xs x ih =>
    have hx := h x (by simp)
    rw [List.foldl_append, ih (fun y hy => h y (by simp [hy])), List.map_append, List.sum_append]
    cases x <;> simp_all [Cell.numberKey, Cell.fitsKind]

/-- The exact sum of a group's cells in `c`, booleans counting as `0` and `1` and missing cells
as `0`. -/
def groupSum (c : Column) (rows : List Nat) : Int := (rows.map fun i => (cellAt c i).numberKey).sum

theorem summarizeColumn_sum {c : Column} (hk : c.kind ≠ .object) (groups : List (List Nat))
    (labels : Array Cell) :
    summarizeColumn c .sum groups labels = .ok ⟨Agg.resultKind c.kind .sum,
      (groups.map fun rows => numericSum c.kind (rows.map (cellAt c))).toArray⟩ :=
  summarizeColumn_of_forall rfl rfl fun rows _ => by
    simp only [summarize, beq_iff_eq, hk, if_false]

theorem summarizeColumn_sum_int64 {c : Column} (hk : c.kind = .int64) (groups : List (List Nat))
    (labels : Array Cell) :
    summarizeColumn c .sum groups labels =
      .ok ⟨.int64, (groups.map fun rows => Cell.int (wrapSigned (groupSum c rows))).toArray⟩ := by
  rw [summarizeColumn_sum (by simp [hk]), hk]
  simp [numericSum_int64, groupSum, Agg.resultKind, Function.comp_def]

theorem summarizeColumn_sum_uint64 {c : Column} (hk : c.kind = .uint64) (hc : c.Typed)
    (groups : List (List Nat)) (labels : Array Cell) :
    summarizeColumn c .sum groups labels =
      .ok ⟨.uint64, (groups.map fun rows => Cell.int (wrapUnsigned (groupSum c rows))).toArray⟩ := by
  have hfit : ∀ rows : List Nat, ∀ x ∈ rows.map (cellAt c), x.fitsKind .uint64 = true := by
    intro rows x hx
    obtain ⟨i, -, rfl⟩ := List.mem_map.1 hx
    exact hk ▸ hc.getD i
  rw [summarizeColumn_sum (by simp [hk]), hk]
  simp [numericSum_uint64 (hfit _), groupSum, Agg.resultKind, Function.comp_def]

end Tabula.Query
