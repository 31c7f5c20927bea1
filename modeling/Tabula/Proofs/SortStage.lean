import Tabula.Proofs.CellOrder
import Tabula.Proofs.Introsort

/-!
The sort stage. Each sort rule names a column and a direction; the rows are put in the
lexicographic order of the keys, each key in its column's natural order, reversed when descending,
with missing cells last in both directions. The comparison of rows is `rowCmp`, a lexicographic
product of total preorders. One key is sorted by the quicksort kind of argument sort
(`keyRows_pairwise`); two or more by a stable merge sort, under which rows with equal keys keep the
order they had (`mergeSortedRows_pairwise`). On a table whose columns hold one class each, which is
every table the filters hand on, this is the order `KeysLE` of the keys
(`Query.sorting_orders_rows_by_keys`).
-/

namespace Tabula

/-! ## Sort keys -/

/-- The order of one sort key: missing cells last, present cells by `classOrder`, reversed when
descending. -/
def keyCmp (ascending : Bool) : Cell → Cell → Ordering :=
  compareLex (compareOn Cell.isMissing) (if ascending then classOrder else fun a b => classOrder b a)

instance (ascending : Bool) : Std.TransCmp (keyCmp ascending) := by
  cases ascending <;> unfold keyCmp <;> simp only [Bool.false_eq_true, if_false, if_true] <;>
    infer_instance

theorem keyOrder_eq_keyCmp {k : OrderClass} {a b : Cell} (ha : a.InClass k) (hb : b.InClass k)
    (ascending : Bool) : Query.keyOrder ascending a b = keyCmp ascending a b := by
  unfold Query.keyOrder keyCmp
  cases hma : a.isMissing <;> cases hmb : b.isMissing
  · have hsa : a.orderClass = some k := ha.resolve_left (by simp [hma])
    have hsb : b.orderClass = some k := hb.resolve_left (by simp [hmb])
    cases ascending
    · simp [compareLex, compareOn, hma, hmb,
        cellOrder_eq_classOrder (a := b) (by simp [hsb]) (hsb.trans hsa.symm)]
    · simp [compareLex, compareOn, hma, hmb,
        cellOrder_eq_classOrder (a := a) (by simp [hsa]) (hsa.trans hsb.symm)]
  · simp [compareLex, compareOn, hma, hmb]
    rfl
  · simp [compareLex, compareOn, hma, hmb]
    rfl
  · cases ascending <;> simp [compareLex, compareOn, hma, hmb, classOrder_missing]

/-! ## Rows -/

def rowCmp : List (Column × Bool) → Nat → Nat → Ordering
  | [] => fun _ _ => .eq
  | (c, asc) :: rest =>
    compareLex (fun i j => keyCmp asc (c.cells.getD i .missing) (c.cells.getD j .missing))
      (rowCmp rest)

theorem rowCmp_transCmp (keys : List (Column × Bool)) : Std.TransCmp (rowCmp keys) := by
  induction keys with
  | nil => exact { eq_swap := rfl, isLE_trans := fun _ _ => rfl }
  | cons p rest ih =>
    obtain ⟨c, asc⟩ := p
    have := transCmp_comap (keyCmp asc) (fun i => c.cells.getD i .missing)
    unfold rowCmp
    infer_instance

def KeysOneClass (keys : List (Column × Bool)) : Prop := ∀ p ∈ keys, p.1.OneClass

theorem rowOrder_eq_rowCmp {keys : List (Column × Bool)} (h : KeysOneClass keys) (i j : Nat) :
    Query.rowOrder keys i j = rowCmp keys i j := by
  induction keys with
  | nil => rfl
  | cons p rest ih =>
    obtain ⟨c, asc⟩ := p
    obtain ⟨k, hk⟩ := h _ List.mem_cons_self
    rw [Query.rowOrder, rowCmp, keyOrder_eq_keyCmp (Column.OneClass.getD hk i)
      (Column.OneClass.getD hk j), ih (fun q hq => h q (List.mem_cons_of_mem _ hq))]
    dsimp only [compareLex]
    generalize keyCmp asc _ _ = o
    cases o <;> rfl

/-! ## Sorted rows -/

theorem notGT_eq_isLE (o : Ordering) : (o != .gt) = o.isLE := by
  cases o <;> rfl

theorem keyCmp_present_missing {a b : Cell} (ha : a.isMissing = false) (hb : b.isMissing = true)
    (ascending : Bool) : keyCmp ascending a b = .lt := by
  cases ascending <;> simp [keyCmp, compareLex, compareOn, ha, hb] <;> rfl

theorem keyCmp_missing_missing {a b : Cell} (ha : a.isMissing = true) (hb : b.isMissing = true)
    (ascending : Bool) : keyCmp ascending a b = .eq := by
  cases ascending <;> simp [keyCmp, compareLex, compareOn, ha, hb, classOrder_missing]

/-- Between present cells, the descending order is the ascending one read backwards. -/
theorem keyCmp_false_present {a b : Cell} (ha : a.isMissing = false) (hb : b.isMissing = false) :
    keyCmp false a b = keyCmp true b a := by
  simp [keyCmp, compareLex, compareOn, ha, hb]

theorem rowCmp_single (c : Column) (ascending : Bool) (i j : Nat) :
    rowCmp [(c, ascending)] i j =
      keyCmp ascending (c.cells.getD i .missing) (c.cells.getD j .missing) := by
  simp only [rowCmp, compareLex]
  cases keyCmp ascending _ _ <;> rfl

section OneKey

open Query.Introsort

variable (c : Column) (n : Nat)

theorem keyRows_perm (ascending : Bool) : (Query.keyRows n c ascending).Perm (List.range n) := by
  -- the rows with a present cell and those with a missing cell make up all rows
  have hsplit := List.filter_append_perm (fun i => !(c.cells.getD i .missing).isMissing)
    (List.range n)
  simp only [Bool.not_not] at hsplit
  unfold Query.keyRows
  dsimp only
  refine (List.Perm.append_right _ ?_).trans hsplit
  split
  · exact argsort_perm _ _
  · exact (List.reverse_perm _).trans ((argsort_perm _ _).trans (List.reverse_perm _))

/-- One key of one class: the rows with a present cell in the key's order, then those with a
missing cell. -/
theorem keyRows_pairwise {c : Column} (hc : c.OneClass) (ascending : Bool) :
    (Query.keyRows n c ascending).Pairwise fun i j =>
      (keyCmp ascending (c.cells.getD i .missing) (c.cells.getD j .missing)).isLE := by
  obtain ⟨k, hk⟩ := hc
  have := transCmp_comap (keyCmp true) (fun i => c.cells.getD i .missing)
  -- on the column's cells, the sort compares by the ascending key order
  have hless : (fun i j => Query.keyOrder true (c.cells.getD i .missing)
      (c.cells.getD j .missing) == .lt) =
      fun i j => keyCmp true (c.cells.getD i .missing) (c.cells.getD j .missing) == .lt := by
    funext i j
    rw [keyOrder_eq_keyCmp (Column.OneClass.getD hk i) (Column.OneClass.getD hk j)]
  have hpresent : ∀ i ∈ (List.range n).filter (fun i => !(c.cells.getD i .missing).isMissing),
      (c.cells.getD i .missing).isMissing = false := fun i hi => by
    simpa using (List.mem_filter.1 hi).2
  have hmissing : ∀ i ∈ (List.range n).filter (fun i => (c.cells.getD i .missing).isMissing),
      (c.cells.getD i .missing).isMissing = true := fun i hi => (List.mem_filter.1 hi).2
  unfold Query.keyRows
  dsimp only
  rw [hless]
  refine List.pairwise_append.2 ⟨?_, ?_, ?_⟩
  · cases ascending
    · -- fed last row first and read back reversed: the descending order of present cells
      rw [if_neg Bool.false_ne_true, List.pairwise_reverse]
      refine (argsort_sorted _).imp_of_mem fun ha hb hab => ?_
      rw [keyCmp_false_present (hpresent _ (List.mem_reverse.1 ((argsort_perm _ _).subset hb)))
        (hpresent _ (List.mem_reverse.1 ((argsort_perm _ _).subset ha)))]
      exact hab
    · exact argsort_sorted _
  · -- the rows with a missing cell are all tied
    refine (List.nodup_range.filter _).imp_of_mem fun ha hb _ => ?_
    rw [keyCmp_missing_missing (hmissing _ ha) (hmissing _ hb)]
    rfl
  · intro i hi j hj
    have hi' : i ∈ (List.range n).filter fun i => !(c.cells.getD i .missing).isMissing := by
      split at hi
      · exact (argsort_perm _ _).subset hi
      · exact List.mem_reverse.1 ((argsort_perm _ _).subset (List.mem_reverse.1 hi))
    rw [keyCmp_present_missing (hpresent i hi') (hmissing j hj)]
    rfl

end OneKey

theorem sortedRows_perm (n : Nat) (keys : List (Column × Bool)) :
    (Query.sortedRows n keys).Perm (List.range n) := by
  unfold Query.sortedRows
  split
  · exact keyRows_perm _ n _
  · exact List.mergeSort_perm _ _

theorem eq_of_mem_zipIdx_range {n : Nat} {p : Nat × Nat} (h : p ∈ (List.range n).zipIdx) :
    p.1 = p.2 := by
  rw [List.mem_zipIdx_iff_getElem?, List.getElem?_eq_some_iff] at h
  obtain ⟨hlt, heq⟩ := h
  rw [List.getElem_range] at heq
  exact heq.symm

/-- Rows merge sorted by keys of one class each come in key order, and rows with equal keys keep
the order they had. -/
theorem mergeSortedRows_pairwise {keys : List (Column × Bool)} (h : KeysOneClass keys) (n : Nat) :
    ((List.range n).mergeSort fun i j => Query.rowOrder keys i j != .gt).Pairwise fun i j =>
      (rowCmp keys i j).isLE ∧ (rowCmp keys i j = .eq → i < j) := by
  have := rowCmp_transCmp keys
  have hle : (fun i j => Query.rowOrder keys i j != .gt) = fun i j => (rowCmp keys i j).isLE := by
    funext i j
    rw [rowOrder_eq_rowCmp h, notGT_eq_isLE]
  have htotal : ∀ a b, (rowCmp keys a b).isLE || (rowCmp keys b a).isLE := by
    intro a b
    rw [@Std.OrientedCmp.eq_swap _ (rowCmp keys) _ b a]
    cases rowCmp keys a b <;> rfl
  -- merge sort is stable: ties are broken by the position in the input, which is the row itself
  have hsorted := List.pairwise_mergeSort (List.zipIdxLE_trans fun _ _ _ => Std.TransCmp.isLE_trans)
    (List.zipIdxLE_total htotal) (List.range n).zipIdx
  have hnodup := (List.mergeSort_perm (List.range n).zipIdx (List.zipIdxLE fun i j =>
    (rowCmp keys i j).isLE)).nodup_iff.2
    (List.Nodup.of_map Prod.snd (by rw [List.zipIdx_map_snd]; exact List.nodup_range' ..))
  rw [hle, ← List.mergeSort_zipIdx, List.pairwise_map]
  refine (hsorted.and hnodup).imp_of_mem fun {a b} ha hb hab => ?_
  have ha' := eq_of_mem_zipIdx_range ((List.mergeSort_perm _ _).mem_iff.1 ha)
  have hb' := eq_of_mem_zipIdx_range ((List.mergeSort_perm _ _).mem_iff.1 hb)
  obtain ⟨hzip, hne⟩ := hab
  have hne' : a.2 ≠ b.2 := fun h => hne (Prod.ext (ha'.trans (h.trans hb'.symm)) h)
  simp only [List.zipIdxLE] at hzip
  split at hzip
  · next hle =>
    refine ⟨hle, fun heq => ?_⟩
    have hba : (rowCmp keys b.1 a.1).isLE := by
      rw [@Std.OrientedCmp.eq_swap _ (rowCmp keys) _ b.1 a.1, heq]
      rfl
    rw [if_pos hba] at hzip
    have := of_decide_eq_true hzip
    omega
  · cases hzip

/-- Rows sorted by keys of one class each come in key order. -/
theorem sortedRows_pairwise {keys : List (Column × Bool)} (h : KeysOneClass keys) (n : Nat) :
    (Query.sortedRows n keys).Pairwise fun i j => (rowCmp keys i j).isLE := by
  unfold Query.sortedRows
  split
  · next c ascending =>
    simpa only [rowCmp_single] using keyRows_pairwise n (h _ List.mem_cons_self) ascending
  · exact (mergeSortedRows_pairwise h n).imp (·.1)

/-- Under two or more keys, rows with equal keys keep the order they had. -/
theorem sortedRows_stable {keys : List (Column × Bool)} (h : KeysOneClass keys)
    (hlen : 2 ≤ keys.length) (n : Nat) :
    (Query.sortedRows n keys).Pairwise fun i j => rowCmp keys i j = .eq → i < j := by
  unfold Query.sortedRows
  split
  · simp at hlen
  · exact (mergeSortedRows_pairwise h n).imp (·.2)

/-! ## Key order in the domain's terms -/

/-- One sort key's order: present cells in their natural order, reversed when descending, and a
missing cell after every present one, whatever the direction. -/
def KeyLE (ascending : Bool) (a b : Cell) : Prop :=
  b.isMissing = true ∨ (a.isMissing = false ∧ if ascending then a.NaturalLE b else b.NaturalLE a)

/-- Row `i` comes no later than row `j` in the lexicographic order of their sort keys. -/
def KeysLE : List (Column × Bool) → Nat → Nat → Prop
  | [], _, _ => True
  | (c, asc) :: rest, i, j =>
    KeyLE asc (c.cells.getD i .missing) (c.cells.getD j .missing) ∧
      (KeyLE asc (c.cells.getD j .missing) (c.cells.getD i .missing) → KeysLE rest i j)

def SameKeys (keys : List (Column × Bool)) (i j : Nat) : Prop :=
  ∀ p ∈ keys, KeyLE p.2 (p.1.cells.getD i .missing) (p.1.cells.getD j .missing) ∧
    KeyLE p.2 (p.1.cells.getD j .missing) (p.1.cells.getD i .missing)
theorem keyLE_iff {k : OrderClass} {a b : Cell} (ha : a.InClass k) (hb : b.InClass k)
    (ascending : Bool) : KeyLE ascending a b ↔ (keyCmp ascending a b).isLE := by
  unfold KeyLE keyCmp
  cases hma : a.isMissing <;> cases hmb : b.isMissing
  · have hsa : a.orderClass = some k := ha.resolve_left (by simp [hma])
    have hsb : b.orderClass = some k := hb.resolve_left (by simp [hmb])
    cases ascending
    · simp [compareLex, compareOn, hma, hmb, naturalLE_iff (a := b) (by simp [hsb]) (hsb.trans hsa.symm)]
    · simp [compareLex, compareOn, hma, hmb, naturalLE_iff (a := a) (by simp [hsa]) (hsa.trans hsb.symm)]
  · simp [compareLex, compareOn, hma, hmb]
    rfl
  · simp [compareLex, compareOn, hma, hmb]
    rfl
  · cases ascending <;> simp [compareLex, compareOn, hma, hmb, classOrder_missing]

theorem keysLE_iff {keys : List (Column × Bool)} (h : KeysOneClass keys) (i j : Nat) :
    KeysLE keys i j ↔ (rowCmp keys i j).isLE := by
  induction keys with
  | nil => simp [KeysLE, rowCmp]
  | cons p rest ih =>
    obtain ⟨c, asc⟩ := p
    obtain ⟨k, hk⟩ := h _ List.mem_cons_self
    have hi := Column.OneClass.getD hk i
    have hj := Column.OneClass.getD hk j
    rw [KeysLE, rowCmp, keyLE_iff hi hj, keyLE_iff hj hi, ih fun q hq => h q (List.mem_cons_of_mem _ hq),
      @Std.OrientedCmp.eq_swap _ (keyCmp asc) _ (c.cells.getD j .missing) (c.cells.getD i .missing)]
    dsimp only [compareLex]
    generalize keyCmp asc _ _ = o
    cases o <;> simp

theorem sameKeys_iff {keys : List (Column × Bool)} (h : KeysOneClass keys) (i j : Nat) :
    SameKeys keys i j ↔ rowCmp keys i j = .eq := by
  induction keys with
  | nil => simp [SameKeys, rowCmp]
  | cons p rest ih =>
    obtain ⟨c, asc⟩ := p
    obtain ⟨k, hk⟩ := h _ List.mem_cons_self
    have hi := Column.OneClass.getD hk i
    have hj := Column.OneClass.getD hk j
    rw [SameKeys, List.forall_mem_cons, ← SameKeys, ih fun q hq => h q (List.mem_cons_of_mem _ hq),
      keyLE_iff hi hj, keyLE_iff hj hi, rowCmp,
      @Std.OrientedCmp.eq_swap _ (keyCmp asc) _ (c.cells.getD j .missing) (c.cells.getD i .missing)]
    dsimp only [compareLex]
    generalize keyCmp asc _ _ = o
    cases o <;> simp

/-! ## The sort stage -/

open Json Query in
/-- What a sort rule asks of the frame: its column key names exactly one column, the key's column,
and its direction is the key's boolean. -/
def SortKeyOf (g : Frame) (rule : Json.Value) (key : Column × Bool) : Prop :=
  ∃ column i name, index rule "column" = .ok column ∧ g.positionsNamed column = [i] ∧
    g.columns[i]? = some (name, key.1) ∧ index rule "ascending" = .ok (.bool key.2)

theorem sortColumn_eq_ok {g : Frame} {key : Json.Value} {c : Column}
    (h : Query.sortColumn g key = .ok c) :
    ∃ i name, g.positionsNamed key = [i] ∧ g.columns[i]? = some (name, c) := by
  unfold Query.sortColumn at h
  split at h
  · next i hi =>
    split at h
    · next name c' hc =>
      cases h
      exact ⟨i, name, hi, hc⟩
    · cases h
  · cases h
  · cases h

open Json Query in
theorem sortKeyOf_zip {g : Frame} {rules : List Json.Value} {read : List (Json.Value × Json.Value)}
    {dirs : List Bool} {cols : List Column}
    (hasc : ∀ r ∈ rules, ∃ b : Bool, index r "ascending" = .ok (.bool b))
    (hread : List.Forall₂ (fun r p => index r "column" = .ok p.1 ∧ index r "ascending" = .ok p.2)
      rules read)
    (hdirs : List.Forall₂ (fun p b => direction p.2 = .ok b) read dirs)
    (hcols : List.Forall₂ (fun p c => sortColumn g p.1 = .ok c) read cols) :
    List.Forall₂ (SortKeyOf g) rules (cols.zip dirs) := by
  induction hread generalizing dirs cols with
  | nil =>
    cases hdirs
    cases hcols
    exact .nil
  | @cons r p rules read hr _ ih =>
    cases hdirs with
    | cons hd hdirs =>
      cases hcols with
      | cons hc hcols =>
        obtain ⟨b, hb⟩ := hasc r List.mem_cons_self
        obtain ⟨i, name, hi, hname⟩ := sortColumn_eq_ok hc
        refine .cons ⟨p.1, i, name, hr.1, hi, hname, ?_⟩
          (ih (fun r hr => hasc r (List.mem_cons_of_mem _ hr)) hdirs hcols)
        have hpb : p.2 = .bool b := Except.ok.inj (hr.2.symm.trans hb)
        rw [hpb] at hd
        cases hd
        exact hb

open Json Query in
theorem applySorting_eq_ok {g : Frame} {rules : List Json.Value} {t : Table}
    (hasc : ∀ r ∈ rules, ∃ b : Bool, index r "ascending" = .ok (.bool b))
    (h : applySorting (.frame g) (.arr rules) = .ok t) :
    ∃ keys, List.Forall₂ (SortKeyOf g) rules keys ∧ t = .frame (g.pick (sortedRows g.height keys)) := by
  unfold applySorting at h
  obtain ⟨rs, hrs, h⟩ := bind_eq_ok.1 h
  cases hrs
  obtain ⟨read, hread, h⟩ := bind_eq_ok.1 h
  obtain ⟨dirs, hdirs, h⟩ := bind_eq_ok.1 h
  obtain ⟨cols, hcols, h⟩ := bind_eq_ok.1 h
  cases h
  have hread' : List.Forall₂ (fun r p => index r "column" = .ok p.1 ∧
      index r "ascending" = .ok p.2) rules read := by
    refine (mapM_eq_ok_iff.1 hread).imp fun {r p} hr => ?_
    obtain ⟨c, hc, hr⟩ := bind_eq_ok.1 hr
    obtain ⟨a, ha, hr⟩ := bind_eq_ok.1 hr
    cases hr
    exact ⟨hc, ha⟩
  have hdirs' : List.Forall₂ (fun p b => direction p.2 = .ok b) read dirs := by
    refine (mapM_eq_ok_iff.1 hdirs).imp fun {p b} hd => ?_
    obtain ⟨c, a⟩ := p
    exact hd
  have hcols' : List.Forall₂ (fun p c => sortColumn g p.1 = .ok c) read cols := by
    refine (mapM_eq_ok_iff.1 hcols).imp fun {p col} hc => ?_
    obtain ⟨c, a⟩ := p
    exact hc
  exact ⟨cols.zip dirs, sortKeyOf_zip hasc hread' hdirs' hcols', rfl⟩

theorem keysOneClass_of_sortKeyOf {g : Frame} (hg : g.OneClass) {rules : List Json.Value}
    {keys : List (Column × Bool)} (h : List.Forall₂ (SortKeyOf g) rules keys) :
    KeysOneClass keys := by
  induction h with
  | nil => exact fun p hp => absurd hp List.not_mem_nil
  | cons hr _ ih =>
    obtain ⟨column, i, name, -, -, hi, -⟩ := hr
    intro p hp
    rcases List.mem_cons.1 hp with rfl | hp
    · exact hg _ (Array.mem_toList_iff.2 (Array.mem_of_getElem? hi))
    · exact ih p hp

open Json Query in
/-- The sort stage on a frame whose columns each hold one class of cells: when it completes, the
rules name one column each, and the table is the frame's rows, each once with its label, in the
lexicographic order of the keys; under two or more keys, rows with equal keys are in the order they
had. -/
theorem applySorting_orders_rows {g : Frame} (hg : g.OneClass) {rules : List Json.Value}
    {t : Table} (hasc : ∀ r ∈ rules, ∃ b : Bool, index r "ascending" = .ok (.bool b))
    (h : applySorting (.frame g) (.arr rules) = .ok t) :
    ∃ (keys : List (Column × Bool)) (σ : List Nat) (g' : Frame),
      List.Forall₂ (SortKeyOf g) rules keys ∧ t = .frame g' ∧
      σ.Perm (List.range g.height) ∧ g'.names = g.names ∧
      g'.columns.toList.map (·.2.kind) = g.columns.toList.map (·.2.kind) ∧
      (List.range g'.height).map g'.row = σ.map g.row ∧ g'.rowLabels = σ.map g.labelOf ∧
      σ.Pairwise (KeysLE keys) ∧
      (2 ≤ keys.length → σ.Pairwise fun i j => SameKeys keys i j → i < j) := by
  obtain ⟨keys, hkeys, rfl⟩ := applySorting_eq_ok hasc h
  have hk := keysOneClass_of_sortKeyOf hg hkeys
  refine ⟨keys, _, _, hkeys, rfl, sortedRows_perm _ _, g.pick_names _, g.pick_kinds _,
    g.pick_rows _, g.pick_rowLabels _,
    (sortedRows_pairwise hk g.height).imp fun hij => (keysLE_iff hk _ _).2 hij,
    fun hlen => (sortedRows_stable hk hlen g.height).imp fun hij hsame =>
      hij ((sameKeys_iff hk _ _).1 hsame)⟩

/-! ## Runs that sort -/

namespace Query

open Json

/-- Grouping is off: `grouping` is false, or its `enabled` is. -/
def GroupingOff (config : Value) : Prop :=
  ∃ g, index config "grouping" = .ok g ∧
    (g.truthy = false ∨ ∃ e, index g "enabled" = .ok e ∧ e.truthy = false)

theorem applyGrouping_off {config : Value} (h : GroupingOff config) (t : Table) :
    applyGrouping t config = .ok t := by
  obtain ⟨g, hg, hoff⟩ := h
  unfold applyGrouping
  rw [hg]
  rcases hoff with hf | ⟨e, he, hf⟩
  · simp [bind, Except.bind, hf]
    rfl
  · simp [bind, Except.bind, hf, he]
    rfl

theorem finalStages_sorting {config : Value} {rules : List Value} {t t' : Table}
    (hsorting : index config "sorting" = .ok (.arr rules)) (hne : rules ≠ [])
    (hoff : GroupingOff config) (h : finalStages config t = .ok t') :
    applySorting t (.arr rules) = .ok t' := by
  have htruthy : (Value.arr rules).truthy = true := by simpa [Value.truthy] using hne
  obtain ⟨sorting, hs, h⟩ := bind_eq_ok.1 h
  rw [lift_eq_ok, hsorting] at hs
  cases hs
  dsimp only at h
  rw [if_pos htruthy] at h
  obtain ⟨t₁, h₁, h⟩ := bind_eq_ok.1 h
  rw [lift_eq_ok] at h₁
  rw [lift_eq_ok, applyGrouping_off hoff] at h
  cases h
  exact h₁

/-- Sorting a loaded table, after any selection and filters, by rules with boolean directions and
with grouping off: when the run completes, each rule names one column of the table the filters
left, and the result holds every row of that table once, with its label, under the same columns,
each row no later than the rows after it in the lexicographic order of the keys (each key in its
column's natural order, reversed when descending, missing cells last); with two or more rules,
rows with equal keys keep the order they had. -/
theorem sorting_orders_rows_by_keys {bytes : List UInt8} {f : Frame} {config : Value}
    {rules : List Value} {t : Table} (hload : Csv.readTable bytes = .ok f)
    (hsorting : index config "sorting" = .ok (.arr rules)) (hne : rules ≠ [])
    (hasc : ∀ r ∈ rules, ∃ b : Bool, index r "ascending" = .ok (.bool b))
    (hoff : GroupingOff config) (h : runQuery config f = .ok t) :
    ∃ (g g' : Frame) (keys : List (Column × Bool)) (σ : List Nat),
      filterStage config f = .ok (.frame g) ∧ t = .frame g' ∧
      List.Forall₂ (SortKeyOf g) rules keys ∧ σ.Perm (List.range g.height) ∧
      g'.names = g.names ∧ g'.columns.toList.map (·.2.kind) = g.columns.toList.map (·.2.kind) ∧
      (List.range g'.height).map g'.row = σ.map g.row ∧ g'.rowLabels = σ.map g.labelOf ∧
      σ.Pairwise (KeysLE keys) ∧
      (2 ≤ rules.length → σ.Pairwise fun i j => SameKeys keys i j → i < j) := by
  rw [runQuery_eq_filterStage] at h
  obtain ⟨t₁, h₁, h⟩ := bind_eq_ok.1 h
  have hs := finalStages_sorting hsorting hne hoff h
  have ht₁ := filterStage_oneClass (Csv.readTable_oneClass hload) h₁
  cases t₁ with
  | series name c =>
    -- a single column has no keyword for keys
    unfold applySorting at hs
    obtain ⟨rs, -, hs⟩ := bind_eq_ok.1 hs
    obtain ⟨read, -, hs⟩ := bind_eq_ok.1 hs
    cases hs
  | frame g =>
    obtain ⟨keys, σ, g', hkeys, rfl, hperm, hnames, hkinds, hrows, hlabels, hsorted, hstable⟩ :=
      applySorting_orders_rows ht₁ hasc hs
    exact ⟨g, g', keys, σ, h₁, rfl, hkeys, hperm, hnames, hkinds, hrows, hlabels, hsorted,
      fun hlen => hstable (hkeys.length_eq ▸ hlen)⟩

def sortSampleCsv : List UInt8 := "a,b\n2,x\n1,y\n2,z\n".toUTF8.toList

def sortSampleRules : List Value :=
  [.obj [(Text.ofString "column", .str (Text.ofString "a")), (Text.ofString "ascending", .bool true)],
    .obj [(Text.ofString "column", .str (Text.ofString "b")),
      (Text.ofString "ascending", .bool false)]]

def sortSampleConfig : Value :=
  .obj [(Text.ofString "selected_columns", .arr []), (Text.ofString "filters", .arr []),
    (Text.ofString "sorting", .arr sortSampleRules), (Text.ofString "grouping", .null)]

def sortSampleFrame : Frame := (Csv.readTable sortSampleCsv).toOption.getD default

def sortSampleResult : Table := (runQuery sortSampleConfig sortSampleFrame).toOption.getD default

theorem sorting_orders_rows_by_keys_sample :
    Csv.readTable sortSampleCsv = .ok sortSampleFrame ∧
      runQuery sortSampleConfig sortSampleFrame = .ok sortSampleResult ∧
      ∃ (g g' : Frame) (keys : List (Column × Bool)) (σ : List Nat),
        filterStage sortSampleConfig sortSampleFrame = .ok (.frame g) ∧ sortSampleResult = .frame g' ∧
        List.Forall₂ (SortKeyOf g) sortSampleRules keys ∧ σ.Perm (List.range g.height) ∧
        g'.names = g.names ∧
        g'.columns.toList.map (·.2.kind) = g.columns.toList.map (·.2.kind) ∧
        (List.range g'.height).map g'.row = σ.map g.row ∧ g'.rowLabels = σ.map g.labelOf ∧
        σ.Pairwise (KeysLE keys) ∧
        (2 ≤ sortSampleRules.length → σ.Pairwise fun i j => SameKeys keys i j → i < j) := by
  have hload : Csv.readTable sortSampleCsv = .ok sortSampleFrame := eq_ok_getD (by decide +kernel)
  have h : runQuery sortSampleConfig sortSampleFrame = .ok sortSampleResult :=
    eq_ok_getD (by decide +kernel)
  have hasc : ∀ r ∈ sortSampleRules, ∃ b : Bool, index r "ascending" = .ok (.bool b) := by
    intro r hr
    simp only [sortSampleRules, List.mem_cons, List.not_mem_nil, or_false] at hr
    rcases hr with rfl | rfl
    · exact ⟨true, rfl⟩
    · exact ⟨false, rfl⟩
  exact ⟨hload, h, sorting_orders_rows_by_keys hload rfl (List.cons_ne_nil _ _) hasc
    ⟨.null, rfl, .inl rfl⟩ h⟩

end Query

end Tabula
