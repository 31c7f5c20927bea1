import Tabula.Proofs.CellOrder
import Tabula.Proofs.TextRules

/-!
How the labels of groups are sorted. Labels are sorted by inserting each into a run kept greatest
first (`sortLabels`); where the comparison is the strict order of a total preorder and no two
labels are equal under it, the sort fails nowhere and gives the labels in increasing order
(`sortLabels_sorted`), and labels already increasing come back as they are
(`sortLabels_of_sorted`). Between present cells of one class, being one key (`sameCell`) and
coming first (`labelLess`) are the equality and the order of `classOrder`. So the distinct present
cells of a column of one class in order of first appearance (`firstSeen`) sort into a list strictly
increasing under `classOrder`, and every present cell is equal to exactly one of them, found at
its code (`Grouper.codes_column`, `codeIn_present`).
-/

namespace Tabula

theorem Text.eq_iff_points {s t : Text} : s = t ↔ s.points = t.points := by
  cases s
  cases t
  simp

theorem Cell.isNaN_eq_isMissing (x : Cell) : x.isNaN = x.isMissing := by
  cases x <;> rfl

namespace Query

/-! ## Cells of one class as labels -/

section OneClass

variable {k : OrderClass} {a b : Cell}

theorem sameScalar_eq (ha : a.orderClass = some k) (hb : b.orderClass = some k) :
    sameScalar a b = (classOrder a b == .eq) := by
  have hab : a.orderClass = b.orderClass := ha.trans hb.symm
  replace ha : a.orderClass.isSome := by simp [ha]
  clear hb
  cases a <;> cases b <;> simp_all [Cell.orderClass, sameScalar, Cell.isNaN, cellNum,
    Num.compare?, classOrder, compareLex, compareOn, Cell.numberKey, Cell.unpackedKey,
    Cell.textKey, compareFloats_eq, unpackedCmp_zero, Text.eq_iff_points]

theorem scalarLess_eq (ha : a.orderClass = some k) (hb : b.orderClass = some k) :
    scalarLess a b = .ok (classOrder a b == .lt) := by
  have hab : a.orderClass = b.orderClass := ha.trans hb.symm
  replace ha : a.orderClass.isSome := by simp [ha]
  clear hb
  cases a <;> cases b <;> simp_all [Cell.orderClass, scalarLess, cellNum,
    Num.compare?, classOrder, compareLex, compareOn, Cell.numberKey, Cell.unpackedKey,
    Cell.textKey, compareFloats_eq, unpackedCmp_zero, compareLex_eq_compare]

theorem sameCell_eq (ha : a.orderClass = some k) (hb : b.orderClass = some k) :
    sameCell a b = (classOrder a b == .eq) := by
  rw [← sameScalar_eq ha hb]
  unfold sameCell
  split
  · simp [Cell.orderClass] at ha
  · simp [Cell.orderClass] at ha
  · simp [Cell.orderClass] at hb
  · rfl

theorem labelLess_eq (ha : a.orderClass = some k) (hb : b.orderClass = some k) :
    labelLess a b = .ok (classOrder a b == .lt) := by
  rw [← scalarLess_eq ha hb]
  unfold labelLess
  split
  · simp [Cell.orderClass] at ha
  · simp [Cell.orderClass] at ha
  · simp [Cell.orderClass] at hb
  · rfl

theorem mixedIntegers_eq_false {xs : List Cell} (hk : ∀ x ∈ xs, x.orderClass = some k) :
    mixedIntegers xs = false := by
  unfold mixedIntegers
  cases k
  case integer =>
    -- a class of integers holds nothing else
    have hall : ∀ x ∈ xs, ∃ n, x = .int n := by
      intro x hx
      have := hk x hx
      cases x <;> simp_all [Cell.orderClass]
    simp only [Bool.and_eq_false_iff, Bool.not_eq_false', List.all_eq_true]
    refine .inr fun x hx => ?_
    obtain ⟨n, rfl⟩ := hall x hx
    rfl
  all_goals
    simp only [Bool.and_eq_false_iff, List.any_eq_false]
    refine .inl fun x hx => ?_
    have := hk x hx
    cases x <;> simp_all [Cell.orderClass]

end OneClass

/-! ## Sorting by insertion -/

section InsertionSort

variable {α : Type} {less : α → α → Except Fault Bool} {cmp : α → α → Ordering}
  [Std.TransCmp cmp]

/-- Inserting a value unlike every member of a run kept greatest first, where `less` is the
strict order of `cmp`, keeps the run greatest first and fails nowhere. -/
theorem insertFromTop_sorted {v : α} {run : List α}
    (hless : ∀ x ∈ run, less v x = .ok (cmp v x == .lt)) (hne : ∀ x ∈ run, cmp v x ≠ .eq)
    (hrun : run.Pairwise fun x y => cmp y x = .lt) :
    ∃ r, insertFromTop less v run = (r, none) ∧ r.Perm (v :: run) ∧
      r.Pairwise fun x y => cmp y x = .lt := by
  induction run with
  | nil => exact ⟨[v], rfl, .refl _, List.pairwise_singleton _ _⟩
  | cons x rest ih =>
    obtain ⟨hx, hrest⟩ := List.pairwise_cons.1 hrun
    rw [insertFromTop, hless x List.mem_cons_self]
    cases hvx : cmp v x with
    | lt =>
      -- `v` goes below `x`
      obtain ⟨r, hr, hperm, hsorted⟩ := ih (fun y hy => hless y (List.mem_cons_of_mem _ hy))
        (fun y hy => hne y (List.mem_cons_of_mem _ hy)) hrest
      refine ⟨x :: r, by simp [hr], (hperm.cons x).trans (.swap v x rest), ?_⟩
      refine List.pairwise_cons.2 ⟨fun y hy => ?_, hsorted⟩
      rcases List.mem_cons.1 (hperm.mem_iff.1 hy) with rfl | hy
      · exact hvx
      · exact hx y hy
    | eq => exact absurd hvx (hne x List.mem_cons_self)
    | gt =>
      -- `v` is above `x`, so above the whole run
      have hxv : cmp x v = .lt := Std.OrientedCmp.lt_of_gt hvx
      refine ⟨v :: x :: rest, rfl, .refl _, List.pairwise_cons.2 ⟨fun y hy => ?_, hrun⟩⟩
      rcases List.mem_cons.1 hy with rfl | hy
      · exact hxv
      · exact Std.TransCmp.lt_trans (hx y hy) hxv

theorem foldl_insertFromTop_sorted (step : List α × Option Fault → α → List α × Option Fault)
    (hstep : ∀ run v, step (run, none) v = insertFromTop less v run) {xs run : List α}
    (hless : ∀ a ∈ xs, ∀ b ∈ xs ++ run, less a b = .ok (cmp a b == .lt))
    (hne : (xs ++ run).Pairwise fun a b => cmp a b ≠ .eq)
    (hrun : run.Pairwise fun x y => cmp y x = .lt) :
    ∃ r, xs.foldl step (run, none) = (r, none) ∧ r.Perm (xs.reverse ++ run) ∧
      r.Pairwise fun x y => cmp y x = .lt := by
  induction xs generalizing run with
  | nil => exact ⟨run, rfl, .refl _, hrun⟩
  | cons v xs ih =>
    obtain ⟨hv, hrest⟩ := List.pairwise_cons.1 hne
    obtain ⟨r₁, h₁, hperm₁, hsorted₁⟩ := insertFromTop_sorted
      (fun x hx => hless v List.mem_cons_self x (by simp [hx]))
      (fun x hx => hv x (List.mem_append_right _ hx)) hrun
    -- `r₁` holds `v` and the run, so the rest meets the same values as before
    have hmem : ∀ b ∈ xs ++ r₁, b ∈ (v :: xs) ++ run := by
      intro b hb
      rcases List.mem_append.1 hb with hb | hb
      · exact List.mem_append_left _ (List.mem_cons_of_mem _ hb)
      · rcases List.mem_cons.1 (hperm₁.mem_iff.1 hb) with rfl | hb
        · exact List.mem_append_left _ List.mem_cons_self
        · exact List.mem_append_right _ hb
    have hne₁ : (xs ++ r₁).Pairwise fun a b => cmp a b ≠ .eq := by
      have hperm : (xs ++ r₁).Perm ((v :: xs) ++ run) :=
        (hperm₁.append_left xs).trans List.perm_middle
      exact (hperm.pairwise_iff fun {a b} h hba => h (Std.OrientedCmp.eq_symm hba)).2 hne
    obtain ⟨r, h, hperm, hsorted⟩ := ih (fun a ha b hb => hless a (List.mem_cons_of_mem _ ha) b
      (hmem b hb)) hne₁ hsorted₁
    refine ⟨r, by rw [List.foldl_cons, hstep, h₁, h], ?_, hsorted⟩
    have hlist : xs.reverse ++ (v :: run) = (v :: xs).reverse ++ run := by simp
    exact hlist ▸ hperm.trans (hperm₁.append_left _)

/-- Sorting values no two of which are equal under `cmp`, where `less` is the strict order of
`cmp`, fails nowhere and gives them in increasing order. -/
theorem sortLabels_sorted {xs : List α}
    (hless : ∀ a ∈ xs, ∀ b ∈ xs, less a b = .ok (cmp a b == .lt))
    (hne : xs.Pairwise fun a b => cmp a b ≠ .eq) :
    ∃ ys, sortLabels less xs = .ok ys ∧ ys.Perm xs ∧ ys.Pairwise fun a b => cmp a b = .lt := by
  unfold sortLabels
  extract_lets step
  obtain ⟨r, h, hperm, hsorted⟩ := foldl_insertFromTop_sorted step (fun _ _ => rfl)
    (by simpa using hless) (by simpa using hne) List.Pairwise.nil
  rw [h]
  refine ⟨r.reverse, rfl, ?_, List.pairwise_reverse.2 hsorted⟩
  exact (List.reverse_perm r).trans (hperm.trans (by simp))

theorem sortLabels_of_sorted {xs : List α}
    (hless : ∀ a ∈ xs, ∀ b ∈ xs, less a b = .ok (cmp a b == .lt))
    (hsorted : xs.Pairwise fun a b => cmp a b = .lt) : sortLabels less xs = .ok xs := by
  obtain ⟨ys, h, hperm, hys⟩ := sortLabels_sorted hless (hsorted.imp fun h => by simp [h])
  rw [h, hperm.eq_of_pairwise (fun a b _ _ hab hba => ?_) hys hsorted]
  -- `a` below `b` and `b` below `a` cannot both hold
  rw [Std.OrientedCmp.gt_of_lt hab] at hba
  cases hba

end InsertionSort

/-! ## A column's sorted distinct values -/

section Codes

variable {k : OrderClass}

theorem foldl_firstSeen (step : List Cell → Cell → List Cell)
    (hstep : ∀ acc c, step acc c = if acc.any (sameCell c) then acc else acc ++ [c])
    {xs acc : List Cell} (hk : ∀ x ∈ xs ++ acc, x.orderClass = some k)
    (hacc : acc.Pairwise fun a b => classOrder a b ≠ .eq) :
    (∀ y ∈ xs.foldl step acc, y ∈ acc ∨ y ∈ xs) ∧ (∀ y ∈ acc, y ∈ xs.foldl step acc) ∧
      (xs.foldl step acc).Pairwise (fun a b => classOrder a b ≠ .eq) ∧
      ∀ x ∈ xs, ∃ y ∈ xs.foldl step acc, classOrder x y = .eq := by
  induction xs generalizing acc with
  | nil => exact ⟨fun y hy => .inl hy, fun y hy => hy, hacc, fun x hx => absurd hx List.not_mem_nil⟩
  | cons c xs ih =>
    have hc : c.orderClass = some k := hk c (by simp)
    -- one step keeps the gathered cells distinct, and `c` equal to one of them
    have hnext : (step acc c).Pairwise (fun a b => classOrder a b ≠ .eq) ∧
        (∀ y ∈ step acc c, y ∈ acc ∨ y = c) ∧ (∀ y ∈ acc, y ∈ step acc c) ∧
        ∃ y ∈ step acc c, classOrder c y = .eq := by
      rw [hstep]
      by_cases hany : acc.any (sameCell c) = true
      · rw [if_pos hany]
        obtain ⟨y, hy, hsame⟩ := List.any_eq_true.1 hany
        rw [sameCell_eq hc (hk y (by simp [hy]))] at hsame
        exact ⟨hacc, fun y hy => .inl hy, fun y hy => hy, y, hy, by simpa using hsame⟩
      · rw [if_neg hany]
        refine ⟨List.pairwise_append.2 ⟨hacc, List.pairwise_singleton _ _, ?_⟩,
          fun y hy => by simpa using hy, fun y hy => by simp [hy], c, by simp,
          Std.ReflCmp.compare_self⟩
        intro y hy z hz heq
        rw [List.mem_singleton] at hz
        rw [hz] at heq
        have hsame := sameCell_eq hc (hk y (by simp [hy]))
        have : sameCell c y = false := by simpa using fun h => hany (List.any_eq_true.2 ⟨y, hy, h⟩)
        rw [this, Std.OrientedCmp.eq_comm.1 heq] at hsame
        cases hsame
    obtain ⟨hpair, hfrom, hkeep, y, hy, hcy⟩ := hnext
    have hk' : ∀ x ∈ xs ++ step acc c, x.orderClass = some k := by
      intro x hx
      rcases List.mem_append.1 hx with hx | hx
      · exact hk x (by simp [hx])
      · rcases hfrom x hx with hx | rfl
        · exact hk x (by simp [hx])
        · exact hc
    obtain ⟨ih₁, ih₂, ih₃, ih₄⟩ := ih hk' hpair
    rw [List.foldl_cons]
    refine ⟨fun z hz => ?_, fun z hz => ih₂ z (hkeep z hz), ih₃, fun x hx => ?_⟩
    · rcases ih₁ z hz with hz | hz
      · rcases hfrom z hz with hz | rfl
        · exact .inl hz
        · exact .inr List.mem_cons_self
      · exact .inr (List.mem_cons_of_mem _ hz)
    · rcases List.mem_cons.1 hx with rfl | hx
      · exact ⟨y, ih₂ y hy, hcy⟩
      · exact ih₄ x hx

/-- The distinct cells in order of first appearance: cells of the list, no two equal, and one
equal to each cell. -/
theorem firstSeen_spec {xs : List Cell} (hk : ∀ x ∈ xs, x.orderClass = some k) :
    (∀ y ∈ firstSeen xs, y ∈ xs) ∧ (firstSeen xs).Pairwise (fun a b => classOrder a b ≠ .eq) ∧
      ∀ x ∈ xs, ∃ y ∈ firstSeen xs, classOrder x y = .eq := by
  unfold firstSeen
  obtain ⟨h₁, -, h₃, h₄⟩ := foldl_firstSeen _ (fun _ _ => rfl) (by simpa using hk)
    List.Pairwise.nil
  exact ⟨fun y hy => (h₁ y hy).resolve_left List.not_mem_nil, h₃, h₄⟩

theorem safeSort_sorted {xs : List Cell} (hk : ∀ x ∈ xs, x.orderClass = some k)
    (hne : xs.Pairwise fun a b => classOrder a b ≠ .eq) :
    ∃ ys, safeSort xs = .ok ys ∧ ys.Perm xs ∧ ys.Pairwise fun a b => classOrder a b = .lt := by
  obtain ⟨ys, h, hperm, hsorted⟩ := sortLabels_sorted
    (fun a ha b hb => labelLess_eq (hk a ha) (hk b hb)) hne
  refine ⟨ys, ?_, hperm, hsorted⟩
  unfold safeSort
  rw [mixedIntegers_eq_false hk, if_neg Bool.false_ne_true, h]

/-- The code of a cell among a column's sorted distinct values: the position of the one it
equals, none for a missing cell. -/
def codeIn (uniq : List Cell) (x : Cell) : Option Nat :=
  if x.isNaN then none else uniq.findIdx? (sameCell x)

theorem codeIn_missing {uniq : List Cell} {x : Cell} (h : x.isMissing = true) :
    codeIn uniq x = none := by
  rw [codeIn, Cell.isNaN_eq_isMissing, if_pos h]

/-- A column whose present cells are of one class has sorted distinct values, strictly
increasing, each a present cell of the column, with one equal to each present cell. -/
theorem Grouper.codes_column {n : Text} {c : Column} (hc : ∀ x ∈ c.cells.toList, x.InClass k) :
    ∃ uniq, (Grouper.column n c).codes = .ok (c.kind, uniq, c.cells.toList.map (codeIn uniq)) ∧
      uniq.Pairwise (fun a b => classOrder a b = .lt) ∧
      (∀ u ∈ uniq, u ∈ c.cells.toList ∧ u.orderClass = some k) ∧
      ∀ x ∈ c.cells.toList, x.isMissing = false → ∃ u ∈ uniq, classOrder x u = .eq := by
  have hpresent : ∀ x ∈ c.cells.toList.filter (!·.isNaN), x.orderClass = some k := by
    intro x hx
    rw [List.mem_filter, Cell.isNaN_eq_isMissing, Bool.not_eq_true'] at hx
    exact (hc x hx.1).resolve_left (by simp [hx.2])
  obtain ⟨hfrom, hne, heach⟩ := firstSeen_spec hpresent
  obtain ⟨uniq, hsort, hperm, hsorted⟩ := safeSort_sorted (fun x hx => hpresent x (hfrom x hx)) hne
  refine ⟨uniq, ?_, hsorted, fun u hu => ?_, fun x hx hmiss => ?_⟩
  · simp only [Grouper.codes, bind, Except.bind, pure, Except.pure, hsort]
    rfl
  · have hu' := hfrom u (hperm.mem_iff.1 hu)
    exact ⟨(List.mem_filter.1 hu').1, hpresent u hu'⟩
  · obtain ⟨y, hy, hxy⟩ := heach x (List.mem_filter.2 ⟨hx, by simp [Cell.isNaN_eq_isMissing, hmiss]⟩)
    exact ⟨y, hperm.mem_iff.2 hy, hxy⟩

theorem codeIn_present {uniq : List Cell} (hk : ∀ u ∈ uniq, u.orderClass = some k) {x : Cell}
    (hx : x.orderClass = some k) (hu : ∃ u ∈ uniq, classOrder x u = .eq) :
    ∃ e, ∃ he : e < uniq.length, codeIn uniq x = some e ∧ classOrder x uniq[e] = .eq := by
  have hnan : x.isNaN = false := by
    rw [Cell.isNaN_eq_isMissing]
    cases x <;> simp_all [Cell.orderClass, Cell.isMissing]
  have hsome : (uniq.findIdx? (sameCell x)).isSome := by
    obtain ⟨u, hu, hxu⟩ := hu
    rw [List.findIdx?_isSome]
    exact List.any_eq_true.2 ⟨u, hu, by rw [sameCell_eq hx (hk u hu), hxu]; rfl⟩
  obtain ⟨e, he⟩ := Option.isSome_iff_exists.1 hsome
  obtain ⟨hlt, hsame, -⟩ := List.findIdx?_eq_some_iff_getElem.1 he
  refine ⟨e, hlt, by rw [codeIn, if_neg (by simp [hnan]), he], ?_⟩
  rw [sameCell_eq hx (hk _ (List.getElem_mem hlt))] at hsame
  simpa using hsame

theorem compare_eq_classOrder {uniq : List Cell}
    (hsorted : uniq.Pairwise fun a b => classOrder a b = .lt) {e e' : Nat} (he : e < uniq.length)
    (he' : e' < uniq.length) :
    compare e e' = classOrder uniq[e] uniq[e'] := by
  rcases Nat.lt_trichotomy e e' with h | rfl | h
  · rw [Nat.compare_eq_lt.2 h, List.pairwise_iff_getElem.1 hsorted e e' he he' h]
  · rw [Nat.compare_eq_eq.2 rfl, @Std.ReflCmp.compare_self _ classOrder _ _]
  · rw [Nat.compare_eq_gt.2 h, @Std.OrientedCmp.eq_swap _ classOrder _ uniq[e] uniq[e'],
      List.pairwise_iff_getElem.1 hsorted e' e he' he h]
    rfl

end Codes

end Query

end Tabula
