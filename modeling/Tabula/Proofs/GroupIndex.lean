import Tabula.Proofs.GroupRows
import Tabula.Proofs.ColumnKinds

/-!
The index of groups as the later steps of an aggregation see it. Its levels are the key columns'
names and kinds, holding the groups' labels (`keyIndex_levels`), and it reads the labels back
(`keyIndex_labels`). When the labels are present cells of key columns of one class each, fitting
their kinds and strictly increasing (`KeyLabels`), the index equals itself and copies of it unite
into it (`RowIndex.SelfUnion`): for one key column because the copies are equal, for several
because the union of two copies adds no label, keeps the order (`labelLess_tuple`) and casts no
cell (`KeyLabels.nestedUnion_eq`). So the summaries of the groups stand side by side under the one
index.
-/

namespace Tabula

theorem Column.OneClass.sameClass {c : Column} (hc : c.OneClass) {x y : Cell}
    (hx : x ∈ c.cells.toList ∧ x.isMissing = false) (hy : y ∈ c.cells.toList ∧ y.isMissing = false) :
    ∃ k, x.orderClass = some k ∧ y.orderClass = some k := by
  obtain ⟨k, hk⟩ := hc
  exact ⟨k, (hk x hx.1).resolve_left (by simp [hx.2]), (hk y hy.1).resolve_left (by simp [hy.2])⟩

namespace Query

section KeyIndex

variable {keys : List (Text × Column)} {labels : List (List Cell)}

theorem keyIndex_levels (keys : List (Text × Column)) (labels : List (List Cell)) :
    (keyIndex keys labels).levels = keys.mapIdx fun j p =>
      ⟨some p.1, ⟨p.2.kind, (labels.map fun l => l.getD j .missing).toArray⟩⟩ := by
  unfold keyIndex RowIndex.build
  rw [List.zip_map']
  refine List.ext_getElem (by simp) fun j h1 h2 => ?_
  simp

theorem keyIndex_height (hne : keys ≠ []) : (keyIndex keys labels).height = labels.length := by
  obtain ⟨p, rest, rfl⟩ := List.exists_cons_of_ne_nil hne
  simp [RowIndex.height, keyIndex_levels, List.mapIdx_cons, Column.height]

theorem keyIndex_names : (keyIndex keys labels).names = keys.map fun p => some p.1 := by
  refine List.ext_getElem (by simp [RowIndex.names, keyIndex_levels]) fun j h1 h2 => ?_
  simp [RowIndex.names, keyIndex_levels]

theorem keyIndex_kinds : (keyIndex keys labels).kinds = keys.map fun p => p.2.kind := by
  refine List.ext_getElem (by simp [RowIndex.kinds, keyIndex_levels]) fun j h1 h2 => ?_
  simp [RowIndex.kinds, keyIndex_levels]

theorem keyIndex_label (hlen : ∀ l ∈ labels, l.length = keys.length) {i : Nat}
    (hi : i < labels.length) : (keyIndex keys labels).label i = labels[i] := by
  have hl := hlen _ (List.getElem_mem hi)
  refine List.ext_getElem (by simp [RowIndex.label, keyIndex_levels, hl]) fun j h1 h2 => ?_
  simp [RowIndex.label, keyIndex_levels, hi, h2]

theorem keyIndex_labels (hne : keys ≠ []) (hlen : ∀ l ∈ labels, l.length = keys.length) :
    (keyIndex keys labels).labels = labels := by
  refine List.ext_getElem (by simp [RowIndex.labels, keyIndex_height hne]) fun i h1 h2 => ?_
  simp only [RowIndex.labels, List.getElem_map, List.getElem_range]
  exact keyIndex_label hlen h2

end KeyIndex

/-! ## Labels of present key cells -/

theorem forall₂_sameClass {keys : List (Text × Column)} (hk : ∀ p ∈ keys, p.2.OneClass)
    {l l' : List Cell}
    (hl : List.Forall₂ (fun x p => x ∈ p.2.cells.toList ∧ x.isMissing = false) l keys)
    (hl' : List.Forall₂ (fun x p => x ∈ p.2.cells.toList ∧ x.isMissing = false) l' keys) :
    List.Forall₂ (fun a b => ∃ k, a.orderClass = some k ∧ b.orderClass = some k) l l' := by
  induction hl generalizing l' with
  | nil => cases hl'; exact .nil
  | cons hx _ ih =>
    cases hl' with
    | cons hy hrest =>
      exact .cons ((hk _ List.mem_cons_self).sameClass hx hy)
        (ih (fun p hp => hk p (List.mem_cons_of_mem _ hp)) hrest)

theorem equalScalar_eq {k : OrderClass} {a b : Cell} (ha : a.orderClass = some k)
    (hb : b.orderClass = some k) : equalScalar a b = (classOrder a b == .eq) := by
  rw [equalScalar, Cell.isNaN_eq_isMissing, Cell.isNaN_eq_isMissing,
    Cell.isMissing_of_orderClass ha, Cell.isMissing_of_orderClass hb, sameScalar_eq ha hb]
  rfl

/-- Tuples of cells of one class item by item compare without failing, in the order `tupleCmp`
gives. -/
theorem labelLess_tuple {xs ys : List Cell}
    (h : List.Forall₂ (fun a b => ∃ k, a.orderClass = some k ∧ b.orderClass = some k) xs ys) :
    labelLess (.tuple xs) (.tuple ys) = .ok (tupleCmp xs ys == .lt) := by
  induction h with
  | nil => rfl
  | @cons a b xs ys hab _ ih =>
    obtain ⟨k, ha, hb⟩ := hab
    have hcons : tupleCmp (a :: xs) (b :: ys) = (classOrder a b).then (tupleCmp xs ys) :=
      List.compareLex_cons_cons
    simp only [labelLess, List.zip_cons_cons, List.find?_cons, equalScalar_eq ha hb] at ih ⊢
    -- the first items decide unless they are equal
    cases hc : classOrder a b with
    | eq => simpa [hc, hcons] using ih
    | lt => simp [hcons, hc, scalarLess_eq ha hb]
    | gt => simp [hcons, hc, scalarLess_eq ha hb]

theorem sameCell_self {x : Cell} (hc : x.orderClass.isSome) :
    sameCell x x = true := by
  obtain ⟨k, hk⟩ := Option.isSome_iff_exists.1 hc
  rw [sameCell_eq hk hk, @Std.ReflCmp.compare_self _ classOrder _ x]
  rfl

theorem all_zip_self {α : Type} (p : α × α → Bool) {l : List α} (h : ∀ x ∈ l, p (x, x) = true) :
    (l.zip l).all p = true := by
  induction l with
  | nil => rfl
  | cons x l ih => simp [h x List.mem_cons_self, ih fun y hy => h y (List.mem_cons_of_mem _ hy)]

theorem sameCells_self {l : List Cell} (h : ∀ x ∈ l, sameCell x x = true) : sameCells l l = true := by
  rw [sameCells, beq_self_eq_true, Bool.true_and]
  exact all_zip_self _ h

theorem forall₂_imp_of_mem {α β : Type} {R S : α → β → Prop} {l₁ : List α} {l₂ : List β}
    (h : List.Forall₂ R l₁ l₂) (himp : ∀ a b, a ∈ l₁ → b ∈ l₂ → R a b → S a b) :
    List.Forall₂ S l₁ l₂ := by
  induction h with
  | nil => exact .nil
  | cons hab _ ih =>
    exact .cons (himp _ _ List.mem_cons_self List.mem_cons_self hab)
      (ih fun a b ha hb => himp a b (List.mem_cons_of_mem _ ha) (List.mem_cons_of_mem _ hb))

theorem map_zip_kinds {l : List Cell} {keys : List (Text × Column)} (f : Cell × Kind → Cell)
    (hf : ∀ x k, x.fitsKind k = true → f (x, k) = x)
    (hl : List.Forall₂ (fun x p => x.fitsKind p.2.kind = true) l keys) :
    (l.zip (keys.map fun p => p.2.kind)).map f = l := by
  induction hl with
  | nil => rfl
  | cons hx _ ih => simp [hf _ _ hx, ih]

theorem foldl_replicate_fixed {α : Type} (f : α → α → α) {a : α} (h : f a a = a) (n : Nat) :
    (List.replicate n a).foldl f a = a := by
  induction n with
  | zero => rfl
  | succ n ih => rw [List.replicate_succ, List.foldl_cons, h, ih]

/-- Labels of groups by key columns: each a tuple of present cells, one from each key column, in
strictly increasing order; the key columns hold cells of one class each, fitting their kinds. -/
structure KeyLabels (keys : List (Text × Column)) (labels : List (List Cell)) : Prop where
  cells : ∀ l ∈ labels, List.Forall₂ (fun x p => x ∈ p.2.cells.toList ∧ x.isMissing = false) l keys
  oneClass : ∀ p ∈ keys, p.2.OneClass
  typed : ∀ p ∈ keys, p.2.Typed
  sorted : labels.Pairwise fun l l' => tupleCmp l l' = .lt

namespace KeyLabels

variable {keys : List (Text × Column)} {labels : List (List Cell)} (h : KeyLabels keys labels)
include h

theorem length_eq {l : List Cell} (hl : l ∈ labels) : l.length = keys.length :=
  (h.cells l hl).length_eq

theorem labelLess_eq {l l' : List Cell} (hl : l ∈ labels) (hl' : l' ∈ labels) :
    labelLess (.tuple l) (.tuple l') = .ok (tupleCmp l l' == .lt) :=
  labelLess_tuple (forall₂_sameClass h.oneClass (h.cells l hl) (h.cells l' hl'))

theorem sameCells_self {l : List Cell} (hl : l ∈ labels) : sameCells l l = true := by
  have hsame := forall₂_sameClass h.oneClass (h.cells l hl) (h.cells l hl)
  refine Query.sameCells_self fun x hx => ?_
  obtain ⟨k, hk, -⟩ := List.forall₂_same.1 hsame x hx
  exact sameCell_self (by simp [hk])

theorem equals_self (hne : keys ≠ []) :
    (keyIndex keys labels).equals (keyIndex keys labels) = true := by
  rw [RowIndex.equals, beq_self_eq_true, beq_self_eq_true, Bool.true_and, Bool.true_and,
    keyIndex_labels hne fun l hl => h.length_eq hl]
  exact all_zip_self _ fun l hl => h.sameCells_self hl

theorem nestedUnion_eq (hk : 1 < keys.length) (order : UnionOrder) :
    nestedUnion order (keyIndex keys labels) (keyIndex keys labels) = keyIndex keys labels := by
  have hne : keys ≠ [] := by
    rintro rfl
    simp at hk
  unfold nestedUnion
  simp only [keyIndex_labels hne fun l hl => h.length_eq hl, keyIndex_names, keyIndex_kinds]
  -- the second index brings no new label, and the first's are already in order
  have hnew : (labels.filter fun y => !labels.any (sameCells y)) = [] := by
    refine List.filter_eq_nil_iff.2 fun y hy => ?_
    simpa using ⟨y, hy, h.sameCells_self hy⟩
  have hsorted : sortLabels (fun x y => labelLess (.tuple x) (.tuple y)) labels = .ok labels :=
    sortLabels_of_sorted (fun a ha b hb => h.labelLess_eq ha hb) h.sorted
  have hnames : ((keys.map fun p => some p.1).zip (keys.map fun p => some p.1)).map
      (fun x => if (x.1 == x.2) = true then x.1 else none) = keys.map fun p => some p.1 := by
    simp [List.zip_map']
  have hkinds : ((keys.map fun p => p.2.kind).zip (keys.map fun p => p.2.kind)).map
      (fun x => commonKind x.1 x.2) = keys.map fun p => p.2.kind := by
    simp [List.zip_map', commonKind]
  rw [hnew, List.append_nil, hnames, hkinds, hsorted]
  have hkeep : (if (order == .attempt) = true then (Except.ok labels : Except Fault _).toOption.getD labels
      else labels) = labels := by
    split <;> rfl
  rw [hkeep]
  -- no label cell is an integer under a kind of doubles
  have hfit : ∀ l ∈ labels, List.Forall₂ (fun x p => x.fitsKind p.2.kind = true) l keys :=
    fun l hl => forall₂_imp_of_mem (h.cells l hl) fun x p _ hp hx => h.typed p hp x hx.1
  rw [(List.map_congr_left fun l hl => map_zip_kinds _ ?_ (hfit l hl)).trans (List.map_id labels)]
  · simp only [keyIndex, if_pos hk]
  · intro x k hx
    cases k <;> cases x <;> simp_all [Cell.fitsKind]

theorem unionAll_replicate (hne : keys ≠ []) (sorted : Bool) (n : Nat) :
    RowIndex.unionAll sorted (List.replicate (n + 1) (keyIndex keys labels)) =
      .ok (keyIndex keys labels) := by
  cases n with
  | zero => rfl
  | succ n =>
    rw [List.replicate_succ, List.replicate_succ]
    unfold RowIndex.unionAll
    by_cases hk : 1 < keys.length
    · -- several levels: the copies are united one by one, each union giving the index back
      have hlayout : (keyIndex keys labels).layout = .nested := by
        simp [keyIndex, RowIndex.build, hk]
      have hunion : ∀ order, RowIndex.union order (keyIndex keys labels) (keyIndex keys labels) =
          keyIndex keys labels := by
        intro order
        simp [RowIndex.union, hlayout, h.nestedUnion_eq hk]
      have hflat : (Layout.nested == Layout.flat) = false := rfl
      simp only [List.all_cons, hlayout, hflat, Bool.false_and, Bool.false_eq_true, if_false]
      rw [← List.replicate_succ, foldl_replicate_fixed _ (hunion _)]
    · -- one level: the copies are all equal to the first
      obtain ⟨p, rfl⟩ : ∃ p, keys = [p] := by
        refine List.length_eq_one_iff.1 ?_
        have := List.length_pos_iff.2 hne
        omega
      have hlayout : (keyIndex [p] labels).layout = .flat := by simp [keyIndex, RowIndex.build]
      have hflat : (Layout.flat == Layout.flat) = true := rfl
      simp only [List.all_cons, hlayout, hflat, Bool.true_and, h.equals_self hne, List.all_replicate]
      simp [sharedName, keyIndex, RowIndex.build]

end KeyLabels

/-- An index that equals itself and that copies of it unite into: results under it stand side by
side as they are. -/
structure RowIndex.SelfUnion (ix : RowIndex) : Prop where
  equals : ix.equals ix = true
  unionAll : ∀ sorted n, RowIndex.unionAll sorted (List.replicate (n + 1) ix) = .ok ix

theorem KeyLabels.selfUnion {keys : List (Text × Column)} {labels : List (List Cell)}
    (h : KeyLabels keys labels) (hne : keys ≠ []) : (keyIndex keys labels).SelfUnion :=
  ⟨h.equals_self hne, h.unionAll_replicate hne⟩

theorem reindexColumn_self {ix : RowIndex} (h : ix.equals ix = true) (c : Column) :
    reindexColumn c ix ix = c := by
  rw [reindexColumn, if_pos h]

end Query

end Tabula
