import Tabula.Query.Introsort

/-!
The quicksort kind of argument sort is a sort. Whatever `less` is, it rearranges its input
(`argsort_perm`); when `less` is the strict part of a transitive comparison `cmp`, it leaves its
input in the order of `cmp` (`argsort_sorted`). Insertion sort keeps its run in order; the crossing
scans of the partition leave every item before the pivot's place at most the pivot and every item
after it at least the pivot; heap sort keeps a heap with, behind it, a tail in order that is at
least every node of the heap.
-/

namespace Tabula.Query.Introsort

/-! ## Exchanges -/

theorem swapIfInBounds_perm (a : Array Nat) (i j : Nat) : (a.swapIfInBounds i j).Perm a := by
  unfold Array.swapIfInBounds
  split
  · split
    · exact Array.swap_perm ..
    · exact Array.Perm.refl a
  · exact Array.Perm.refl a

theorem getD_swapIfInBounds {a : Array Nat} {i j : Nat} (hi : i < a.size) (hj : j < a.size)
    (k : Nat) : (a.swapIfInBounds i j).getD k 0 =
      if k = i then a.getD j 0 else if k = j then a.getD i 0 else a.getD k 0 := by
  simp only [Array.getD_eq_getD_getElem?, Array.swapIfInBounds_def, dif_pos hi, dif_pos hj,
    Array.getElem?_swap]
  by_cases hki : k = i <;> by_cases hkj : k = j
  · subst hki hkj
    simp
  · subst hki
    simp [Ne.symm hkj]
  · subst hkj
    simp [hki]
  · simp [Ne.symm hki, Ne.symm hkj, hki, hkj]

theorem getD_swapIfInBounds_of_ne {a : Array Nat} {i j k : Nat} (hki : k ≠ i) (hkj : k ≠ j) :
    (a.swapIfInBounds i j).getD k 0 = a.getD k 0 := by
  unfold Array.swapIfInBounds
  split
  · split
    · simp only [Array.getD_eq_getD_getElem?, Array.getElem?_swap]
      rw [if_neg (Ne.symm hkj), if_neg (Ne.symm hki)]
    · rfl
  · rfl

theorem isLE_of_lt {cmp : Nat → Nat → Ordering} {a b : Nat} (h : (cmp a b == .lt) = true) :
    (cmp a b).isLE := by
  rw [beq_iff_eq] at h
  rw [h]
  rfl

section Order

variable {cmp : Nat → Nat → Ordering} [Std.TransCmp cmp]

theorem isLE_of_not_lt {a b : Nat} (h : (cmp a b == .lt) = false) : (cmp b a).isLE := by
  rw [@Std.OrientedCmp.eq_swap _ cmp _ b a]
  cases hab : cmp a b <;> simp_all

end Order

/-! ## Insertion sort -/

section Insertion

variable (less : Nat → Nat → Bool)

theorem sink_perm (x : Nat) (run : List Nat) : (sink less x run).Perm (x :: run) := by
  induction run with
  | nil => rfl
  | cons y ys ih =>
    unfold sink
    split
    · exact (ih.cons y).trans (List.Perm.swap x y ys)
    · rfl

theorem foldl_sink_perm (xs run : List Nat) :
    (xs.foldl (fun run x => sink less x run) run).Perm (xs.reverse ++ run) := by
  induction xs generalizing run with
  | nil => rfl
  | cons x xs ih =>
    rw [List.foldl_cons, List.reverse_cons, List.append_assoc, List.singleton_append]
    exact (ih _).trans ((sink_perm less x run).append_left _)

theorem insertionSort_perm (xs : List Nat) : (insertionSort less xs).Perm xs := by
  unfold insertionSort
  refine (List.reverse_perm _).trans ((foldl_sink_perm less xs []).trans ?_)
  rw [List.append_nil]
  exact List.reverse_perm xs

variable {cmp : Nat → Nat → Ordering} [Std.TransCmp cmp]

/-- The run that insertion sort keeps, last item first, stays in descending order. -/
theorem sink_sorted (x : Nat) {run : List Nat}
    (h : run.Pairwise fun a b => (cmp b a).isLE) :
    (sink (fun a b => cmp a b == .lt) x run).Pairwise fun a b => (cmp b a).isLE := by
  induction run with
  | nil => exact List.pairwise_singleton _ x
  | cons y ys ih =>
    obtain ⟨hy, hys⟩ := List.pairwise_cons.1 h
    unfold sink
    split
    · next hlt =>
      -- `x` goes below `y`, which stays above every item of the rest
      refine List.pairwise_cons.2 ⟨fun z hz => ?_, ih hys⟩
      rcases List.mem_cons.1 ((sink_perm _ x ys).subset hz) with rfl | hz
      · exact isLE_of_lt hlt
      · exact hy z hz
    · next hlt =>
      have hyx : (cmp y x).isLE := isLE_of_not_lt (Bool.of_not_eq_true hlt)
      refine List.pairwise_cons.2 ⟨fun z hz => ?_, h⟩
      rcases List.mem_cons.1 hz with rfl | hz
      · exact hyx
      · exact Std.TransCmp.isLE_trans (hy z hz) hyx

theorem foldl_sink_sorted (xs : List Nat) {run : List Nat}
    (h : run.Pairwise fun a b => (cmp b a).isLE) :
    (xs.foldl (fun run x => sink (fun a b => cmp a b == .lt) x run) run).Pairwise
      fun a b => (cmp b a).isLE := by
  induction xs generalizing run with
  | nil => exact h
  | cons x xs ih => exact ih (sink_sorted x h)

theorem insertionSort_sorted (xs : List Nat) :
    (insertionSort (fun a b => cmp a b == .lt) xs).Pairwise fun a b => (cmp a b).isLE :=
  List.pairwise_reverse.2 (foldl_sink_sorted xs List.Pairwise.nil)

end Insertion

/-! ## Partition -/

section Scans

variable (less : Nat → Nat → Bool) (a : Array Nat) (p : Nat)

/-- The upward scan passes the items less than the pivot and stops at the first other one, or at
`j`. -/
theorem scanUp_spec {j k : Nat} (fuel : Nat) {i : Nat} (hij : i < j) (hfuel : j ≤ i + fuel + 1)
    (hk : scanUp less a p j fuel i = k) :
    i < k ∧ k ≤ j ∧ (∀ m, i < m → m < k → less (a.getD m 0) p) ∧
      (k < j → less (a.getD k 0) p = false) := by
  induction fuel generalizing i with
  | zero =>
    simp only [scanUp] at hk
    exact ⟨by omega, by omega, fun m _ _ => by omega, fun _ => by omega⟩
  | succ fuel ih =>
    unfold scanUp at hk
    split at hk
    · next hstep =>
      obtain ⟨h1, h2, h3, h4⟩ := ih hstep.1 (by omega) hk
      refine ⟨by omega, h2, fun m hm hmk => ?_, h4⟩
      rcases Nat.lt_or_ge (i + 1) m with hm' | hm'
      · exact h3 m hm' hmk
      · obtain rfl : m = i + 1 := by omega
        exact hstep.2
    · next hstop =>
      subst hk
      exact ⟨by omega, by omega, fun m _ _ => by omega,
        fun h => Bool.of_not_eq_true fun hlt => hstop ⟨h, hlt⟩⟩

/-- The downward scan passes the items the pivot is less than and stops at the first other one,
or at `i`. -/
theorem scanDown_spec {i k : Nat} (fuel : Nat) {j : Nat} (hij : i < j) (hfuel : j ≤ i + fuel + 1)
    (hk : scanDown less a p i fuel j = k) :
    i ≤ k ∧ k < j ∧ (∀ m, k < m → m < j → less p (a.getD m 0)) ∧
      (i < k → less p (a.getD k 0) = false) := by
  induction fuel generalizing j with
  | zero =>
    simp only [scanDown] at hk
    exact ⟨by omega, by omega, fun m _ _ => by omega, fun _ => by omega⟩
  | succ fuel ih =>
    unfold scanDown at hk
    split at hk
    · next hstep =>
      obtain ⟨h1, h2, h3, h4⟩ := ih hstep.1 (by omega) hk
      refine ⟨h1, by omega, fun m hkm hm => ?_, h4⟩
      rcases Nat.lt_or_ge m (j - 1) with hm' | hm'
      · exact h3 m hkm hm'
      · obtain rfl : m = j - 1 := by omega
        exact hstep.2
    · next hstop =>
      subst hk
      exact ⟨by omega, by omega, fun m _ _ => by omega,
        fun h => Bool.of_not_eq_true fun hlt => hstop ⟨h, hlt⟩⟩

end Scans

section Crossing

variable (less : Nat → Nat → Bool) (p : Nat)

/-- The crossing scans stop at or before `j` and exchange only items before it. -/
theorem crossing_frame (fuel : Nat) {a a' : Array Nat} {i j i' : Nat} (hij : i < j)
    (hj : j < a.size) (hres : crossing less p fuel a i j = (a', i')) :
    i' ≤ j ∧ a'.Perm a ∧ ∀ k, j ≤ k → a'.getD k 0 = a.getD k 0 := by
  induction fuel generalizing a i j with
  | zero =>
    obtain ⟨rfl, rfl⟩ := Prod.mk.inj hres
    exact ⟨Nat.le_of_lt hij, Array.Perm.refl a, fun _ _ => rfl⟩
  | succ fuel ih =>
    simp only [crossing] at hres
    generalize hu : scanUp less a p j j i = u at hres
    generalize hd : scanDown less a p i j j = d at hres
    obtain ⟨hiu, huj, -, -⟩ := scanUp_spec less a p j hij (by omega) hu
    obtain ⟨hid, hdj, -, -⟩ := scanDown_spec less a p j hij (by omega) hd
    split at hres
    · obtain ⟨rfl, rfl⟩ := Prod.mk.inj hres
      exact ⟨huj, Array.Perm.refl a, fun _ _ => rfl⟩
    · obtain ⟨hi', hperm, hframe⟩ :=
        ih (by omega) (by simp only [Array.size_swapIfInBounds]; omega) hres
      refine ⟨by omega, hperm.trans (swapIfInBounds_perm a u d), fun k hk => ?_⟩
      rw [hframe k (by omega), getD_swapIfInBounds_of_ne (by omega) (by omega)]

end Crossing

/-- The state of the crossing scans around the pivot `p` in a segment ending at `r`: the items up
to `i` are at most the pivot, and those from `j` to `r` at least the pivot. -/
def Crossed (cmp : Nat → Nat → Ordering) (a : Array Nat) (p r i j : Nat) : Prop :=
  (∀ k ≤ i, (cmp (a.getD k 0) p).isLE) ∧ ∀ k, j ≤ k → k ≤ r → (cmp p (a.getD k 0)).isLE

section CrossingOrder

variable {cmp : Nat → Nat → Ordering} {p r : Nat}

/-- One round of the crossing scans keeps the state: the two items where the scans stopped are
on the wrong sides, and exchanging them puts each on its right side. -/
theorem crossed_swap {a : Array Nat} {i j u d : Nat} (hc : Crossed cmp a p r i j)
    (hud : u < d) (hd : d < a.size)
    (hup : (cmp p (a.getD u 0)).isLE) (hdown : (cmp (a.getD d 0) p).isLE)
    (hpass_up : ∀ m, i < m → m < u → (cmp (a.getD m 0) p).isLE)
    (hpass_down : ∀ m, d < m → m < j → (cmp p (a.getD m 0)).isLE) :
    Crossed cmp (a.swapIfInBounds u d) p r u d := by
  have hu : u < a.size := by omega
  constructor
  · intro k hk
    rw [getD_swapIfInBounds hu hd]
    by_cases hku : k = u
    · rw [if_pos hku]
      exact hdown
    · rw [if_neg hku, if_neg (by omega)]
      rcases Nat.lt_or_ge i k with h | h
      · exact hpass_up k h (by omega)
      · exact hc.1 k h
  · intro k hk hkr
    rw [getD_swapIfInBounds hu hd, if_neg (by omega)]
    by_cases hkd : k = d
    · rw [if_pos hkd]
      exact hup
    · rw [if_neg hkd]
      rcases Nat.lt_or_ge k j with h | h
      · exact hpass_down k (by omega) h
      · exact hc.2 k h hkr

variable [Std.TransCmp cmp]

/-- The crossing scans end with every item before the place they found at most the pivot and
every item from it to `r` at least the pivot. -/
theorem crossing_parts (fuel : Nat) {a a' : Array Nat} {i j i' : Nat} (hij : i < j)
    (hj : j < a.size) (hjr : j ≤ r) (hfuel : j - i ≤ fuel) (hc : Crossed cmp a p r i j)
    (hres : crossing (fun a b => cmp a b == .lt) p fuel a i j = (a', i')) :
    (∀ k < i', (cmp (a'.getD k 0) p).isLE) ∧ ∀ k, i' ≤ k → k ≤ r → (cmp p (a'.getD k 0)).isLE := by
  induction fuel generalizing a i j with
  | zero => omega
  | succ fuel ih =>
    simp only [crossing] at hres
    generalize hu : scanUp _ a p j j i = u at hres
    generalize hd : scanDown _ a p i j j = d at hres
    obtain ⟨hiu, huj, hpass_up, hstop_up⟩ := scanUp_spec _ a p j hij (by omega) hu
    obtain ⟨hid, hdj, hpass_down, hstop_down⟩ := scanDown_spec _ a p j hij (by omega) hd
    -- where the scans stopped, the items are on the wrong sides
    have hup : (cmp p (a.getD u 0)).isLE := by
      rcases Nat.lt_or_ge u j with h | h
      · exact isLE_of_not_lt (hstop_up h)
      · exact hc.2 u h (by omega)
    have hdown : (cmp (a.getD d 0) p).isLE := by
      rcases Nat.lt_or_ge i d with h | h
      · exact isLE_of_not_lt (hstop_down h)
      · exact hc.1 d h
    split at hres
    · obtain ⟨rfl, rfl⟩ := Prod.mk.inj hres
      refine ⟨fun k hk => ?_, fun k hk hkr => ?_⟩
      · rcases Nat.lt_or_ge i k with h | h
        · exact isLE_of_lt (hpass_up k h hk)
        · exact hc.1 k h
      · rcases Nat.lt_or_ge k j with h | h
        · rcases Nat.lt_or_ge u k with h' | h'
          · exact isLE_of_lt (hpass_down k (by omega) h)
          · obtain rfl : k = u := by omega
            exact hup
        · exact hc.2 k h hkr
    · exact ih (by omega) (by simp only [Array.size_swapIfInBounds]; omega) (by omega) (by omega)
        (crossed_swap hc (by omega) (by omega) hup hdown
          (fun m h1 h2 => isLE_of_lt (hpass_up m h1 h2))
          (fun m h1 h2 => isLE_of_lt (hpass_down m h1 h2))) hres

end CrossingOrder

section Median

variable (less : Nat → Nat → Bool)

theorem orderPair_perm (a : Array Nat) (lo hi : Nat) : (orderPair less a lo hi).Perm a := by
  unfold orderPair
  by_cases h : less (a.getD hi 0) (a.getD lo 0)
  · rw [if_pos h]
    exact swapIfInBounds_perm a lo hi
  · rw [if_neg h]

theorem medianOfThree_perm (a : Array Nat) (m r : Nat) : (medianOfThree less a m r).Perm a :=
  ((orderPair_perm less _ 0 m).trans (orderPair_perm less _ m r)).trans (orderPair_perm less a 0 m)

theorem getD_orderPair_of_ne {a : Array Nat} {lo hi k : Nat} (hlo : k ≠ lo) (hhi : k ≠ hi) :
    (orderPair less a lo hi).getD k 0 = a.getD k 0 := by
  unfold orderPair
  by_cases h : less (a.getD hi 0) (a.getD lo 0)
  · rw [if_pos h]
    exact getD_swapIfInBounds_of_ne hlo hhi
  · rw [if_neg h]

variable {cmp : Nat → Nat → Ordering} [Std.TransCmp cmp]

/-- `orderPair` puts the two items in order, each place holding one of the two. -/
theorem orderPair_spec {a b : Array Nat} {lo hi : Nat} (hlo : lo < a.size) (hhi : hi < a.size)
    (hb : orderPair (fun a b => cmp a b == .lt) a lo hi = b) :
    (cmp (b.getD lo 0) (b.getD hi 0)).isLE ∧
      (b.getD lo 0 = a.getD lo 0 ∧ b.getD hi 0 = a.getD hi 0 ∨
        b.getD lo 0 = a.getD hi 0 ∧ b.getD hi 0 = a.getD lo 0) := by
  subst hb
  unfold orderPair
  by_cases hlt : (cmp (a.getD hi 0) (a.getD lo 0) == .lt) = true
  · have hlo' : (a.swapIfInBounds lo hi).getD lo 0 = a.getD hi 0 := by
      rw [getD_swapIfInBounds hlo hhi, if_pos rfl]
    have hhi' : (a.swapIfInBounds lo hi).getD hi 0 = a.getD lo 0 := by
      rw [getD_swapIfInBounds hlo hhi]
      by_cases h : hi = lo
      · rw [if_pos h, h]
      · rw [if_neg h, if_pos rfl]
    rw [if_pos hlt, hlo', hhi']
    exact ⟨isLE_of_lt hlt, Or.inr ⟨rfl, rfl⟩⟩
  · rw [if_neg hlt]
    exact ⟨isLE_of_not_lt (Bool.of_not_eq_true hlt), Or.inl ⟨rfl, rfl⟩⟩

/-- After the median of three, the first item is at most the middle one, and the middle one at
most the last. -/
theorem medianOfThree_spec {a b : Array Nat} {m r : Nat} (h0m : 0 < m) (hmr : m < r)
    (hr : r < a.size) (hb : medianOfThree (fun a b => cmp a b == .lt) a m r = b) :
    (cmp (b.getD 0 0) (b.getD m 0)).isLE ∧ (cmp (b.getD m 0) (b.getD r 0)).isLE := by
  unfold medianOfThree at hb
  generalize hb1 : orderPair _ a 0 m = b1 at hb
  generalize hb2 : orderPair _ b1 m r = b2 at hb
  have hs1 : b1.size = a.size := hb1 ▸ (orderPair_perm _ a 0 m).size_eq
  have hs2 : b2.size = a.size := hb2 ▸ hs1 ▸ (orderPair_perm _ b1 m r).size_eq
  obtain ⟨h1, -⟩ := orderPair_spec (by omega) (by omega) hb1
  obtain ⟨h2, h2'⟩ := orderPair_spec (by omega) (by omega) hb2
  obtain ⟨h3, h3'⟩ := orderPair_spec (by omega) (by omega) hb
  have h20 : b2.getD 0 0 = b1.getD 0 0 := hb2 ▸ getD_orderPair_of_ne _ (by omega) (by omega)
  have h3r : b.getD r 0 = b2.getD r 0 := hb ▸ getD_orderPair_of_ne _ (by omega) (by omega)
  -- the last item is now at least the middle one after the first exchange
  have hmid : (cmp (b1.getD m 0) (b2.getD r 0)).isLE := by
    rcases h2' with ⟨hm, -⟩ | ⟨-, hr'⟩
    · exact hm ▸ h2
    · exact hr' ▸ Std.ReflCmp.isLE_rfl
  refine ⟨h3, h3r ▸ ?_⟩
  rcases h3' with ⟨-, hm⟩ | ⟨-, hm⟩
  · exact hm ▸ h2
  · exact hm ▸ h20 ▸ Std.TransCmp.isLE_trans h1 hmid

end Median

theorem mem_take_toList {a : Array Nat} {i x : Nat} (h : x ∈ a.toList.take i) :
    ∃ k < i, a.getD k 0 = x := by
  obtain ⟨k, hk, rfl⟩ := List.mem_iff_getElem.1 h
  simp only [List.length_take, Array.length_toList] at hk
  refine ⟨k, by omega, ?_⟩
  simp [Array.getD_eq_getD_getElem?, show k < a.size by omega]

theorem mem_drop_toList {a : Array Nat} {i x : Nat} (h : x ∈ a.toList.drop i) :
    ∃ k, i ≤ k ∧ k < a.size ∧ a.getD k 0 = x := by
  obtain ⟨k, hk, rfl⟩ := List.mem_iff_getElem.1 h
  simp only [List.length_drop, Array.length_toList] at hk
  refine ⟨i + k, by omega, by omega, ?_⟩
  simp [Array.getD_eq_getD_getElem?, show i + k < a.size by omega]

section PartitionSpec

variable (less : Nat → Nat → Bool) {xs : List Nat}

/-- The parts of a split and its pivot are the segment rearranged: the crossing scans never move
the parked pivot, which goes last to where the upward scan stopped. -/
theorem partition_perm (hn : 3 ≤ xs.length) :
    ((partition less xs).below ++ (partition less xs).pivot :: (partition less xs).above).Perm
      xs := by
  simp only [partition]
  generalize hr : xs.length - 1 = r
  generalize hb : medianOfThree less xs.toArray (r / 2) r = b
  generalize hres : crossing less (b.getD (r / 2) 0) xs.length
    (b.swapIfInBounds (r / 2) (r - 1)) 0 (r - 1) = res
  obtain ⟨c, i⟩ := res
  dsimp only
  have hbp : b.Perm xs.toArray := hb ▸ medianOfThree_perm less _ _ _
  have hbs : b.size = xs.length := by simpa using hbp.size_eq
  obtain ⟨hir, hcp, hframe⟩ := crossing_frame less _ _ (by omega)
    (by simp only [Array.size_swapIfInBounds]; omega) hres
  have hcs : c.size = xs.length := by simpa [hbs] using hcp.size_eq
  -- the pivot, parked at `r - 1`, is where the final exchange takes it from
  have hpivot : (c.swapIfInBounds i (r - 1)).getD i 0 = b.getD (r / 2) 0 := by
    rw [getD_swapIfInBounds (by omega) (by omega), if_pos rfl, hframe _ (Nat.le_refl _),
      getD_swapIfInBounds (by omega) (by omega)]
    by_cases h : r - 1 = r / 2
    · rw [if_pos h, h]
    · rw [if_neg h, if_pos rfl]
  have hdp : (c.swapIfInBounds i (r - 1)).toList.Perm xs := by
    simpa [Array.perm_iff_toList_perm] using
      ((swapIfInBounds_perm c i (r - 1)).trans hcp).trans
        ((swapIfInBounds_perm b _ _).trans hbp)
  have hi : i < (c.swapIfInBounds i (r - 1)).toList.length := by simp; omega
  have hsplit : (c.swapIfInBounds i (r - 1)).toList =
      (c.swapIfInBounds i (r - 1)).toList.take i ++ (c.swapIfInBounds i (r - 1)).toList[i] ::
        (c.swapIfInBounds i (r - 1)).toList.drop (i + 1) := by
    rw [← List.drop_eq_getElem_cons hi, List.take_append_drop]
  rw [← hpivot]
  refine (List.Perm.of_eq (Eq.trans ?_ hsplit.symm)).trans hdp
  rw [Array.getD_eq_getD_getElem?, Array.getElem?_eq_getElem
    (by simp only [Array.size_swapIfInBounds]; omega), Option.getD_some, Array.getElem_toList]

variable {cmp : Nat → Nat → Ordering} [Std.TransCmp cmp]

/-- Every item below the pivot is at most the pivot, and every item above it at least the
pivot. -/
theorem partition_sides (hn : 3 ≤ xs.length) :
    (∀ x ∈ (partition (fun a b => cmp a b == .lt) xs).below,
        (cmp x (partition (fun a b => cmp a b == .lt) xs).pivot).isLE) ∧
      ∀ x ∈ (partition (fun a b => cmp a b == .lt) xs).above,
        (cmp (partition (fun a b => cmp a b == .lt) xs).pivot x).isLE := by
  simp only [partition]
  generalize hr : xs.length - 1 = r
  generalize hb : medianOfThree _ xs.toArray (r / 2) r = b
  generalize hres : crossing _ (b.getD (r / 2) 0) xs.length
    (b.swapIfInBounds (r / 2) (r - 1)) 0 (r - 1) = res
  obtain ⟨c, i⟩ := res
  dsimp only
  have hbp : b.Perm xs.toArray := hb ▸ medianOfThree_perm _ _ _ _
  have hbs : b.size = xs.length := by simpa using hbp.size_eq
  obtain ⟨h0, hmr⟩ := medianOfThree_spec (by omega) (by omega) (by simp; omega) hb
  -- the first item and the parked pivot bound the crossing scans from the start
  have hstart : Crossed cmp (b.swapIfInBounds (r / 2) (r - 1)) (b.getD (r / 2) 0) r 0 (r - 1) := by
    constructor
    · intro k hk
      obtain rfl : k = 0 := by omega
      rw [getD_swapIfInBounds_of_ne (by omega) (by omega)]
      exact h0
    · intro k hk hkr
      rw [getD_swapIfInBounds (by omega) (by omega)]
      rcases Nat.lt_or_ge k r with h | h
      · obtain rfl : k = r - 1 := by omega
        by_cases hm : r - 1 = r / 2
        · rw [if_pos hm, hm]
          exact Std.ReflCmp.isLE_rfl
        · rw [if_neg hm, if_pos rfl]
          exact Std.ReflCmp.isLE_rfl
      · obtain rfl : k = r := by omega
        rw [if_neg (by omega), if_neg (by omega)]
        exact hmr
  obtain ⟨hir, hcp, -⟩ := crossing_frame _ _ _ (by omega) (by simp; omega) hres
  have hcs : c.size = xs.length := by simpa [hbs] using hcp.size_eq
  obtain ⟨hlow, hhigh⟩ :=
    crossing_parts xs.length (by omega) (by simp; omega) (by omega) (by omega) hstart hres
  constructor
  · intro x hx
    obtain ⟨k, hk, rfl⟩ := mem_take_toList hx
    rw [getD_swapIfInBounds_of_ne (by omega) (by omega)]
    exact hlow k hk
  · intro x hx
    obtain ⟨k, hk, hks, rfl⟩ := mem_drop_toList hx
    simp only [Array.size_swapIfInBounds] at hks
    rw [getD_swapIfInBounds (by omega) (by omega), if_neg (by omega)]
    by_cases hkr : k = r - 1
    · rw [if_pos hkr]
      exact hhigh i (Nat.le_refl _) (by omega)
    · rw [if_neg hkr]
      exact hhigh k (by omega) (by omega)

end PartitionSpec

/-! ## Heap sort -/

/-- The exchanged items stay within positions `lo` to `hi` when both places lie there. -/
theorem swap_within {P : Nat → Prop} {a : Array Nat} {i j lo hi : Nat} (hi' : lo ≤ i ∧ i ≤ hi)
    (hj : lo ≤ j ∧ j ≤ hi) (hsize : hi < a.size) (h : ∀ k, lo ≤ k → k ≤ hi → P (a.getD k 0)) :
    ∀ k, lo ≤ k → k ≤ hi → P ((a.swapIfInBounds i j).getD k 0) := by
  intro k hk1 hk2
  rw [getD_swapIfInBounds (by omega) (by omega)]
  by_cases hki : k = i
  · rw [if_pos hki]
    exact h j hj.1 hj.2
  · rw [if_neg hki]
    by_cases hkj : k = j
    · rw [if_pos hkj]
      exact h i hi'.1 hi'.2
    · rw [if_neg hkj]
      exact h k hk1 hk2

section Sift

variable (less : Nat → Nat → Bool) {n : Nat}

theorem greaterChild_bounds (a : Array Nat) {i : Nat} (h : 2 * i ≤ n) :
    greaterChild less n a i / 2 = i ∧ 2 * i ≤ greaterChild less n a i ∧
      greaterChild less n a i ≤ n := by
  unfold greaterChild
  by_cases hc : 2 * i < n ∧ less (a.getD (2 * i) 0) (a.getD (2 * i + 1) 0)
  · rw [if_pos hc]
    omega
  · rw [if_neg hc]
    omega

/-- Sifting exchanges items within nodes `1` to `n` only, so it leaves the rest of the array. -/
theorem siftDown_frame (fuel : Nat) {a : Array Nat} {i : Nat} (hi : 1 ≤ i) (hn : n < a.size) :
    (siftDown less n fuel a i).Perm a ∧
      (∀ k, (k = 0 ∨ n < k) → (siftDown less n fuel a i).getD k 0 = a.getD k 0) ∧
      ∀ (P : Nat → Prop), (∀ k, 1 ≤ k → k ≤ n → P (a.getD k 0)) →
        ∀ k, 1 ≤ k → k ≤ n → P ((siftDown less n fuel a i).getD k 0) := by
  induction fuel generalizing a i with
  | zero => exact ⟨Array.Perm.refl a, fun _ _ => rfl, fun _ h => h⟩
  | succ fuel ih =>
    unfold siftDown
    by_cases h2 : 2 * i ≤ n
    · rw [if_pos h2]
      dsimp only
      obtain ⟨hj2, hij, hjn⟩ := greaterChild_bounds less a h2
      by_cases hlt : less (a.getD i 0) (a.getD (greaterChild less n a i) 0)
      · rw [if_pos hlt]
        obtain ⟨hperm, hframe, hwithin⟩ := ih (a := a.swapIfInBounds i _) (i := greaterChild less n a i) (by omega)
          (by simp only [Array.size_swapIfInBounds]; omega)
        refine ⟨hperm.trans (swapIfInBounds_perm a _ _), fun k hk => ?_,
          fun P hP => hwithin P (swap_within ⟨hi, by omega⟩ ⟨by omega, hjn⟩ (by omega) hP)⟩
        rw [hframe k hk, getD_swapIfInBounds_of_ne (by omega) (by omega)]
      · rw [if_neg hlt]
        exact ⟨Array.Perm.refl a, fun _ _ => rfl, fun _ h => h⟩
    · rw [if_neg h2]
      exact ⟨Array.Perm.refl a, fun _ _ => rfl, fun _ h => h⟩

end Sift

/-- In a heap of `n` nodes, every node from `lo` on is at least its children. -/
def HeapFrom (cmp : Nat → Nat → Ordering) (a : Array Nat) (n lo : Nat) : Prop :=
  ∀ c, 2 ≤ c → c ≤ n → lo ≤ c / 2 → (cmp (a.getD c 0) (a.getD (c / 2) 0)).isLE

/-- A heap from `lo` on but for node `i`, being sifted down, whose children are still at most its
parent. -/
def HeapBut (cmp : Nat → Nat → Ordering) (a : Array Nat) (n lo i : Nat) : Prop :=
  (∀ c, 2 ≤ c → c ≤ n → lo ≤ c / 2 → c / 2 ≠ i → (cmp (a.getD c 0) (a.getD (c / 2) 0)).isLE) ∧
    (2 ≤ i → lo ≤ i / 2 → ∀ c, c ≤ n → c / 2 = i → (cmp (a.getD c 0) (a.getD (i / 2) 0)).isLE)

section HeapOrder

variable {cmp : Nat → Nat → Ordering} {n lo : Nat}

/-- A node at least its children closes the heap. -/
theorem heapFrom_of_heapBut {a : Array Nat} {i : Nat} (h : HeapBut cmp a n lo i)
    (htop : ∀ c ≤ n, c / 2 = i → (cmp (a.getD c 0) (a.getD i 0)).isLE) : HeapFrom cmp a n lo := by
  intro c hc2 hcn hlo
  by_cases hci : c / 2 = i
  · rw [hci]
    exact htop c hcn hci
  · exact h.1 c hc2 hcn hlo hci

/-- Exchanging a node with its greater child when it is less than it moves the gap down. -/
theorem heapBut_swap {a : Array Nat} {i j : Nat} (hli : lo ≤ i) (hlo : 1 ≤ lo) (hji : j / 2 = i)
    (hjn : j ≤ n) (hn : n < a.size) (hmax : ∀ c ≤ n, c / 2 = i → (cmp (a.getD c 0) (a.getD j 0)).isLE)
    (hlt : (cmp (a.getD i 0) (a.getD j 0)).isLE) (h : HeapBut cmp a n lo i) :
    HeapBut cmp (a.swapIfInBounds i j) n lo j := by
  have hij : i < j := by omega
  have hread := getD_swapIfInBounds (a := a) (i := i) (j := j) (by omega) (by omega)
  constructor
  · intro c hc2 hcn hlo' hcj
    rw [hread c, hread (c / 2)]
    by_cases hc : c = j
    · -- the item moved up now sits above the one moved down
      rw [if_neg (by omega), if_pos hc, if_pos (by omega)]
      exact hlt
    · rw [if_neg hc, if_neg hcj]
      by_cases hci : c = i
      · -- the grandparent was already at least the greater child
        rw [if_pos hci, if_neg (by omega)]
        subst hci
        exact h.2 (by omega) hlo' j hjn hji
      · rw [if_neg hci]
        by_cases hpi : c / 2 = i
        · rw [if_pos hpi]
          exact hmax c hcn hpi
        · rw [if_neg hpi]
          exact h.1 c hc2 hcn hlo' hpi
  · intro _ _ c hcn hcj
    rw [hread c, hread (j / 2), if_neg (by omega), if_neg (by omega), hji, if_pos rfl]
    have hc := h.1 c (by omega) hcn (by omega) (by omega)
    rwa [hcj] at hc

variable [Std.TransCmp cmp]

/-- The child that sifting compares with is at least the other child. -/
theorem greaterChild_max (a : Array Nat) {i : Nat} :
    ∀ c ≤ n, c / 2 = i →
      (cmp (a.getD c 0) (a.getD (greaterChild (fun a b => cmp a b == .lt) n a i) 0)).isLE := by
  intro c hc hci
  unfold greaterChild
  by_cases hr : 2 * i < n ∧ (cmp (a.getD (2 * i) 0) (a.getD (2 * i + 1) 0) == .lt) = true
  · rw [if_pos hr]
    rcases Nat.lt_or_ge c (2 * i + 1) with h' | h'
    · obtain rfl : c = 2 * i := by omega
      exact isLE_of_lt hr.2
    · obtain rfl : c = 2 * i + 1 := by omega
      exact Std.ReflCmp.isLE_rfl
  · rw [if_neg hr]
    rcases Nat.lt_or_ge c (2 * i + 1) with h' | h'
    · obtain rfl : c = 2 * i := by omega
      exact Std.ReflCmp.isLE_rfl
    · obtain rfl : c = 2 * i + 1 := by omega
      exact isLE_of_not_lt (Bool.of_not_eq_true fun hlt => hr ⟨by omega, hlt⟩)

/-- Sifting node `i` down closes the heap from `lo` on. -/
theorem siftDown_heap (fuel : Nat) {a : Array Nat} {i : Nat} (hlo : 1 ≤ lo) (hli : lo ≤ i)
    (hn : n < a.size) (hfuel : n < fuel + i) (h : HeapBut cmp a n lo i) :
    HeapFrom cmp (siftDown (fun a b => cmp a b == .lt) n fuel a i) n lo := by
  induction fuel generalizing a i with
  | zero => exact heapFrom_of_heapBut h fun c hc hci => by omega
  | succ fuel ih =>
    unfold siftDown
    by_cases h2 : 2 * i ≤ n
    · rw [if_pos h2]
      dsimp only
      obtain ⟨hj2, hij, hjn⟩ := greaterChild_bounds (fun a b => cmp a b == .lt) a h2
      have hmax : ∀ c ≤ n, c / 2 = i → (cmp (a.getD c 0)
          (a.getD (greaterChild (fun a b => cmp a b == .lt) n a i) 0)).isLE :=
        greaterChild_max a
      by_cases hlt : (cmp (a.getD i 0)
        (a.getD (greaterChild (fun a b => cmp a b == .lt) n a i) 0) == .lt) = true
      · rw [if_pos hlt]
        exact ih (by omega) (by simp only [Array.size_swapIfInBounds]; omega) (by omega)
          (heapBut_swap hli hlo hj2 hjn hn hmax (isLE_of_lt hlt) h)
      · rw [if_neg hlt]
        -- the node is at least its greater child, hence at least both children
        have htop := isLE_of_not_lt (Bool.of_not_eq_true hlt)
        exact heapFrom_of_heapBut h fun c hc hci => Std.TransCmp.isLE_trans (hmax c hc hci) htop
    · rw [if_neg h2]
      exact heapFrom_of_heapBut h fun c hc hci => by omega

/-- Sifting the nodes `l` down to `1`, a heap from `l + 1` on becomes a heap. -/
theorem heapify_heap (l : Nat) {a : Array Nat} (hn : n < a.size) (h : HeapFrom cmp a n (l + 1)) :
    HeapFrom cmp (heapify (fun a b => cmp a b == .lt) n l a) n 1 := by
  induction l generalizing a with
  | zero => exact h
  | succ l ih =>
    have hsize := (siftDown_frame (fun a b => cmp a b == .lt) n (by omega) hn (i := l + 1)).1.size_eq
    exact ih (hsize ▸ hn) (siftDown_heap n (by omega) (Nat.le_refl _) hn (by omega)
      ⟨fun c hc2 hcn _ hne => h c hc2 hcn (by omega), fun _ _ => by omega⟩)

/-- The root of a heap is at least every node. -/
theorem heap_root_max {a : Array Nat} (h : HeapFrom cmp a n 1) :
    ∀ k, 1 ≤ k → k ≤ n → (cmp (a.getD k 0) (a.getD 1 0)).isLE := by
  intro k
  induction k using Nat.strongRecOn with
  | ind k ih =>
    intro hk1 hkn
    rcases Nat.lt_or_ge k 2 with hk | hk
    · obtain rfl : k = 1 := by omega
      exact Std.ReflCmp.isLE_rfl
    · exact Std.TransCmp.isLE_trans (h k hk hkn (by omega))
        (ih (k / 2) (by omega) (by omega) (by omega))

end HeapOrder

section Extract

variable (less : Nat → Nat → Bool)

theorem extract_succ_succ (m : Nat) (a : Array Nat) :
    extract less (m + 2) a =
      extract less (m + 1) (siftDown less (m + 1) (m + 1) (a.swapIfInBounds 1 (m + 2)) 1) := rfl

theorem heapify_frame {n : Nat} (l : Nat) {a : Array Nat} (hn : n < a.size) :
    (heapify less n l a).Perm a ∧ (heapify less n l a).getD 0 0 = a.getD 0 0 := by
  induction l generalizing a with
  | zero => exact ⟨Array.Perm.refl a, rfl⟩
  | succ l ih =>
    obtain ⟨hp, hframe, -⟩ := siftDown_frame less n (by omega) hn (i := l + 1)
    obtain ⟨hp', h0⟩ := ih (hp.size_eq ▸ hn)
    exact ⟨hp'.trans hp, h0.trans (hframe 0 (Or.inl rfl))⟩

theorem extract_frame (m : Nat) {a : Array Nat} (hm : m < a.size) :
    (extract less m a).Perm a ∧ (extract less m a).getD 0 0 = a.getD 0 0 := by
  induction m generalizing a with
  | zero => exact ⟨Array.Perm.refl a, rfl⟩
  | succ m ih =>
    cases m with
    | zero => exact ⟨Array.Perm.refl a, rfl⟩
    | succ m =>
      obtain ⟨hp, hframe, -⟩ := siftDown_frame less (n := m + 1) (m + 1) (Nat.le_refl 1)
        (a := a.swapIfInBounds 1 (m + 2)) (by simp only [Array.size_swapIfInBounds]; omega)
      obtain ⟨hp', h0⟩ := ih (by rw [hp.size_eq, Array.size_swapIfInBounds]; omega)
      rw [extract_succ_succ]
      refine ⟨hp'.trans (hp.trans (swapIfInBounds_perm a 1 (m + 2))), ?_⟩
      rw [h0, hframe 0 (Or.inl rfl), getD_swapIfInBounds_of_ne (by omega) (by omega)]

end Extract

/-- The extraction with `m` nodes left: they form a heap, and after them, up to `N`, a tail in
order that is at least every node of the heap. -/
def Extracting (cmp : Nat → Nat → Ordering) (a : Array Nat) (N m : Nat) : Prop :=
  HeapFrom cmp a m 1 ∧
    (∀ k, m < k → k ≤ N → ∀ k', 1 ≤ k' → k' ≤ m → (cmp (a.getD k' 0) (a.getD k 0)).isLE) ∧
    ∀ k k', m < k → k ≤ k' → k' ≤ N → (cmp (a.getD k 0) (a.getD k' 0)).isLE

section ExtractOrder

variable {cmp : Nat → Nat → Ordering} [Std.TransCmp cmp] {N : Nat}

/-- Moving the root behind the heap and sifting its replacement keeps the extraction's state. -/
theorem extracting_step {m : Nat} {a : Array Nat} (hm : m + 2 ≤ N) (hN : N < a.size)
    (h : Extracting cmp a N (m + 2)) :
    Extracting cmp (siftDown (fun a b => cmp a b == .lt) (m + 1) (m + 1)
      (a.swapIfInBounds 1 (m + 2)) 1) N (m + 1) := by
  obtain ⟨hheap, hbelow, htail⟩ := h
  have hroot := heap_root_max hheap
  have hread := getD_swapIfInBounds (a := a) (i := 1) (j := m + 2) (by omega) (by omega)
  have hb1 : (a.swapIfInBounds 1 (m + 2)).getD 1 0 = a.getD (m + 2) 0 := by
    rw [hread, if_pos rfl]
  have hbtop : (a.swapIfInBounds 1 (m + 2)).getD (m + 2) 0 = a.getD 1 0 := by
    rw [hread, if_neg (by omega), if_pos rfl]
  have hbk : ∀ k, k ≠ 1 → k ≠ m + 2 → (a.swapIfInBounds 1 (m + 2)).getD k 0 = a.getD k 0 :=
    fun k h1 h2 => by rw [hread, if_neg h1, if_neg h2]
  have hbs : m + 1 < (a.swapIfInBounds 1 (m + 2)).size := by
    simp only [Array.size_swapIfInBounds]
    omega
  generalize a.swapIfInBounds 1 (m + 2) = b at hb1 hbtop hbk hbs ⊢
  obtain ⟨-, hframe, hwithin⟩ := siftDown_frame (fun a b => cmp a b == .lt) (m + 1)
    (Nat.le_refl 1) hbs
  refine ⟨siftDown_heap _ (Nat.le_refl 1) (Nat.le_refl 1) hbs (by omega)
    ⟨fun c hc2 hcn hlo hne => ?_, fun h2 => by omega⟩, fun k hk hkN k' hk1 hk' => ?_,
    fun k k' hk hkk' hk'N => ?_⟩
  · -- below the root, the heap is as it was
    rw [hbk c (by omega) (by omega), hbk (c / 2) hne (by omega)]
    exact hheap c hc2 (by omega) hlo
  · -- every node left in the heap is at most the old root, and at most the old tail
    rw [hframe k (Or.inr hk)]
    refine hwithin (fun v => (cmp v (b.getD k 0)).isLE) (fun x hx1 hxn => ?_) k' hk1 hk'
    rcases Nat.lt_or_ge (m + 2) k with hk2 | hk2
    · rw [hbk k (by omega) (by omega)]
      by_cases hx : x = 1
      · rw [hx, hb1]
        exact hbelow k hk2 hkN (m + 2) (by omega) (Nat.le_refl _)
      · rw [hbk x hx (by omega)]
        exact hbelow k hk2 hkN x hx1 (by omega)
    · obtain rfl : k = m + 2 := by omega
      rw [hbtop]
      by_cases hx : x = 1
      · rw [hx, hb1]
        exact hroot (m + 2) (by omega) (Nat.le_refl _)
      · rw [hbk x hx (by omega)]
        exact hroot x hx1 (by omega)
  · rw [hframe k (Or.inr hk), hframe k' (Or.inr (by omega))]
    rcases Nat.lt_or_ge (m + 2) k with hk2 | hk2
    · rw [hbk k (by omega) (by omega), hbk k' (by omega) (by omega)]
      exact htail k k' hk2 hkk' hk'N
    · obtain rfl : k = m + 2 := by omega
      rw [hbtop]
      rcases Nat.lt_or_ge (m + 2) k' with hk2' | hk2'
      · rw [hbk k' (by omega) (by omega)]
        exact hbelow k' hk2' hk'N 1 (Nat.le_refl 1) (by omega)
      · obtain rfl : k' = m + 2 := by omega
        rw [hbtop]
        exact Std.ReflCmp.isLE_rfl

/-- The extraction leaves nodes `1` to `N` in order. -/
theorem extract_sorted (m : Nat) {a : Array Nat} (hm : m ≤ N) (hN : N < a.size)
    (h : Extracting cmp a N m) :
    ∀ k k', 1 ≤ k → k ≤ k' → k' ≤ N →
      (cmp ((extract (fun a b => cmp a b == .lt) m a).getD k 0)
        ((extract (fun a b => cmp a b == .lt) m a).getD k' 0)).isLE := by
  induction m generalizing a with
  | zero => exact fun k k' hk hkk' hk' => h.2.2 k k' hk hkk' hk'
  | succ m ih =>
    cases m with
    | zero =>
      -- one node left: it is at most the tail
      intro k k' hk hkk' hk'
      rcases Nat.lt_or_ge 1 k with h1 | h1
      · exact h.2.2 k k' h1 hkk' hk'
      · obtain rfl : k = 1 := by omega
        rcases Nat.lt_or_ge 1 k' with h1' | h1'
        · exact h.2.1 k' h1' hk' 1 (Nat.le_refl 1) (Nat.le_refl 1)
        · obtain rfl : k' = 1 := by omega
          exact Std.ReflCmp.isLE_rfl
    | succ m =>
      rw [extract_succ_succ]
      have hsize := (siftDown_frame (fun a b => cmp a b == .lt) (n := m + 1) (m + 1)
        (Nat.le_refl 1) (a := a.swapIfInBounds 1 (m + 2))
        (by simp only [Array.size_swapIfInBounds]; omega)).1.size_eq
      exact ih (by omega) (by rw [hsize, Array.size_swapIfInBounds]; exact hN)
        (extracting_step hm hN h)

end ExtractOrder

section HeapSort

variable (less : Nat → Nat → Bool)

theorem heapSort_perm (xs : List Nat) : (heapSort less xs).Perm xs := by
  unfold heapSort
  have hs : xs.length < (0 :: xs).toArray.size := by simp
  obtain ⟨hp1, h01⟩ := heapify_frame less (xs.length / 2) hs
  obtain ⟨hp2, h02⟩ := extract_frame less xs.length (hp1.size_eq ▸ hs)
  generalize extract less xs.length (heapify less xs.length (xs.length / 2) (0 :: xs).toArray) = B
    at hp2 h02 ⊢
  have hp : B.toList.Perm (0 :: xs) := by
    simpa [Array.perm_iff_toList_perm] using hp2.trans hp1
  -- the placeholder stays first, so the nodes are a rearrangement of the items
  have h0 : B.getD 0 0 = 0 := by simpa using h02.trans h01
  cases hB : B.toList with
  | nil => simp [hB] at hp
  | cons y ys =>
    rw [hB] at hp
    obtain rfl : y = 0 := by
      rw [Array.getD_eq_getD_getElem?, ← Array.getElem?_toList, hB] at h0
      simpa using h0
    exact hp.cons_inv

variable {cmp : Nat → Nat → Ordering} [Std.TransCmp cmp]

theorem heapSort_sorted (xs : List Nat) :
    (heapSort (fun a b => cmp a b == .lt) xs).Pairwise fun a b => (cmp a b).isLE := by
  unfold heapSort
  have hs : xs.length < (0 :: xs).toArray.size := by simp
  have hheap : HeapFrom cmp (heapify _ xs.length (xs.length / 2) (0 :: xs).toArray) xs.length 1 :=
    heapify_heap (xs.length / 2) hs fun c _ hcn hlo => by omega
  have hAs := (heapify_frame (fun a b => cmp a b == .lt) (xs.length / 2) hs).1.size_eq
  have hsorted := extract_sorted (N := xs.length) xs.length (Nat.le_refl _) (hAs ▸ hs)
    ⟨hheap, fun k hk hkN => by omega, fun k k' hk _ hk' => by omega⟩
  have hBs := (extract_frame (fun a b => cmp a b == .lt) xs.length (hAs ▸ hs)).1.size_eq
  generalize extract _ xs.length (heapify _ xs.length (xs.length / 2) (0 :: xs).toArray) = B
    at hsorted hBs ⊢
  simp only [hAs, List.size_toArray, List.length_cons] at hBs
  rw [List.pairwise_iff_getElem]
  intro i j hi hj hij
  simp only [List.length_tail, Array.length_toList] at hi hj
  have h := hsorted (i + 1) (j + 1) (by omega) (by omega) (by omega)
  simpa [Array.getD_eq_getD_getElem?, show i + 1 < B.size by omega,
    show j + 1 < B.size by omega] using h

end HeapSort

/-! ## Introsort -/

section IntroPerm

variable (less : Nat → Nat → Bool)

theorem introSeg_perm (fuel : Nat) (seg : List Nat) (depth : Int) (checked : Bool) :
    (introSeg less fuel seg depth checked).Perm seg := by
  induction fuel generalizing seg depth checked with
  | zero => rfl
  | succ fuel ih =>
    unfold introSeg
    by_cases hheap : checked = true ∧ depth < 0
    · rw [if_pos hheap]
      exact heapSort_perm less seg
    · rw [if_neg hheap]
      by_cases hlen : 17 < seg.length
      · rw [if_pos hlen]
        dsimp only
        have hsplit := partition_perm less (by omega : 3 ≤ seg.length)
        split
        · exact ((ih ..).append ((ih ..).cons _)).trans hsplit
        · exact ((ih ..).append ((ih ..).cons _)).trans hsplit
      · rw [if_neg hlen]
        exact insertionSort_perm less seg

/-- Whatever `less` is, the quicksort kind of argument sort rearranges its input. -/
theorem argsort_perm (xs : List Nat) : (argsort less xs).Perm xs :=
  introSeg_perm less _ xs _ _

end IntroPerm

section IntroOrder

variable {cmp : Nat → Nat → Ordering} [Std.TransCmp cmp]

/-- Two parts in order, the first at most a pivot and the second at least it, make a list in
order around the pivot. -/
theorem pairwise_around {below above : List Nat} {p : Nat}
    (hb : below.Pairwise fun a b => (cmp a b).isLE) (ha : above.Pairwise fun a b => (cmp a b).isLE)
    (hbp : ∀ x ∈ below, (cmp x p).isLE) (hpa : ∀ x ∈ above, (cmp p x).isLE) :
    (below ++ p :: above).Pairwise fun a b => (cmp a b).isLE := by
  refine List.pairwise_append.2 ⟨hb, List.pairwise_cons.2 ⟨hpa, ha⟩, fun x hx y hy => ?_⟩
  rcases List.mem_cons.1 hy with rfl | hy
  · exact hbp x hx
  · exact Std.TransCmp.isLE_trans (hbp x hx) (hpa y hy)

theorem introSeg_sorted (fuel : Nat) (seg : List Nat) (depth : Int) (checked : Bool)
    (hfuel : seg.length < fuel) :
    (introSeg (fun a b => cmp a b == .lt) fuel seg depth checked).Pairwise
      fun a b => (cmp a b).isLE := by
  induction fuel generalizing seg depth checked with
  | zero => omega
  | succ fuel ih =>
    unfold introSeg
    by_cases hheap : checked = true ∧ depth < 0
    · rw [if_pos hheap]
      exact heapSort_sorted seg
    · rw [if_neg hheap]
      by_cases hlen : 17 < seg.length
      · rw [if_pos hlen]
        dsimp only
        have hsize :=
          (partition_perm (fun a b => cmp a b == .lt) (by omega : 3 ≤ seg.length)).length_eq
        simp only [List.length_append, List.length_cons] at hsize
        obtain ⟨hbelow, habove⟩ := @partition_sides seg cmp _ (by omega)
        -- each part is sorted by the recursion, and keeps its items on its side of the pivot
        have hsorted : ∀ d c d' c',
            (introSeg _ fuel (partition (fun a b => cmp a b == .lt) seg).below d c ++
              (partition _ seg).pivot :: introSeg _ fuel (partition _ seg).above d' c').Pairwise
              fun a b => (cmp a b).isLE := fun d c d' c' =>
          pairwise_around (ih _ _ _ (by omega)) (ih _ _ _ (by omega))
            (fun x hx => hbelow x ((introSeg_perm _ _ _ _ _).subset hx))
            (fun x hx => habove x ((introSeg_perm _ _ _ _ _).subset hx))
        split
        · exact hsorted ..
        · exact hsorted ..
      · rw [if_neg hlen]
        exact insertionSort_sorted seg

/-- With `less` the strict part of a transitive comparison, the quicksort kind of argument sort
puts its input in order. -/
theorem argsort_sorted (xs : List Nat) :
    (argsort (fun a b => cmp a b == .lt) xs).Pairwise fun a b => (cmp a b).isLE :=
  introSeg_sorted _ xs _ _ (Nat.lt_succ_self _)

end IntroOrder

end Tabula.Query.Introsort
