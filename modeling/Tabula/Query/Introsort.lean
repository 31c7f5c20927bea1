/-!
The argument sort of the quicksort kind: an introsort of row numbers compared by `less`. A segment
of more than seventeen items is split by a Hoare partition around the median of its first, middle
and last items; a shorter one is sorted by insertion. Of the two parts of a split, the sort goes on
with the shorter and sets the longer aside; each split costs one unit of a depth budget of twice the
binary logarithm of the length, and a segment taken up again from the side once the budget is spent
is heap sorted instead. This is how texts and booleans are sorted; on machines with vector
instructions for it, the program sorts 64-bit numbers by another algorithm, which may put tied
items in another order.
-/

namespace Tabula.Query.Introsort

variable (less : Nat → Nat → Bool)

/-! ## Insertion sort -/

/-- Inserts `x` into a sorted run kept last item first: `x` moves down past the items it is less
than. -/
def sink (x : Nat) : List Nat → List Nat
  | [] => [x]
  | y :: ys => if less x y then y :: sink x ys else x :: y :: ys

def insertionSort (xs : List Nat) : List Nat :=
  (xs.foldl (fun run x => sink less x run) []).reverse

/-! ## Partition -/

/-- From `i`, the first later position before `j` whose item is not less than the pivot `p`, or
`j`. -/
def scanUp (a : Array Nat) (p j : Nat) : (fuel i : Nat) → Nat
  | 0, i => i + 1
  | fuel + 1, i =>
    if i + 1 < j ∧ less (a.getD (i + 1) 0) p then scanUp a p j fuel (i + 1) else i + 1

/-- From `j`, the first earlier position after `i` whose item the pivot `p` is not less than, or
`i`. -/
def scanDown (a : Array Nat) (p i : Nat) : (fuel j : Nat) → Nat
  | 0, j => j - 1
  | fuel + 1, j =>
    if i < j - 1 ∧ less p (a.getD (j - 1) 0) then scanDown a p i fuel (j - 1) else j - 1

/-- The crossing scans of a Hoare partition around the pivot `p`: the two scans stop at items on
the wrong side, which are exchanged, until they meet. Returns the items and where the upward scan
stopped. -/
def crossing (p : Nat) : (fuel : Nat) → (a : Array Nat) → (i j : Nat) → Array Nat × Nat
  | 0, a, i, _ => (a, i)
  | fuel + 1, a, i, j =>
    let i' := scanUp less a p j j i
    let j' := scanDown less a p i j j
    if j' ≤ i' then (a, i') else crossing p fuel (a.swapIfInBounds i' j') i' j'

/-- Puts the items at `lo` and `hi` in order: exchanges them when the one at `hi` is less. -/
def orderPair (a : Array Nat) (lo hi : Nat) : Array Nat :=
  if less (a.getD hi 0) (a.getD lo 0) then a.swapIfInBounds lo hi else a

/-- The first item at most the middle one, and the middle one at most the last at `r`. -/
def medianOfThree (a : Array Nat) (m r : Nat) : Array Nat :=
  orderPair less (orderPair less (orderPair less a 0 m) m r) 0 m

/-- A segment split around a pivot. -/
structure Split where
  below : List Nat
  pivot : Nat
  above : List Nat

/-- The split of a segment of at least three items: its first, middle and last items are put in
order, the middle one, the median, becomes the pivot and is parked next to the last, the crossing
scans run between the first and the parked pivot, and the pivot goes where the upward scan
stopped. -/
def partition (xs : List Nat) : Split :=
  let r := xs.length - 1
  let m := r / 2
  let a := medianOfThree less xs.toArray m r
  let p := a.getD m 0
  let (a, i) := crossing less p xs.length (a.swapIfInBounds m (r - 1)) 0 (r - 1)
  let a := a.swapIfInBounds i (r - 1)
  ⟨a.toList.take i, p, a.toList.drop (i + 1)⟩

/-! ## Heap sort

The nodes of a heap are numbered from one, the children of node `i` being `2 * i` and
`2 * i + 1`; the array holds a placeholder at position zero. -/

/-- The greater child of node `i` in a heap of `n` nodes: the right one when there is one and the
left one is less than it. -/
def greaterChild (n : Nat) (a : Array Nat) (i : Nat) : Nat :=
  if 2 * i < n ∧ less (a.getD (2 * i) 0) (a.getD (2 * i + 1) 0) then 2 * i + 1 else 2 * i

/-- Moves the item at node `i` of a heap of `n` nodes down past its greater child while it is less
than that child. -/
def siftDown (n : Nat) : (fuel : Nat) → (a : Array Nat) → (i : Nat) → Array Nat
  | 0, a, _ => a
  | fuel + 1, a, i =>
    if 2 * i ≤ n then
      let j := greaterChild less n a i
      if less (a.getD i 0) (a.getD j 0) then siftDown n fuel (a.swapIfInBounds i j) j else a
    else a

/-- Sifts down the nodes `l`, `l - 1`, …, `1`. -/
def heapify (n : Nat) : (l : Nat) → Array Nat → Array Nat
  | 0, a => a
  | l + 1, a => heapify n l (siftDown less n n a (l + 1))

/-- Exchanges the root of a heap of `n` nodes with node `n` and sifts the new root down in the
heap of the first `n - 1`, until one node is left. -/
def extract : (n : Nat) → Array Nat → Array Nat
  | n + 2, a => extract (n + 1) (siftDown less (n + 1) (n + 1) (a.swapIfInBounds 1 (n + 2)) 1)
  | _, a => a

def heapSort (xs : List Nat) : List Nat :=
  (extract less xs.length (heapify less xs.length (xs.length / 2) (0 :: xs).toArray)).toList.tail

/-! ## Introsort -/

/-- Sorts a segment within the depth budget `depth`. A segment that is `checked` is heap sorted
when the budget is spent: that is the one set aside at a split. -/
def introSeg : (fuel : Nat) → (seg : List Nat) → (depth : Int) → (checked : Bool) → List Nat
  | 0, seg, _, _ => seg
  | fuel + 1, seg, depth, checked =>
    if checked ∧ depth < 0 then heapSort less seg
    else if 17 < seg.length then
      let s := partition less seg
      if s.below.length < s.above.length then
        introSeg fuel s.below (depth - 1) false ++ s.pivot :: introSeg fuel s.above (depth - 1) true
      else
        introSeg fuel s.below (depth - 1) true ++ s.pivot :: introSeg fuel s.above (depth - 1) false
    else insertionSort less seg

/-- The quicksort kind of argument sort. -/
def argsort (xs : List Nat) : List Nat :=
  introSeg less (xs.length + 1) xs (2 * xs.length.log2) true

end Tabula.Query.Introsort
