import Tabula.Proofs.CellOrder

/-!
Cells that fit their column's kind. A column read from text holds integers under the integer
kinds, doubles under `float64`, booleans under `bool`, and texts or booleans in a mixed column;
a row beyond the column reads as missing, which fits every kind. Blanking a cell of an integer or
a boolean column first turns the columns of that kind into doubles or mixed columns
(`Query.widen`), so the blanks fit their kind too, and every stage before grouping keeps each
column's cells fitting its kind (`typed_stageInvariant`).
-/

namespace Tabula

/-- Does the cell fit a column of the kind? A missing cell fits every kind. -/
def Cell.fitsKind : Kind → Cell → Bool
  | _, .missing => true
  | .int64, .int _ | .uint64, .int _ => true
  | .float64, .float _ => true
  | .bool, .bool _ => true
  | .object, .text _ | .object, .bool _ => true
  | _, _ => false

def Column.Typed (c : Column) : Prop := ∀ x ∈ c.cells.toList, x.fitsKind c.kind = true

theorem Column.Shaped.typed {c : Column} (h : c.Shaped) : c.Typed := by
  intro x hx
  cases hk : c.kind
  · obtain ⟨n, rfl, -⟩ := h.ints hk x hx
    rfl
  · obtain ⟨n, rfl⟩ := h.uints hk x hx
    rfl
  · obtain ⟨y, rfl⟩ := h.floats hk x hx
    rfl
  · obtain ⟨b, rfl⟩ := h.bools hk x hx
    rfl
  · rcases h.mixed hk with htexts | hbools
    · rcases htexts x hx with rfl | ⟨t, rfl⟩ <;> rfl
    · rcases hbools x hx with rfl | ⟨b, rfl⟩ <;> rfl

theorem Column.Typed.getD {c : Column} (h : c.Typed) (i : Nat) :
    (c.cells.getD i .missing).fitsKind c.kind = true := by
  by_cases hi : i < c.cells.size
  · rw [Array.getD_eq_getD_getElem?, Array.getElem?_eq_getElem hi, Option.getD_some]
    exact h _ (Array.getElem_mem_toList hi)
  · rw [Array.getD_eq_getD_getElem?, Array.getElem?_eq_none (by omega), Option.getD_none]
    cases c.kind <;> rfl

theorem Column.Typed.pick {c : Column} (h : c.Typed) (rows : List Nat) : (c.pick rows).Typed := by
  intro x hx
  rw [Column.pick_cells, List.mem_map] at hx
  obtain ⟨i, -, rfl⟩ := hx
  exact h.getD i

theorem Column.Typed.widen {c : Column} (h : c.Typed) : (Query.widen c).Typed := by
  unfold Query.widen
  split
  case h_1 hk | h_2 hk =>
    -- integers become doubles, and a missing cell stays missing
    intro y hy
    rw [Array.toList_map, List.mem_map] at hy
    obtain ⟨x, hx, rfl⟩ := hy
    have hfit := h x hx
    rw [hk] at hfit
    cases x <;> simp_all [Cell.fitsKind]
  case h_3 hk =>
    intro x hx
    have hfit := h x hx
    rw [hk] at hfit
    cases x <;> simp_all [Cell.fitsKind]
  case h_4 => exact h

theorem fitsKind_blankCell {k : Kind} (hk : k ≠ .int64 ∧ k ≠ .uint64) :
    (Query.blankCell k).fitsKind k = true := by
  cases k
  · exact absurd rfl hk.1
  · exact absurd rfl hk.2
  all_goals rfl

theorem widen_kind_ne (c : Column) :
    (Query.widen c).kind ≠ .int64 ∧ (Query.widen c).kind ≠ .uint64 := by
  unfold Query.widen
  split
  case h_4 hint huint _ => exact ⟨hint, huint⟩
  all_goals exact ⟨Kind.noConfusion, Kind.noConfusion⟩

/-- Blanking cells keeps them fitting the kind, unless the kind is an integer one and some cell is
blanked. -/
theorem Column.Typed.blank {w : Column} (hw : w.Typed) (m : List Bool)
    (hm : (w.kind ≠ .int64 ∧ w.kind ≠ .uint64) ∨ m.any (· == false) = false) :
    (⟨w.kind, ((w.cells.toList.zip m).map fun x => if x.2 then x.1 else Query.blankCell w.kind).toArray⟩ :
      Column).Typed := by
  intro y hy
  rw [List.toList_toArray, List.mem_map] at hy
  obtain ⟨⟨x, keep⟩, hx, rfl⟩ := hy
  cases keep
  · rcases hm with hk | hall
    · exact fitsKind_blankCell hk
    · -- a blanked cell means a `false` in the mask
      have : m.any (· == false) = true := List.any_eq_true.2 ⟨false, (List.of_mem_zip hx).2, rfl⟩
      rw [hall] at this
      cases this
  · exact hw x (List.of_mem_zip hx).1

theorem Frame.Typed.blankFrame {g : Frame} (h : g.All Column.Typed) (masks : List (List Bool)) :
    (Query.blankFrame g masks).All Column.Typed := by
  intro p hp
  simp only [Query.blankFrame, List.toList_toArray, List.mem_map] at hp
  obtain ⟨⟨⟨n, c⟩, m⟩, hq, rfl⟩ := hp
  have hc : c.Typed := h _ (List.of_mem_zip hq).1
  dsimp only
  split
  · exact hc.widen.blank m (.inl (widen_kind_ne c))
  · -- no column of this kind has a blanked cell, this one included
    next hspoiled =>
    refine hc.blank m (.inr ?_)
    by_contra hany
    exact hspoiled (List.any_eq_true.2 ⟨((n, c), m), hq, by simpa using hany⟩)

theorem typed_stageInvariant : StageInvariant Column.Typed where
  pick _ rows h := h.pick rows
  blankFrame _ masks h := Frame.Typed.blankFrame h masks

end Tabula
