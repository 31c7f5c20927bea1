import Tabula.Proofs.GroupIndex
import Tabula.Proofs.CompareRules

/-!
What grouping and aggregation make of a frame, when the keys are column names and each
aggregation names a column and a summary. The aggregations are read as requests by column
(`readRequests_eq`), each key picks its column (`readGroupers_columns`), each summary is one series
under the index of groups (`functionsOutcome_aggs`), and the key columns come in front of the
summaries, their names joined by `_` (`Grid.resetIndex_eq`, `Grid.flatten_eq`). The main
statement is `aggregateFrame_eq`.
-/

namespace Tabula

theorem Text.ofNatAux_toNat (c : Char) (h : c.toNat.isValidChar) : Char.ofNatAux c.toNat h = c := by
  have := Char.ofNat_toNat c
  rwa [Char.ofNat, dif_pos h] at this

theorem Text.toChars_ofString (s : String) :
    Text.toChars? (s.toList.map Char.toNat) = some s.toList := by
  induction s.toList with
  | nil => rfl
  | cons c cs ih =>
    have hc : c.toNat.isValidChar := c.valid
    simp [Text.toChars?, hc, ih, Text.ofNatAux_toNat]

theorem Text.toString_ofString (s : String) : (Text.ofString s).toString? = some s := by
  simp [Text.toString?, Text.ofString, Text.toChars_ofString]

theorem Text.toStringLossy_ofString (s : String) : (Text.ofString s).toStringLossy = s := by
  have hc : ∀ c : Char, c.toNat.isValidChar := fun c => c.valid
  simp only [Text.toStringLossy, Text.ofString, List.map_map]
  conv_lhs => arg 1; arg 1; ext c; simp only [Function.comp_apply, dif_pos (hc c), Text.ofNatAux_toNat]
  simp

namespace Query

open Json

theorem Agg.ofName_name (a : Agg) : Agg.ofName? a.name = some a := by
  cases a <;> rfl

theorem Method.ofName_name (a : Agg) (keysType : String) :
    Method.ofName? a.name keysType = some (.reduce a) := by
  rw [Method.ofName?, Agg.ofName_name]

def aggValue (a : Agg) : Value := .str (Text.ofString a.name)

theorem functionOutcome_agg (g : Grouping) (keysType : String) (name : Text) (c : Column) (a : Agg) :
    functionOutcome (.ok g) keysType name c (aggValue a) =
      (summarizeColumn c a g.groups g.rowCells).map fun col => .series (some name) g.keys col := by
  rw [aggValue, functionOutcome, Text.toStringLossy_ofString, Method.ofName_name,
    Text.toString_ofString]
  simp only [Option.isSome_some, if_true, Method.outcome, bind, Except.bind]
  cases summarizeColumn c a g.groups g.rowCells <;> rfl

theorem functionsOutcome_aggs (g : Grouping) (keysType : String) (name : Text) (c : Column)
    {as : List Agg} {labelled : List (Value × Outcome)}
    (h : functionsOutcome (.ok g) keysType name c false (as.map aggValue) = .ok labelled) :
    ∃ cols, List.Forall₂ (fun a col => summarizeColumn c a g.groups g.rowCells = .ok col) as cols ∧
      labelled = (as.zip cols).map fun q => (aggValue q.1, .series (some name) g.keys q.2) := by
  induction as generalizing labelled with
  | nil =>
    rw [List.map_nil, functionsOutcome_nil] at h
    cases h
    exact ⟨[], .nil, rfl⟩
  | cons a as ih =>
    rw [List.map_cons, functionsOutcome.eq_def] at h
    dsimp only at h
    cases hs : summarizeColumn c a g.groups g.rowCells with
    | error e =>
      rw [functionOutcome_agg, hs] at h
      cases h
    | ok col =>
      cases hrest : functionsOutcome (.ok g) keysType name c false (as.map aggValue) with
      | error e =>
        rw [functionOutcome_agg, hs, hrest] at h
        cases h
      | ok rest =>
        rw [functionOutcome_agg, hs, hrest] at h
        cases h
        obtain ⟨cols, hcols, rfl⟩ := ih hrest
        exact ⟨col :: cols, .cons hs hcols, rfl⟩

/-- Series under one index that unites with itself combine side by side under it, each named by
its label. -/
theorem combineOutcomes_series {ix : RowIndex} (hix : ix.SelfUnion) (name : Option Text)
    {items : List (Value × Column)} (hne : items ≠ []) :
    combineOutcomes (items.map fun q => (q.1, Outcome.series name ix q.2)) =
      .ok ⟨ix, 1, items.map fun q => ([q.1], q.2)⟩ := by
  obtain ⟨q, rest, rfl⟩ := List.exists_cons_of_ne_nil hne
  simp [combineOutcomes, Outcome.isGrid, List.filterMap_map, Function.comp_def]
  rw [← List.replicate_succ, hix.unionAll]
  simp [reindexColumn_self hix.equals]

/-- Blocks of columns under one index that unites with itself stand side by side under it, each
column's name behind its block's key. -/
theorem concatKeyed_same {ix : RowIndex} (hix : ix.SelfUnion)
    {blocks : List (Value × List (List Value × Column))} (hne : blocks ≠ []) :
    concatKeyed (blocks.map (·.1)) (blocks.map fun b => ⟨ix, 1, b.2⟩) =
      .ok ⟨ix, 2, blocks.flatMap fun b => b.2.map fun q => (b.1 :: q.1, q.2)⟩ := by
  obtain ⟨b, rest, rfl⟩ := List.exists_cons_of_ne_nil hne
  simp [concatKeyed, List.zip_map', Function.comp_def]
  rw [← List.replicate_succ, hix.unionAll]
  simp [reindexColumn_self hix.equals, List.flatMap_map]

/-- The blocks of several columns under one index that unites with itself, none empty, stand side
by side under it, each column's name behind its column's name. -/
theorem combineColumns_same {ix : RowIndex} (hix : ix.SelfUnion)
    {blocks : List (Text × List (List Value × Column))} (hne : blocks ≠ [])
    (hcols : ∀ b ∈ blocks, b.2 ≠ []) :
    combineColumns (blocks.map fun b => (b.1, ⟨ix, 1, b.2⟩)) =
      .ok ⟨ix, 2, blocks.flatMap fun b => b.2.map fun q => (.str b.1 :: q.1, q.2)⟩ := by
  -- empty grids are left out only when some grid is not, and these are all empty or none is
  have hkept : ((blocks.map fun b => (b.1, (⟨ix, 1, b.2⟩ : Grid))).filter fun p => !p.2.isEmpty) =
      if ix.height = 0 then [] else blocks.map fun b => (b.1, ⟨ix, 1, b.2⟩) := by
    split
    · refine List.filter_eq_nil_iff.2 fun p hp => ?_
      obtain ⟨b, -, rfl⟩ := List.mem_map.1 hp
      simp [Grid.isEmpty, *]
    · refine List.filter_eq_self.2 fun p hp => ?_
      obtain ⟨b, hb, rfl⟩ := List.mem_map.1 hp
      simp [Grid.isEmpty, *, hcols b hb]
  have hne' : (blocks.map fun b => (Value.str b.1, b.2)) ≠ [] := by simpa using hne
  have huse := concatKeyed_same hix hne'
  simp only [List.map_map, Function.comp_def, List.flatMap_map] at huse
  unfold combineColumns
  rw [hkept]
  split <;> simpa [hne, List.map_map, Function.comp_def] using huse

/-- A fold that only puts each item's column in front, or fails, puts them all in front of
the start, the first item first when the items come last first. -/
theorem foldlM_reverse_prepend {ε α β : Type} {step : List β → α → Except ε (List β)} {F : α → β}
    (hstep : ∀ acc x r, step acc x = .ok r → r = F x :: acc) (xs : List α) {init r : List β}
    (h : xs.reverse.foldlM step init = .ok r) : r = xs.map F ++ init := by
  induction xs generalizing r with
  | nil => cases h; rfl
  | cons x xs ih =>
    rw [List.reverse_cons, List.foldlM_append] at h
    obtain ⟨acc, hacc, h⟩ := bind_eq_ok.1 h
    obtain ⟨r', hr', h⟩ := bind_eq_ok.1 h
    cases h
    rw [hstep _ _ _ hr', ih hacc]
    rfl

theorem levelNames_of_named {g : Grid} {names : List Text}
    (h : g.index.levels.map (·.name) = names.map some) : levelNames g = names := by
  unfold levelNames
  split
  case h_1 l hl =>
    rw [hl] at h
    obtain ⟨n, rfl, hn⟩ : ∃ n, names = [n] ∧ l.name = some n := by
      cases names with
      | nil => cases h
      | cons n ns => cases ns <;> simp_all
    simp [hn]
  case h_2 =>
    have hlen : g.index.levels.length = names.length := by simpa using congrArg List.length h
    refine List.ext_getElem (by simp [hlen]) fun i h1 h2 => ?_
    have hi := congrArg (·[i]?) h
    simp only [List.getElem?_map, List.getElem?_eq_getElem (hlen ▸ h2 : i < g.index.levels.length),
      List.getElem?_eq_getElem h2, Option.map_some, Option.some.injEq] at hi
    simp [hi]

/-- Moving named row levels into columns puts them in front, one column per level, each named by
its level's name padded with empty parts to the grid's depth. -/
theorem Grid.resetIndex_eq {g g' : Grid} (h : g.resetIndex = .ok g') :
    g' = ⟨RowIndex.positionsOf g.index.height, g.depth,
      ((levelNames g).zip g.index.levels).map (fun q =>
        ((q.1 :: List.replicate (g.depth - 1) (⟨[]⟩ : Text)).map Value.str, q.2.labels)) ++
        g.columns⟩ := by
  unfold Grid.resetIndex at h
  obtain ⟨cols, hcols, h⟩ := bind_eq_ok.1 h
  cases h
  rw [foldlM_reverse_prepend ?_ _ hcols]
  intro acc x r hr
  simp only [bind, Except.bind] at hr
  split at hr
  · cases hr
  · cases hr
    rfl

theorem Text.append_nil (t : Text) : t ++ (⟨[]⟩ : Text) = t := by
  show (⟨t.points ++ []⟩ : Text) = t
  rw [List.append_nil]

theorem ofString_underscore : Text.ofString "_" = ⟨[0x5F]⟩ := rfl

theorem joinName_pair (a b : Text) :
    joinName [.str a, .str b] = .ok (a ++ Text.ofString "_" ++ b).strip := by
  simp [joinName, List.range_succ, List.mapM_cons, bind, Except.bind, pure, Except.pure,
    ofString_underscore]
  show Text.strip ⟨_⟩ = Text.strip ⟨(a.points ++ [0x5F]) ++ b.points⟩
  simp

theorem Grid.flatten_eq {g : Grid} {f : Frame} (h : g.flatten = .ok f) :
    f.height = g.index.height ∧
      f.columns.toList = g.columns.map (fun q => ((joinName q.1).toOption.getD ⟨[]⟩, q.2)) ∧
      f.labels = .positions := by
  unfold Grid.flatten at h
  obtain ⟨cols, hcols, h⟩ := bind_eq_ok.1 h
  cases h
  refine ⟨rfl, ?_, rfl⟩
  symm
  refine List.forall₂_eq_eq_eq ▸ List.forall₂_map_left_iff.2 ((mapM_eq_ok_iff.1 hcols).imp
    fun q p hq => ?_)
  cases hj : joinName q.1 with
  | error e => simp [hj, bind, Except.bind] at hq
  | ok n =>
    simp only [hj, bind, Except.bind, pure, Except.pure, Except.ok.injEq] at hq
    rw [← hq]
    rfl

theorem readGroupers_columns {g : Frame} {keys : List (Text × Column)} (hne : keys ≠ [])
    (hkeys : ∀ p ∈ keys, g.pickBy (.str p.1) = .ok (.column p.1 p.2)) :
    readGroupers (.frame g) (.arr (keys.map fun p => .str p.1)) =
      .ok (keys.map fun p => .column p.1 p.2) := by
  have hpos : ∀ p ∈ keys, ∃ i, g.positionsNamed (.str p.1) = [i] ∧ g.columns[i]? = some (p.1, p.2) :=
    fun p hp => (Frame.pickBy_eq_column rfl).1 (hkeys p hp)
  have hnamed : ∀ p ∈ keys, namesColumnOrLabels (.frame g) (.str p.1) = true := by
    intro p hp
    obtain ⟨i, hi, -⟩ := hpos p hp
    simp [namesColumnOrLabels, isLabelKey, hi]
  have hgrouper : (keys.map fun p => Value.str p.1).mapM (grouperOf (.frame g) g.height) =
      .ok (keys.map fun p => .column p.1 p.2) := by
    refine mapM_eq_ok_iff.2 (List.forall₂_map_left_iff.2 (List.forall₂_map_right_iff.2
      (List.forall₂_same.2 fun p hp => ?_)))
    obtain ⟨i, hi, hc⟩ := hpos p hp
    simp [grouperOf, hi, hc]
  have hall : (keys.map fun p => Value.str p.1).all (namesColumnOrLabels (.frame g)) = true :=
    List.all_eq_true.2 fun k hk => by
      obtain ⟨p, hp, rfl⟩ := List.mem_map.1 hk
      exact hnamed p hp
  unfold readGroupers
  simp only [tableHeight, bind, Except.bind, pure, Except.pure, hall, Bool.not_true, Bool.and_false,
    Bool.false_eq_true, if_false, hgrouper]
  simp [hne]

/-! ## Aggregation requests -/

/-- The columns the aggregations name, in order of first appearance, each with its summaries in
order. -/
def byColumn (A : List (Text × Agg)) : List (Text × List Agg) :=
  (A.map (·.1)).eraseDups.map fun c => (c, (A.filter fun q => q.1 == c).map (·.2))

def requestsOf (A : List (Text × Agg)) : Requests :=
  (byColumn A).map fun q => (.str q.1, q.2.map aggValue)

/-- The aggregation item asks for the summary `q.2` of the column named `q.1`. -/
def AsksFor (item : Value) (q : Text × Agg) : Prop :=
  index item "column" = .ok (.str q.1) ∧ index item "function" = .ok (aggValue q.2)

theorem foldl_add_eq_requestsOf (A : List (Text × Agg)) :
    A.foldl (fun rs q => Requests.add rs (.str q.1) (aggValue q.2)) [] = requestsOf A := by
  induction A using List.reverseRecOn with
  | nil => rfl
  | append_singleton A q ih =>
    rw [List.foldl_append, ih, List.foldl_cons, List.foldl_nil]
    by_cases hq : q.1 ∈ A.map (·.1)
    · -- a column named before: its summaries grow by one
      have hold : [q.1].removeAll (A.map (·.1)) = [] := by
        simp [List.removeAll, hq]
      unfold Requests.add
      rw [if_pos (by simpa [requestsOf, byColumn, sameKey] using hq)]
      simp only [requestsOf, byColumn, List.map_append, List.map_cons, List.map_nil,
        List.eraseDups_append, hold, List.eraseDups_nil, List.append_nil, List.map_map]
      refine List.map_congr_left fun c hc => ?_
      by_cases hc : q.1 = c
      · simp [sameKey, hc, List.filter_append]
      · simp [sameKey, hc, Ne.symm hc, List.filter_append]
    · -- a new column: it comes last, with its one summary
      have hnew : [q.1].removeAll (A.map (·.1)) = [q.1] := by
        simp [List.removeAll, hq]
      unfold Requests.add
      rw [if_neg (by simpa [requestsOf, byColumn, sameKey] using hq)]
      simp only [requestsOf, byColumn, List.map_append, List.map_cons, List.map_nil,
        List.eraseDups_append, hnew, List.map_map]
      congr 1
      · refine List.map_congr_left fun c hc => ?_
        have hne : q.1 ≠ c := fun h => hq (h ▸ List.mem_eraseDups.1 hc)
        simp [List.filter_append, hne]
      · have hnone : (A.filter fun x => x.1 == q.1) = [] := by
          refine List.filter_eq_nil_iff.2 fun x hx hxq => hq ?_
          rw [← eq_of_beq hxq]
          exact List.mem_map_of_mem hx
        simp [List.eraseDups_cons, List.filter_append, hnone]

theorem foldlM_eq_ok_of_forall₂ {ε α β γ : Type} {step : β → α → Except ε β} {g : β → γ → β}
    {R : α → γ → Prop} (hstep : ∀ b x y, R x y → step b x = .ok (g b y)) {xs : List α}
    {ys : List γ} (h : List.Forall₂ R xs ys) (init : β) :
    xs.foldlM step init = .ok (ys.foldl g init) := by
  induction h generalizing init with
  | nil => rfl
  | cons hxy _ ih =>
    rw [List.foldlM_cons, hstep _ _ _ hxy]
    exact ih _

theorem readRequests_eq {items : List Value} {A : List (Text × Agg)}
    (h : List.Forall₂ AsksFor items A) : readRequests (.arr items) = .ok (requestsOf A) := by
  unfold readRequests
  simp only [members, bind, Except.bind]
  rw [foldlM_eq_ok_of_forall₂ ?_ h, foldl_add_eq_requestsOf]
  intro rs item q hq
  simp [hq.1, hq.2, pure, Except.pure]

theorem keysAsDoubles_strs (cs : List Text) : keysAsDoubles (cs.map Value.str) = .ok false := by
  cases cs <;> rfl

/-- When no aggregated column is missing, each column named as a text exists: the first column of
that name. -/
theorem aggregatedColumn_of_none_missing {g : Frame} {rs : Requests}
    (h : (missingColumnKeys g rs).isEmpty = true) {c : Text} (hc : Value.str c ∈ rs.map (·.1)) :
    ∃ col, aggregatedColumn g (.str c) = some (c, col) := by
  unfold missingColumnKeys at h
  have hnone := (List.mergeSort_perm _ _).length_eq ▸ (List.isEmpty_iff_length_eq_zero.1 h)
  have hpos : g.positionsNamed (.str c) ≠ [] := by
    intro hempty
    have : Value.str c ∈ (rs.map (·.1)).filter fun k => (g.positionsNamed k).isEmpty :=
      List.mem_filter.2 ⟨hc, by simp [hempty]⟩
    rw [List.eq_nil_of_length_eq_zero hnone] at this
    cases this
  obtain ⟨i, rest, hi⟩ := List.exists_cons_of_ne_nil hpos
  obtain ⟨name, col, hcol, hname⟩ := Frame.mem_positionsNamed.1 (hi ▸ List.mem_cons_self)
  simp only [keyNames, beq_iff_eq] at hname
  refine ⟨col, ?_⟩
  rw [aggregatedColumn, hi]
  simp [hcol, hname]

/-- The summaries of one column by name, each completing, stand side by side under the groups'
index, each column named by its summary. -/
theorem summaryBlock {g : Grouping} (hix : g.keys.SelfUnion) {keysType : String} {name : Text}
    {c : Column} {as : List Agg} (has : as ≠ []) {labelled : List (Value × Outcome)} {b : Grid}
    (hl : functionsOutcome (.ok g) keysType name c false (as.map aggValue) = .ok labelled)
    (hb : combineOutcomes labelled = .ok b) :
    ∃ cols, List.Forall₂ (fun a col => summarizeColumn c a g.groups g.rowCells = .ok col) as cols ∧
      b = ⟨g.keys, 1, (as.zip cols).map fun p => ([aggValue p.1], p.2)⟩ := by
  obtain ⟨cols, hcols, rfl⟩ := functionsOutcome_aggs g keysType name c hl
  have hitems : (as.zip cols).map (fun p => (aggValue p.1, p.2)) ≠ [] := by
    obtain ⟨a, as', rfl⟩ := List.exists_cons_of_ne_nil has
    cases hcols with
    | cons _ _ => simp
  have hcomb := combineOutcomes_series hix (some name) hitems
  simp only [List.map_map, Function.comp_def] at hcomb
  rw [hcomb] at hb
  cases hb
  exact ⟨cols, hcols, rfl⟩

theorem positionsOf_height (n : Nat) : (RowIndex.positionsOf n).height = n := by
  simp [RowIndex.positionsOf, RowIndex.height, Column.height]

/-! ## The aggregated frame -/

def labelCells (g : Frame) : Array Cell := (g.rowLabels.map fun n => Cell.int (Int.ofNat n)).toArray

theorem Grouping.rowCells_ofFrame (keys : RowIndex) (groups : List (List Nat)) (g : Frame)
    (height : Nat) (names : List Text) :
    (⟨keys, groups, RowIndex.ofFrame g, height, names⟩ : Grouping).rowCells = labelCells g := by
  unfold Grouping.rowCells RowIndex.ofFrame
  cases g.labels <;> rfl

/-- The aggregations by column: the columns in order of first appearance, each with its summaries
in order. -/
def regrouped (A : List (Text × Agg)) : List (Text × Agg) :=
  (byColumn A).flatMap fun q => q.2.map fun a => (q.1, a)

/-- The key columns of the aggregated frame: each named by its key followed by `_`, without
surrounding blanks, and holding that key's part of the groups' labels. -/
def keyColumns (keys : List (Text × Column)) (labels : List (List Cell)) : List (Text × Column) :=
  keys.mapIdx fun j p =>
    ((p.1 ++ Text.ofString "_").strip, ⟨p.2.kind, (labels.map fun l => l.getD j .missing).toArray⟩)

/-- The column of the summary `q.2` of the column named `q.1` over the groups: named by the two
joined by `_`, without surrounding blanks, and holding the summaries of the first column of that
name. -/
def SummaryColumn (g : Frame) (groups : List (List Nat)) (q : Text × Agg) (p : Text × Column) :
    Prop :=
  p.1 = (q.1 ++ Text.ofString "_" ++ Text.ofString q.2.name).strip ∧
    ∃ c, aggregatedColumn g (.str q.1) = some (q.1, c) ∧
      summarizeColumn c q.2 groups (labelCells g) = .ok p.2

theorem forall₂_mem_right {α β : Type} {R : α → β → Prop} {l₁ : List α} {l₂ : List β}
    (h : List.Forall₂ R l₁ l₂) {b : β} (hb : b ∈ l₂) : ∃ a ∈ l₁, R a b := by
  induction h with
  | nil => cases hb
  | cons hab _ ih =>
    rcases List.mem_cons.1 hb with rfl | hb
    · exact ⟨_, List.mem_cons_self, hab⟩
    · obtain ⟨a, ha, hrel⟩ := ih hb
      exact ⟨a, List.mem_cons_of_mem _ ha, hrel⟩

/-- Summaries of the column named `c`, completing in order, are the summary columns of the pairs of
`c` with each summary, once their names are joined. -/
theorem forall₂_summaryColumn {g : Frame} {groups : List (List Nat)} {c : Text} {col : Column}
    (hcol : aggregatedColumn g (.str c) = some (c, col)) {as : List Agg} {cols : List Column}
    (h : List.Forall₂ (fun a s => summarizeColumn col a groups (labelCells g) = .ok s) as cols) :
    List.Forall₂ (SummaryColumn g groups) (as.map fun a => (c, a))
      ((as.zip cols).map fun p => ((c ++ Text.ofString "_" ++ Text.ofString p.1.name).strip, p.2)) := by
  induction h with
  | nil => exact .nil
  | cons hs _ ih => exact .cons ⟨rfl, col, hcol, hs⟩ ih

/-- Aggregating a frame by key columns that each name one column, of one class and fitting its
kind, and by summaries of named columns: the groups are the classes of rows with equal present key
tuples, and the result has one row per group, the key columns first and then one column per
summary, by column in order of first appearance. -/
theorem aggregateFrame_eq {g : Frame} (hone : g.All Column.OneClass) (htyped : g.All Column.Typed)
    {keys : List (Text × Column)} (hne : keys ≠ [])
    (hkeys : ∀ p ∈ keys, g.pickBy (.str p.1) = .ok (.column p.1 p.2)) {A : List (Text × Agg)}
    {out : Frame}
    (h : aggregateFrame (.frame g) (.arr (keys.map fun p => .str p.1)) (requestsOf A) = .ok out) :
    ∃ groups labels aggCols, GroupedBy (keys.map (·.2)) g.height groups labels ∧
      out.height = groups.length ∧ out.columns.toList = keyColumns keys labels ++ aggCols ∧
      List.Forall₂ (SummaryColumn g groups) (regrouped A) aggCols ∧ out.labels = .positions := by
  -- the key columns are columns of the frame
  have hmem : ∀ p ∈ keys, p ∈ g.columns.toList := fun p hp => Frame.mem_of_pickBy_column (hkeys p hp)
  obtain ⟨groups, labels, hbuild, hgrouped⟩ :=
    Grouping.build_grouped hne (fun p hp => hone p (hmem p hp)) (RowIndex.ofFrame g) g.height
  have hlabels : KeyLabels keys labels :=
    ⟨fun l hl => List.forall₂_map_right_iff.1 (hgrouped.cells l hl), fun p hp => hone p (hmem p hp),
      fun p hp => htyped p (hmem p hp), hgrouped.sorted⟩
  have hix := hlabels.selfUnion hne
  have hkd : keysAsDoubles ((requestsOf A).map (·.1)) = .ok false := by
    simpa [requestsOf, List.map_map, Function.comp_def] using
      keysAsDoubles_strs ((byColumn A).map (·.1))
  -- no aggregated column is missing, and some is asked for
  have hm : missingColumnKeys g (requestsOf A) = [] := by
    by_contra hm
    simp [aggregateFrame, readGroupers_columns hne hkeys, hkd, hm, bind, Except.bind, pure,
      Except.pure, throw, throwThe, MonadExceptOf.throw] at h
  have hrs : requestsOf A ≠ [] := by
    intro hrs
    have hkd' : keysAsDoubles [] = .ok false := rfl
    have hm' : missingColumnKeys g [] = [] := by simp [missingColumnKeys]
    simp only [aggregateFrame, readGroupers_columns hne hkeys, hrs] at h
    simp [bind, Except.bind, pure, Except.pure, hkd', hm', throw, throwThe,
      MonadExceptOf.throw] at h
  simp [aggregateFrame, readGroupers_columns hne hkeys, hkd, hm, hrs, hbuild, bind, Except.bind,
    pure, Except.pure] at h
  split at h
  · cases h
  rename_i blocks hblocks
  split at h
  · cases h
  rename_i grid hgrid
  split at h
  · cases h
  rename_i grid' hreset
  -- every request names a column that exists, and some summary of it
  have hnone : (missingColumnKeys g (requestsOf A)).isEmpty = true := by simp [hm]
  have hreq : ∀ q ∈ byColumn A, q.2 ≠ [] ∧ ∃ col, aggregatedColumn g (.str q.1) = some (q.1, col) := by
    intro q hq
    obtain ⟨c, hc, rfl⟩ := List.mem_map.1 hq
    obtain ⟨r, hr, rfl⟩ := List.mem_map.1 (List.mem_eraseDups.1 hc)
    refine ⟨?_, aggregatedColumn_of_none_missing hnone ?_⟩
    · exact List.ne_nil_of_mem (List.mem_map_of_mem (List.mem_filter.2 ⟨hr, beq_self_eq_true _⟩))
    · exact List.mem_map.2 ⟨_, List.mem_map.2 ⟨_, hq, rfl⟩, rfl⟩
  have hblk : List.Forall₂ (fun (q : Text × List Agg) (b : Text × Grid) => ∃ col cols,
      aggregatedColumn g (.str q.1) = some (q.1, col) ∧
      List.Forall₂ (fun a s => summarizeColumn col a groups (labelCells g) = .ok s) q.2 cols ∧
      b = (q.1, ⟨keyIndex keys labels, 1, (q.2.zip cols).map fun p => ([aggValue p.1], p.2)⟩))
      (byColumn A) blocks := by
    have hall := mapM_eq_ok_iff.1 hblocks
    rw [requestsOf, List.forall₂_map_left_iff] at hall
    refine forall₂_imp_of_mem hall fun q b hq _ hqb => ?_
    obtain ⟨hne', col, hcol⟩ := hreq q hq
    have hpairs : (q.2.any fun _ => false) = false := List.any_eq_false.2 fun _ _ => Bool.false_ne_true
    simp only [hcol, Option.getD_some, List.any_map, Function.comp_def, aggValue, hpairs] at hqb
    split at hqb
    · cases hqb
    rename_i labelled hl
    split at hqb
    · cases hqb
    rename_i grid₁ hgrid₁
    cases hqb
    obtain ⟨cols, hcols, rfl⟩ := summaryBlock hix hne' hl hgrid₁
    exact ⟨col, cols, hcol, by simpa [Grouping.rowCells_ofFrame] using hcols, rfl⟩
  -- the blocks stand side by side under the index, each column named by its column and summary
  have hbs : blocks = (blocks.map fun b => (b.1, b.2.columns)).map
      fun b => (b.1, (⟨keyIndex keys labels, 1, b.2⟩ : Grid)) := by
    clear hblocks hgrid
    generalize byColumn A = Q at hblk
    induction hblk with
    | nil => rfl
    | cons hb _ ih =>
      obtain ⟨col, cols, -, -, rfl⟩ := hb
      simp only [List.map_cons, List.cons.injEq]
      exact ⟨trivial, ih⟩
  rw [hbs, combineColumns_same hix ?_ ?_] at hgrid
  rotate_left
  · -- some column is aggregated
    intro hnil
    rw [List.map_eq_nil_iff] at hnil
    rw [hnil, List.forall₂_nil_right_iff] at hblk
    exact hrs (by simp [requestsOf, hblk])
  · -- and each by some summary
    intro b hb
    obtain ⟨b₀, hb₀, rfl⟩ := List.mem_map.1 hb
    obtain ⟨q, hq, col, cols, -, hcols, rfl⟩ := forall₂_mem_right hblk hb₀
    obtain ⟨a, as, ha⟩ := List.exists_cons_of_ne_nil (hreq q hq).1
    rw [ha] at hcols
    cases hcols
    simp [ha]
  cases hgrid
  obtain ⟨hheight, hcols, hpositions⟩ := Grid.flatten_eq h
  rw [Grid.resetIndex_eq hreset] at hheight hcols
  have hlevels : (keyIndex keys labels).levels.map (·.name) = (keys.map (·.1)).map some := by
    simpa [RowIndex.names, List.map_map, Function.comp_def] using @keyIndex_names keys labels
  have hlv : ∀ cols, levelNames ⟨keyIndex keys labels, 2, cols⟩ = keys.map (·.1) :=
    fun cols => levelNames_of_named (g := ⟨keyIndex keys labels, 2, cols⟩) hlevels
  simp only [hlv, positionsOf_height, keyIndex_height hne,
    List.map_append, List.map_map] at hheight hcols
  refine ⟨groups, labels, (((blocks.map fun b => (b.1, b.2.columns)).flatMap
      fun b => b.2.map fun q => (Value.str b.1 :: q.1, q.2)).map
      fun q => ((joinName q.1).toOption.getD ⟨[]⟩, q.2)), hgrouped,
    hheight.trans hgrouped.length_eq.symm, hcols.trans ?_, ?_, hpositions⟩
  · -- each key column holds its part of the labels, under its name followed by `_`
    congr 1
    refine List.ext_getElem (by simp [keyColumns, keyIndex_levels]) fun j h1 h2 => ?_
    simp [keyColumns, keyIndex_levels, joinName_pair, Text.append_nil, Except.toOption]
  · -- the blocks' columns, in order, are the summaries regrouped by column
    simp only [regrouped, List.flatMap_map, List.map_flatMap, List.map_map, Function.comp_def]
    refine List.rel_flatMap hblk ?_
    intro q b hqb
    obtain ⟨col, cols, hcol, hcols, rfl⟩ := hqb
    simpa [joinName_pair, aggValue, List.map_map, Except.toOption] using
      forall₂_summaryColumn hcol hcols

/-! ## The grouping stage -/

/-- The configuration turns grouping on, by the key columns named `names`, and asks for the
summaries `A` in order, each of a column by name. -/
def GroupsBy (config : Value) (names : List Text) (A : List (Text × Agg)) : Prop :=
  ∃ grouping enabled items, index config "grouping" = .ok grouping ∧ grouping.truthy = true ∧
    index grouping "enabled" = .ok enabled ∧ enabled.truthy = true ∧
    index grouping "columns" = .ok (.arr (names.map .str)) ∧
    index config "aggregations" = .ok (.arr items) ∧ List.Forall₂ AsksFor items A

theorem applyGrouping_eq {config : Value} {names : List Text} {A : List (Text × Agg)}
    (h : GroupsBy config names A) (t : Table) :
    applyGrouping t config = (aggregateFrame t (.arr (names.map .str)) (requestsOf A)).map .frame := by
  obtain ⟨grouping, enabled, items, hg, hgt, he, het, hcols, haggs, hitems⟩ := h
  unfold applyGrouping
  simp only [hg, hgt, he, het, hcols, haggs, readRequests_eq hitems, bind, Except.bind,
    Bool.not_true, Bool.false_eq_true, if_false, pure, Except.pure]
  cases aggregateFrame t (.arr (names.map .str)) (requestsOf A) <;> rfl

def sortStage (config : Value) (f : Frame) : Except Stop Table := do
  let t ← filterStage config f
  let sorting ← lift (index config "sorting")
  if sorting.truthy then lift (applySorting t sorting) else pure t

theorem runQuery_eq_sortStage (config : Value) (f : Frame) :
    runQuery config f = sortStage config f >>= fun t => lift (applyGrouping t config) := by
  rw [runQuery_eq_filterStage]
  simp only [sortStage, bind_assoc]
  congr 1
  funext t
  simp only [finalStages]
  congr 1
  funext sorting
  split <;> rfl

/-- Every property of columns that picking and blanking keep holds of the table that reaches
grouping. -/
theorem sortStage_all {P : Column → Prop} (hP : StageInvariant P) {config : Value} {f : Frame}
    {t : Table} (hf : f.All P) (h : sortStage config f = .ok t) : t.All P := by
  obtain ⟨t₁, h₁, h⟩ := bind_eq_ok.1 h
  have ht₁ := filterStage_all hP hf h₁
  obtain ⟨sorting, -, h⟩ := bind_eq_ok.1 h
  split at h
  · exact applySorting_all hP ht₁ (lift_eq_ok.1 h)
  · cases h
    exact ht₁

end Query

end Tabula
