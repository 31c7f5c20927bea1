import Tabula.Proofs.GroupSummaries
import Tabula.Proofs.RecordsReadBack

/-!
Runs of the query that group a frame read from text by key columns and summarize columns by name:
one row per group of rows with equal present keys, in increasing order of the keys
(`GroupedRun.eq`). A count is the number of rows where the column is present, an extreme a least
or greatest present cell (`grouping_summarizes_each_group`); the columns are named by the keys and
by column and summary joined by `_` without surrounding blanks, distinct unless a name starts
with a blank (`grouped_column_names`); an integer sum wraps around into 64 bits
(`grouped_integer_sums_wrap`).
-/

namespace Tabula.Text

/-! ## Names without surrounding blanks -/

def startsBlank (t : Text) : Bool := t.points.head?.any isBlank

theorem stripPoints_eq_self {xs : List Nat} (hh : ∀ n ∈ xs.head?, isBlank n = false)
    (hl : ∀ n ∈ xs.getLast?, isBlank n = false) : stripPoints xs = xs := by
  rw [stripPoints, Decimal.dropWhile_of_head hh,
    Decimal.dropWhile_of_head (by simpa [List.head?_reverse] using hl),
    List.reverse_reverse]

theorem points_append (t u : Text) : (t ++ u).points = t.points ++ u.points := rfl

theorem startsBlank_eq_false {t : Text} :
    t.startsBlank = false ↔ ∀ n ∈ t.points.head?, isBlank n = false := by
  cases h : t.points <;> simp [startsBlank, h]

theorem startsBlank_append {t u : Text} (ht : t.startsBlank = false) (hu : u.startsBlank = false) :
    (t ++ u).startsBlank = false := by
  show (t.points ++ u.points).head?.any isBlank = false
  cases h : t.points with
  | nil => simpa [startsBlank, h] using hu
  | cons x xs => simpa [startsBlank, h] using ht

/-- A text not starting with a blank, followed by a nonempty text that does not end with one, is its
own stripped form. -/
theorem strip_append {t u : Text} (ht : (t ++ u).startsBlank = false) (hu : u.points ≠ [])
    (hl : ∀ n ∈ u.points.getLast?, isBlank n = false) : (t ++ u).strip = t ++ u := by
  show (⟨stripPoints (t ++ u).points⟩ : Text) = ⟨(t ++ u).points⟩
  rw [stripPoints_eq_self (startsBlank_eq_false.1 ht)
    (by rwa [points_append, List.getLast?_append_of_ne_nil _ hu])]

end Tabula.Text

namespace Tabula.Query

open Json

theorem Agg.name_plain (a : Agg) : (Text.ofString a.name).points ≠ [] ∧
    0x5F ∉ (Text.ofString a.name).points ∧ (Text.ofString a.name).startsBlank = false ∧
    ∃ n, (Text.ofString a.name).points.getLast? = some n ∧ Text.isBlank n = false ∧ n ≠ 0x5F := by
  cases a <;> exact ⟨by decide, by decide, by decide, _, rfl, by decide, by decide⟩

theorem Agg.name_inj {a b : Agg} (h : a.name = b.name) : a = b :=
  Option.some.inj ((Agg.ofName_name a).symm.trans (h ▸ Agg.ofName_name b))

theorem append_cons_inj_of_not_mem {xs ys us vs : List Nat} {s : Nat} (hu : s ∉ us) (hv : s ∉ vs)
    (h : xs ++ s :: us = ys ++ s :: vs) : xs = ys ∧ us = vs := by
  rcases List.append_eq_append_iff.1 h with ⟨a, rfl, ha⟩ | ⟨c, rfl, hc⟩
  · cases a with
    | nil => simp_all
    | cons x a =>
      obtain ⟨rfl, rfl⟩ := List.cons.inj ha
      simp at hu
  · cases c with
    | nil => simp_all
    | cons x c =>
      obtain ⟨rfl, rfl⟩ := List.cons.inj hc
      simp at hv

/-- The name of a key column, `t_` without surrounding blanks. -/
def keyName (t : Text) : Text := (t ++ Text.ofString "_").strip

/-- The name of a summary column, `t_f` without surrounding blanks. -/
def summaryName (q : Text × Agg) : Text := (q.1 ++ Text.ofString "_" ++ Text.ofString q.2.name).strip

theorem keyName_eq {t : Text} (ht : t.startsBlank = false) : keyName t = t ++ Text.ofString "_" :=
  Text.strip_append (Text.startsBlank_append ht rfl) (by decide) (by decide)

theorem summaryName_eq {q : Text × Agg} (ht : q.1.startsBlank = false) :
    summaryName q = q.1 ++ Text.ofString "_" ++ Text.ofString q.2.name := by
  obtain ⟨hne, -, hs, n, hn, hb, -⟩ := Agg.name_plain q.2
  refine Text.strip_append (Text.startsBlank_append (Text.startsBlank_append ht rfl) hs) hne ?_
  rw [hn]
  simpa using hb

theorem keyName_inj {t t' : Text} (ht : t.startsBlank = false) (ht' : t'.startsBlank = false)
    (h : keyName t = keyName t') : t = t' := by
  rw [keyName_eq ht, keyName_eq ht'] at h
  exact Text.eq_iff_points.2 (List.append_cancel_right (congrArg Text.points h))

theorem summaryName_inj {q q' : Text × Agg} (ht : q.1.startsBlank = false)
    (ht' : q'.1.startsBlank = false) (h : summaryName q = summaryName q') : q = q' := by
  rw [summaryName_eq ht, summaryName_eq ht'] at h
  have hp := congrArg Text.points h
  simp only [Text.points_append, ofString_underscore, List.append_assoc, List.singleton_append] at hp
  obtain ⟨h1, h2⟩ :=
    append_cons_inj_of_not_mem (Agg.name_plain q.2).2.1 (Agg.name_plain q'.2).2.1 hp
  exact Prod.ext (Text.eq_iff_points.2 h1)
    (Agg.name_inj (Csv.ofString_injective (Text.eq_iff_points.2 h2)))

theorem keyName_ne_summaryName {t : Text} {q : Text × Agg} (ht : t.startsBlank = false)
    (hq : q.1.startsBlank = false) : keyName t ≠ summaryName q := by
  rw [keyName_eq ht, summaryName_eq hq]
  obtain ⟨hnil, -, -, n, hn, -, hne⟩ := Agg.name_plain q.2
  intro h
  -- a key name ends with `_`, a summary name with the summary's last letter
  have hl := congrArg (fun u : Text => u.points.getLast?) h
  simp only [Text.points_append, ofString_underscore] at hl
  rw [List.getLast?_append_of_ne_nil _ (by simp), List.getLast?_append_of_ne_nil _ hnil, hn] at hl
  exact hne (Option.some.inj hl).symm

/-! ## The order of the summaries -/

theorem nodup_eraseDups {α : Type} [BEq α] [LawfulBEq α] (l : List α) : l.eraseDups.Nodup := by
  -- each step keeps the head and erases its copies from a shorter rest
  induction h : l.length using Nat.strong_induction_on generalizing l with
  | _ n ih =>
    cases l with
    | nil => simp
    | cons a as =>
      rw [List.eraseDups_cons]
      refine List.nodup_cons.2 ⟨fun ha => ?_, ih _ ?_ _ rfl⟩
      · simp at ha
      · have := List.length_filter_le (fun b => !b == a) as
        simp at h
        omega

theorem regrouped_eq (A : List (Text × Agg)) :
    regrouped A = (A.map (·.1)).eraseDups.flatMap fun c => A.filter fun q => q.1 == c := by
  simp only [regrouped, byColumn, List.flatMap_map, List.map_map]
  refine List.flatMap_congr fun c _ => ?_
  conv_rhs => rw [← List.map_id (A.filter _)]
  refine List.map_congr_left fun q hq => ?_
  have hc : q.1 = c := by simpa using (List.mem_filter.1 hq).2
  rw [← hc]
  rfl

theorem mem_regrouped {A : List (Text × Agg)} {q : Text × Agg} (h : q ∈ regrouped A) : q ∈ A := by
  rw [regrouped_eq] at h
  obtain ⟨c, -, hq⟩ := List.mem_flatMap.1 h
  exact (List.mem_filter.1 hq).1

theorem regrouped_nodup {A : List (Text × Agg)} (h : A.Nodup) : (regrouped A).Nodup := by
  rw [regrouped_eq, List.nodup_flatMap]
  refine ⟨fun c _ => h.filter _, (nodup_eraseDups _).imp fun hcc' q hq hq' => hcc' ?_⟩
  simp only [List.mem_filter, beq_iff_eq] at hq hq'
  exact hq.2.symm.trans hq'.2

/-! ## Runs that group -/

theorem mem_of_aggregatedColumn {f : Frame} {key : Value} {p : Text × Column}
    (h : aggregatedColumn f key = some p) : p ∈ f.columns.toList := by
  unfold aggregatedColumn at h
  split at h
  · exact Array.mem_toList_iff.2 (Array.mem_of_getElem? h)
  · cases h

theorem keyColumns_names (keys : List (Text × Column)) (labels : List (List Cell)) :
    (keyColumns keys labels).map (·.1) = keys.map fun p => keyName p.1 := by
  refine List.ext_getElem (by simp [keyColumns]) fun j _ _ => ?_
  simp [keyColumns, keyName]

theorem names_of_forall₂ {A : List (Text × Agg)} {cols : List (Text × Column)}
    {R : Text × Agg → Text × Column → Prop} (h : List.Forall₂ R A cols)
    (hR : ∀ q p, R q p → p.1 = summaryName q) : cols.map (·.1) = A.map summaryName := by
  induction h with
  | nil => rfl
  | cons hqp _ ih => rw [List.map_cons, List.map_cons, ih, hR _ _ hqp]

/-- The frame reaching grouping from a frame read from text has columns of one class each, whose
cells fit their kinds. -/
theorem sortStage_loaded {bytes : List UInt8} {f g : Frame} {config : Value}
    (hload : Csv.readTable bytes = .ok f) (hstage : sortStage config f = .ok (.frame g)) :
    g.All Column.OneClass ∧ g.All Column.Typed :=
  ⟨sortStage_all oneClass_stageInvariant (fun p hp => (Csv.readTable_shaped hload p hp).oneClass)
      hstage,
    sortStage_all typed_stageInvariant (fun p hp => (Csv.readTable_shaped hload p hp).typed) hstage⟩

theorem runQuery_grouped {config : Value} {f g : Frame} {keys : List (Text × Column)}
    {A : List (Text × Agg)} (hgroup : GroupsBy config (keys.map (·.1)) A)
    (hstage : sortStage config f = .ok (.frame g)) :
    runQuery config f =
      lift ((aggregateFrame (.frame g) (.arr (keys.map fun p => .str p.1)) (requestsOf A)).map
        .frame) := by
  rw [runQuery_eq_sortStage, hstage]
  simp only [bind, Except.bind]
  rw [applyGrouping_eq hgroup, List.map_map, Function.comp_def]

/-- A run of the query on the frame `f` read from `bytes` that groups the table reaching grouping,
the frame `g`, by the key columns `keys` of it, each picked by its name, asks for the summaries `A`
and completes with the table `t`. -/
structure GroupedRun (bytes : List UInt8) (config : Value) (keys : List (Text × Column))
    (A : List (Text × Agg)) (f g : Frame) (t : Table) : Prop where
  load : Csv.readTable bytes = .ok f
  groupsBy : GroupsBy config (keys.map (·.1)) A
  stage : sortStage config f = .ok (.frame g)
  keys_ne : keys ≠ []
  picks : ∀ p ∈ keys, g.pickBy (.str p.1) = .ok (.column p.1 p.2)
  run : runQuery config f = .ok t

section GroupedRun

variable {bytes : List UInt8} {config : Value} {keys : List (Text × Column)}
  {A : List (Text × Agg)} {f g : Frame} {t : Table}

/-- A grouping run has one row per group, the key columns and then one summary column per
aggregation, regrouped by column. -/
theorem GroupedRun.eq (h : GroupedRun bytes config keys A f g t) :
    ∃ out groups labels aggCols, t = .frame out ∧
      GroupedBy (keys.map (·.2)) g.height groups labels ∧ out.height = groups.length ∧
      out.columns.toList = keyColumns keys labels ++ aggCols ∧
      List.Forall₂ (SummaryColumn g groups) (regrouped A) aggCols := by
  obtain ⟨hone, htyped⟩ := sortStage_loaded h.load h.stage
  obtain ⟨out, hout, rfl⟩ :=
    map_eq_ok.1 (lift_eq_ok.1 ((runQuery_grouped h.groupsBy h.stage).symm.trans h.run))
  obtain ⟨groups, labels, aggCols, hgrouped, hheight, hcols, hsum, -⟩ :=
    aggregateFrame_eq hone htyped h.keys_ne h.picks hout
  exact ⟨out, groups, labels, aggCols, rfl, hgrouped, hheight, hcols, hsum⟩

theorem grouping_summarizes_each_group (h : GroupedRun bytes config keys A f g t) :
    ∃ out groups labels aggCols, t = .frame out ∧
      GroupedBy (keys.map (·.2)) g.height groups labels ∧ out.height = groups.length ∧
      out.columns.toList = keyColumns keys labels ++ aggCols ∧
      List.Forall₂ (fun q p => p.1 = summaryName q ∧
        ∃ c, aggregatedColumn g (.str q.1) = some (q.1, c) ∧
          (q.2 = .count →
            p.2.cells.toList = groups.map (fun rows => .int (presentRows c rows).length) ∧
            (groups.map fun rows => (presentRows c rows).length).sum =
              ((List.range g.height).filter fun i =>
                keysPresent (keys.map (·.2)) i && !(cellAt c i).isMissing).length) ∧
          (q.2 = .min → List.Forall₂ (fun rows x => LeastPresent classOrder (rows.map (cellAt c)) x)
            groups p.2.cells.toList) ∧
          (q.2 = .max → List.Forall₂
            (fun rows x => LeastPresent (fun a b => classOrder b a) (rows.map (cellAt c)) x)
            groups p.2.cells.toList))
        (regrouped A) aggCols := by
  obtain ⟨hone, -⟩ := sortStage_loaded h.load h.stage
  obtain ⟨out, groups, labels, aggCols, rfl, hgrouped, hheight, hcols, hsum⟩ := h.eq
  refine ⟨out, groups, labels, aggCols, rfl, hgrouped, hheight, hcols, hsum.imp fun q p hqp => ?_⟩
  obtain ⟨hname, c, hc, hs⟩ := hqp
  have hcone : c.OneClass := hone _ (mem_of_aggregatedColumn hc)
  refine ⟨hname, c, hc, fun hq => ?_, fun hq => ?_, fun hq => ?_⟩
  · rw [hq, summarizeColumn_count] at hs
    rw [← Except.ok.inj hs]
    exact ⟨by simp, hgrouped.sum_presentRows_length c⟩
  · rw [hq] at hs
    exact summarizeColumn_min hcone hs
  · rw [hq] at hs
    exact summarizeColumn_max hcone hs

/-- The columns of a grouping are named, in order, by each key followed by `_` and by each column
and summary joined by `_`, the columns in order of first appearance, each without surrounding
blanks. When neither the keys nor the aggregations repeat and no key or aggregated column's name
starts with a blank, the names are distinct. -/
theorem grouped_column_names (h : GroupedRun bytes config keys A f g t) :
    ∃ out, t = .frame out ∧
      out.names = keys.map (fun p => keyName p.1) ++ (regrouped A).map summaryName ∧
      ((keys.map (·.1)).Nodup → A.Nodup → (∀ p ∈ keys, p.1.startsBlank = false) →
        (∀ q ∈ A, q.1.startsBlank = false) → (Table.frame out).NamesDistinct) := by
  obtain ⟨out, groups, labels, aggCols, rfl, -, -, hcols, hsum⟩ := h.eq
  have hnames : out.names = keys.map (fun p => keyName p.1) ++ (regrouped A).map summaryName := by
    rw [Frame.names, hcols, List.map_append, keyColumns_names,
      names_of_forall₂ hsum fun _ _ hqp => hqp.1]
  refine ⟨out, rfl, hnames, fun hk hA hkb hAb => ?_⟩
  show out.names.Nodup
  rw [hnames, List.nodup_append]
  refine ⟨?_, (regrouped_nodup hA).map_on fun q hq q' hq' hqq' =>
    summaryName_inj (hAb q (mem_regrouped hq)) (hAb q' (mem_regrouped hq')) hqq', ?_⟩
  · -- keys that do not repeat give key names that do not
    have hmap : keys.map (fun p => keyName p.1) = (keys.map (·.1)).map keyName := by
      rw [List.map_map]
      rfl
    rw [hmap]
    refine hk.map_on fun x hx y hy hxy => keyName_inj ?_ ?_ hxy
    · obtain ⟨p, hp, rfl⟩ := List.mem_map.1 hx
      exact hkb p hp
    · obtain ⟨p, hp, rfl⟩ := List.mem_map.1 hy
      exact hkb p hp
  · -- a key name ends with `_`, a summary name with a letter
    intro a ha b hb hab
    obtain ⟨p, hp, rfl⟩ := List.mem_map.1 ha
    obtain ⟨q, hq, rfl⟩ := List.mem_map.1 hb
    exact keyName_ne_summaryName (hkb p hp) (hAb q (mem_regrouped hq)) hab

/-- Each group's sum of a signed or unsigned integer column is the exact sum of its cells wrapped
around into 64 bits. -/
theorem grouped_integer_sums_wrap (h : GroupedRun bytes config keys A f g t) :
    ∃ out groups labels aggCols, t = .frame out ∧
      GroupedBy (keys.map (·.2)) g.height groups labels ∧
      out.columns.toList = keyColumns keys labels ++ aggCols ∧
      List.Forall₂ (fun q p => p.1 = summaryName q ∧
        ∃ c, aggregatedColumn g (.str q.1) = some (q.1, c) ∧
          (q.2 = .sum → c.kind = .int64 →
            p.2 = ⟨.int64, (groups.map fun rows => .int (wrapSigned (groupSum c rows))).toArray⟩) ∧
          (q.2 = .sum → c.kind = .uint64 →
            p.2 = ⟨.uint64, (groups.map fun rows => .int (wrapUnsigned (groupSum c rows))).toArray⟩))
        (regrouped A) aggCols := by
  obtain ⟨-, htyped⟩ := sortStage_loaded h.load h.stage
  obtain ⟨out, groups, labels, aggCols, rfl, hgrouped, -, hcols, hsum⟩ := h.eq
  refine ⟨out, groups, labels, aggCols, rfl, hgrouped, hcols, hsum.imp fun q p hqp => ?_⟩
  obtain ⟨hname, c, hc, hs⟩ := hqp
  refine ⟨hname, c, hc, fun hq hk => ?_, fun hq hk => ?_⟩
  · rw [hq, summarizeColumn_sum_int64 hk] at hs
    exact (Except.ok.inj hs).symm
  · rw [hq, summarizeColumn_sum_uint64 hk (htyped _ (mem_of_aggregatedColumn hc))] at hs
    exact (Except.ok.inj hs).symm

end GroupedRun

/-! ## Samples -/

/-- Group by the columns named `keys` and ask for the summaries `pairs`, each a column's name and a
summary's, with no selection, filter or sorting. -/
def groupConfig (keys : List String) (pairs : List (String × String)) : Value :=
  plainConfig (.arr [])
    (.obj [(Text.ofString "enabled", .bool true),
      (Text.ofString "columns", .arr (keys.map Value.ofString))])
    (.arr (pairs.map fun p => .obj [(Text.ofString "column", Value.ofString p.1),
      (Text.ofString "function", Value.ofString p.2)]))

theorem groupConfig_groupsBy (keys : List String) (pairs : List (String × Agg)) :
    GroupsBy (groupConfig keys (pairs.map fun p => (p.1, p.2.name))) (keys.map Text.ofString)
      (pairs.map fun p => (Text.ofString p.1, p.2)) := by
  refine ⟨_, _, _, rfl, rfl, rfl, rfl, ?_, rfl, ?_⟩
  · show Except.ok (Value.arr (keys.map Value.ofString)) = _
    rw [List.map_map]
    rfl
  · rw [List.map_map, List.forall₂_map_left_iff, List.forall₂_map_right_iff]
    exact List.forall₂_same.2 fun p _ => ⟨rfl, rfl⟩

theorem picks_first {f : Frame} {name : Text} {c : Column} (hcol : f.columns[0]? = some (name, c))
    (hpos : f.positionsNamed (.str name) = [0]) :
    ∀ p ∈ [(name, c)], f.pickBy (.str p.1) = .ok (.column p.1 p.2) := by
  intro p hp
  rw [List.mem_singleton] at hp
  subst hp
  exact (Frame.pickBy_eq_column rfl).2 ⟨0, hpos, hcol⟩

def groupSampleCsv : List UInt8 := "k,v\n2,4\n1,7\n2,1\n".toUTF8.toList

def groupSampleKey : Column := ⟨.int64, #[.int 2, .int 1, .int 2]⟩

def groupSampleFrame : Frame :=
  ⟨3, #[(Text.ofString "k", groupSampleKey), (Text.ofString "v", ⟨.int64, #[.int 4, .int 7, .int 1]⟩)],
    .positions⟩

def groupSampleKeys : List (Text × Column) := [(Text.ofString "k", groupSampleKey)]

def groupSampleAggs : List (Text × Agg) :=
  [(Text.ofString "v", .count), (Text.ofString "v", .min), (Text.ofString "v", .max),
    (Text.ofString "v", .sum)]

def groupSampleConfig : Value :=
  groupConfig ["k"] [("v", "count"), ("v", "min"), ("v", "max"), ("v", "sum")]

def groupSampleResult : Table := (runQuery groupSampleConfig groupSampleFrame).toOption.getD default

set_option maxRecDepth 100000 in
theorem groupSample_read : Csv.readTable groupSampleCsv = .ok groupSampleFrame := by
  cbv

set_option maxRecDepth 100000 in
theorem groupSample_stage :
    sortStage groupSampleConfig groupSampleFrame = .ok (.frame groupSampleFrame) := by
  cbv

set_option maxRecDepth 100000 in
theorem groupSample_build :
    Grouping.build [.column (Text.ofString "k") groupSampleKey] (RowIndex.ofFrame groupSampleFrame)
        groupSampleFrame.height =
      .ok ⟨keyIndex groupSampleKeys [[.int 1], [.int 2]], [[1], [0, 2]],
        RowIndex.ofFrame groupSampleFrame, 3, [Text.ofString "k"]⟩ := by
  cbv

theorem groupSample_groupedRun :
    GroupedRun groupSampleCsv groupSampleConfig groupSampleKeys groupSampleAggs groupSampleFrame
      groupSampleFrame groupSampleResult := by
  have hgroup : GroupsBy groupSampleConfig (groupSampleKeys.map (·.1)) groupSampleAggs :=
    groupConfig_groupsBy ["k"] [("v", .count), ("v", .min), ("v", .max), ("v", .sum)]
  have hpicks : ∀ p ∈ groupSampleKeys,
      groupSampleFrame.pickBy (.str p.1) = .ok (.column p.1 p.2) :=
    picks_first rfl (by decide)
  refine ⟨groupSample_read, hgroup, groupSample_stage, List.cons_ne_nil _ _, hpicks,
    eq_ok_getD ?_⟩
  -- evaluate the run with the groups given
  rw [runQuery_grouped hgroup groupSample_stage, aggregateFrame, groupSampleKeys,
    readGroupers_columns (List.cons_ne_nil _ _) hpicks]
  simp only [bind, Except.bind, pure, Except.pure, List.map_cons, List.map_nil, groupSample_build]
  decide +kernel

theorem grouping_summarizes_each_group_sample :
    GroupedRun groupSampleCsv groupSampleConfig groupSampleKeys groupSampleAggs groupSampleFrame
        groupSampleFrame groupSampleResult ∧
      ∃ out groups labels aggCols, groupSampleResult = .frame out ∧
        GroupedBy (groupSampleKeys.map (·.2)) groupSampleFrame.height groups labels ∧
        out.height = groups.length ∧
        out.columns.toList = keyColumns groupSampleKeys labels ++ aggCols ∧
        List.Forall₂ (fun q p => p.1 = summaryName q ∧
          ∃ c, aggregatedColumn groupSampleFrame (.str q.1) = some (q.1, c) ∧
            (q.2 = .count →
              p.2.cells.toList = groups.map (fun rows => .int (presentRows c rows).length) ∧
              (groups.map fun rows => (presentRows c rows).length).sum =
                ((List.range groupSampleFrame.height).filter fun i =>
                  keysPresent (groupSampleKeys.map (·.2)) i && !(cellAt c i).isMissing).length) ∧
            (q.2 = .min →
              List.Forall₂ (fun rows x => LeastPresent classOrder (rows.map (cellAt c)) x)
                groups p.2.cells.toList) ∧
            (q.2 = .max → List.Forall₂
              (fun rows x => LeastPresent (fun a b => classOrder b a) (rows.map (cellAt c)) x)
              groups p.2.cells.toList))
          (regrouped groupSampleAggs) aggCols :=
  ⟨groupSample_groupedRun, grouping_summarizes_each_group groupSample_groupedRun⟩

theorem grouped_column_names_sample :
    GroupedRun groupSampleCsv groupSampleConfig groupSampleKeys groupSampleAggs groupSampleFrame
        groupSampleFrame groupSampleResult ∧
      ∃ out, groupSampleResult = .frame out ∧
        out.names = groupSampleKeys.map (fun p => keyName p.1) ++
          (regrouped groupSampleAggs).map summaryName ∧
        ((groupSampleKeys.map (·.1)).Nodup → groupSampleAggs.Nodup →
          (∀ p ∈ groupSampleKeys, p.1.startsBlank = false) →
          (∀ q ∈ groupSampleAggs, q.1.startsBlank = false) → (Table.frame out).NamesDistinct) :=
  ⟨groupSample_groupedRun, grouped_column_names groupSample_groupedRun⟩

theorem grouped_integer_sums_wrap_sample :
    GroupedRun groupSampleCsv groupSampleConfig groupSampleKeys groupSampleAggs groupSampleFrame
        groupSampleFrame groupSampleResult ∧
      ∃ out groups labels aggCols, groupSampleResult = .frame out ∧
        GroupedBy (groupSampleKeys.map (·.2)) groupSampleFrame.height groups labels ∧
        out.columns.toList = keyColumns groupSampleKeys labels ++ aggCols ∧
        List.Forall₂ (fun q p => p.1 = summaryName q ∧
          ∃ c, aggregatedColumn groupSampleFrame (.str q.1) = some (q.1, c) ∧
            (q.2 = .sum → c.kind = .int64 →
              p.2 = ⟨.int64, (groups.map fun rows => .int (wrapSigned (groupSum c rows))).toArray⟩) ∧
            (q.2 = .sum → c.kind = .uint64 →
              p.2 = ⟨.uint64,
                (groups.map fun rows => .int (wrapUnsigned (groupSum c rows))).toArray⟩))
          (regrouped groupSampleAggs) aggCols :=
  ⟨groupSample_groupedRun, grouped_integer_sums_wrap groupSample_groupedRun⟩

def groupedSession (csv : String) (keys : List String) (pairs : List (String × String)) : Session :=
  Session.init.run [.loadCsv csv.toUTF8.toList, .updateConfig (groupConfig keys pairs), .process]

/-- Summing a column `a` and a column ` a` names both results `a_sum`, since the leading blank is
stripped: the result's names repeat, and it cannot be exported as records. -/
theorem leading_blank_repeats_summary_name :
    csvTextOf ((groupedSession "k,a, a\n1,2,3\n" ["k"] [("a", "sum"), (" a", "sum")]).step
        .exportCsv).2 = some (Text.ofString "k_,a_sum,a_sum\n1,2,3\n") ∧
      failureKindOf ((groupedSession "k,a, a\n1,2,3\n" ["k"] [("a", "sum"), (" a", "sum")]).step
        .exportJson).2 = some "ValueError" := by
  decide +kernel

/-- The table `k,v / 1,9223372036854775807 / 1,1`: one group, whose sum is `2 ^ 63`. -/
def overflowCsv : List UInt8 := "k,v\n1,9223372036854775807\n1,1\n".toUTF8.toList

def overflowKey : Column := ⟨.int64, #[.int 1, .int 1]⟩

def overflowFrame : Frame :=
  ⟨2, #[(Text.ofString "k", overflowKey),
    (Text.ofString "v", ⟨.int64, #[.int 9223372036854775807, .int 1]⟩)], .positions⟩

set_option maxRecDepth 100000 in
theorem overflow_read : Csv.readTable overflowCsv = .ok overflowFrame := by
  cbv

set_option maxRecDepth 100000 in
theorem overflow_stage :
    sortStage (groupConfig ["k"] [("v", "sum")]) overflowFrame = .ok (.frame overflowFrame) := by
  cbv

set_option maxRecDepth 100000 in
theorem overflow_build :
    Grouping.build [.column (Text.ofString "k") overflowKey] (RowIndex.ofFrame overflowFrame)
        overflowFrame.height =
      .ok ⟨keyIndex [(Text.ofString "k", overflowKey)] [[.int 1]], [[0, 1]],
        RowIndex.ofFrame overflowFrame, 2, [Text.ofString "k"]⟩ := by
  cbv

/-- A group whose exact sum `9223372036854775807 + 1` leaves the signed range gets the sum
`-9223372036854775808`. -/
theorem int64_group_sum_wraps_around :
    Csv.readTable overflowCsv = .ok overflowFrame ∧
      (runQuery (groupConfig ["k"] [("v", "sum")]) overflowFrame).toOption.map Csv.writeTable =
        some (Text.ofString "k_,v_sum\n1,-9223372036854775808\n") := by
  have hgroup : GroupsBy (groupConfig ["k"] [("v", "sum")])
      ([(Text.ofString "k", overflowKey)].map (·.1)) [(Text.ofString "v", .sum)] :=
    groupConfig_groupsBy ["k"] [("v", .sum)]
  have hpicks : ∀ p ∈ [(Text.ofString "k", overflowKey)],
      overflowFrame.pickBy (.str p.1) = .ok (.column p.1 p.2) :=
    picks_first rfl (by decide)
  refine ⟨overflow_read, ?_⟩
  rw [runQuery_grouped hgroup overflow_stage, aggregateFrame,
    readGroupers_columns (List.cons_ne_nil _ _) hpicks]
  simp only [bind, Except.bind, pure, Except.pure, List.map_cons, List.map_nil, overflow_build]
  decide +kernel

end Tabula.Query
