import Tabula.Proofs.FilterStage
import Tabula.Proofs.JsonReading

/-!
The kinds of a frame's columns by name. The table of kinds is filled over the column names in
order (`Frame.kindTable`); under pairwise distinct names it holds one entry per column, in column
order (`kindTable_of_nodup`), and when two columns share a name no table is built
(`kindTable_eq_ok_iff`). A frame read from CSV bytes has pairwise distinct names
(`Csv.readTable_names_nodup`), so once it is loaded a session lists the kinds one pair per column
(`loaded_frame_kinds_per_column`).
-/

namespace Tabula

open Json

namespace Frame

variable {f : Frame}

theorem mem_columnsNamed {name : Text} {c : Column} :
    c ∈ f.columnsNamed name ↔ (name, c) ∈ f.columns.toList := by
  simp only [columnsNamed, List.mem_filterMap]
  constructor
  · rintro ⟨⟨n, c'⟩, hmem, hc⟩
    by_cases hn : n = name
    · subst hn
      simp only [beq_self_eq_true, if_true, Option.some.injEq] at hc
      exact hc ▸ hmem
    · simp [hn] at hc
  · intro hmem
    exact ⟨(name, c), hmem, by simp⟩

theorem length_columnsNamed (name : Text) : (f.columnsNamed name).length = f.names.count name := by
  simp only [columnsNamed, names]
  induction f.columns.toList with
  | nil => rfl
  | cons p cs ih =>
    rw [List.filterMap_cons, List.map_cons, List.count_cons]
    by_cases hn : p.1 = name <;> simpa [hn] using ih

theorem columnsNamed_of_nodup (hf : f.names.Nodup) {p : Text × Column}
    (hp : p ∈ f.columns.toList) : f.columnsNamed p.1 = [p.2] := by
  have hone : (f.columnsNamed p.1).length = 1 := by
    rw [length_columnsNamed]
    exact List.count_eq_one_of_mem hf (List.mem_map_of_mem hp)
  obtain ⟨c, hc⟩ := List.length_eq_one_iff.1 hone
  have hmem : (p.1, c) ∈ f.columns.toList := mem_columnsNamed.1 (hc ▸ List.mem_singleton_self c)
  -- two columns of one name are the same column when no name repeats
  have hsame : (p.1, c) = p := List.inj_on_of_nodup_map hf hmem hp rfl
  rw [hc, show c = p.2 from congrArg Prod.snd hsame]

theorem kindNamed_of_nodup (hf : f.names.Nodup) {p : Text × Column}
    (hp : p ∈ f.columns.toList) : f.kindNamed p.1 = .ok p.2.kind.name := by
  rw [kindNamed, columnsNamed_of_nodup hf hp]

theorem kindNamed_of_repeated {name : Text} (h : 1 < f.names.count name) :
    f.kindNamed name = .error ⟨"AttributeError", "'DataFrame' object has no attribute 'dtype'"⟩ := by
  have hlen : 1 < (f.columnsNamed name).length := by
    rw [length_columnsNamed]
    exact h
  unfold kindNamed
  cases hc : f.columnsNamed name with
  | nil => simp [hc] at hlen
  | cons c rest =>
    cases rest with
    | nil => simp [hc] at hlen
    | cons d rest => rfl

/-- Over columns whose kinds can be read and whose names are new to the table, filling the table
appends one entry per column. -/
theorem foldlM_enterKind (f : Frame) :
    ∀ (cs : List (Text × Column)) (d : List (Text × Value)),
      (∀ p ∈ cs, f.kindNamed p.1 = .ok p.2.kind.name) → (d.map (·.1) ++ cs.map (·.1)).Nodup →
      (cs.map (·.1)).foldlM f.enterKind d =
        .ok (d ++ cs.map fun p => (p.1, Value.ofString p.2.kind.name)) := by
  intro cs
  induction cs with
  | nil =>
    intro d _ _
    simp only [List.map_nil, List.foldlM_nil, List.append_nil]
    rfl
  | cons p cs ih =>
    intro d hkinds hnodup
    have hfresh : p.1 ∉ d.map (·.1) := fun hmem =>
      (List.nodup_append.1 hnodup).2.2 _ hmem _ (List.mem_cons_self ..) rfl
    have henter : f.enterKind d p.1 = .ok (d ++ [(p.1, Value.ofString p.2.kind.name)]) := by
      rw [enterKind, hkinds p (List.mem_cons_self ..)]
      exact congrArg Except.ok (Json.setField_fresh d p.1 _ hfresh)
    have hrest := ih (d ++ [(p.1, Value.ofString p.2.kind.name)])
      (fun q hq => hkinds q (List.mem_cons_of_mem _ hq)) (by simpa using hnodup)
    rw [List.map_cons, List.foldlM_cons, henter]
    change (cs.map (·.1)).foldlM f.enterKind (d ++ [(p.1, Value.ofString p.2.kind.name)]) = _
    rw [hrest]
    simp

theorem foldlM_enterKind_error {name : Text}
    (hname : ∀ d, ∃ e, f.enterKind d name = .error e) :
    ∀ (ns : List Text) (d : List (Text × Value)), name ∈ ns →
      ∃ e, ns.foldlM f.enterKind d = .error e := by
  intro ns
  induction ns with
  | nil => intro d hmem; cases hmem
  | cons n ns ih =>
    intro d hmem
    cases hd : f.enterKind d n with
    | error e => exact ⟨e, by simp [List.foldlM_cons, hd]; rfl⟩
    | ok d' =>
      have hns : name ∈ ns := by
        rcases List.mem_cons.1 hmem with rfl | hns
        · obtain ⟨e, he⟩ := hname d
          rw [he] at hd
          cases hd
        · exact hns
      obtain ⟨e, he⟩ := ih d' hns
      exact ⟨e, by simp [List.foldlM_cons, hd]; exact he⟩

/-- Under pairwise distinct names the table of kinds holds one entry per column, in column
order. -/
theorem kindTable_of_nodup (hf : f.names.Nodup) :
    f.kindTable = .ok (f.columns.toList.map fun p => (p.1, Value.ofString p.2.kind.name)) := by
  have h := foldlM_enterKind f f.columns.toList [] (fun p hp => kindNamed_of_nodup hf hp)
    (by simpa [names] using hf)
  rw [kindTable, names]
  simpa using h

theorem kindTable_eq_ok_iff : (∃ d, f.kindTable = .ok d) ↔ f.names.Nodup := by
  constructor
  · rintro ⟨d, hd⟩
    by_contra hdup
    obtain ⟨name, hname⟩ : ∃ name, 1 < f.names.count name := by
      simpa [List.nodup_iff_count_le_one] using hdup
    have hfail : ∀ d, ∃ e, f.enterKind d name = .error e := fun d =>
      ⟨_, by rw [enterKind, kindNamed_of_repeated hname]; rfl⟩
    obtain ⟨e, he⟩ := foldlM_enterKind_error hfail f.names [] (List.count_pos_iff.1 (by omega))
    rw [kindTable, he] at hd
    cases hd
  · intro hf
    exact ⟨_, kindTable_of_nodup hf⟩

end Frame

/-- With a frame of pairwise distinct names, a session answers the question for the kinds with one
pair of name and kind per column, in column order. -/
theorem columnKinds_of_nodup {s : Session} {f : Frame} (hs : s.data = some f)
    (hf : f.names.Nodup) :
    s.columnKinds = .ok (record [("dtypes", .arr (f.columns.toList.map fun p =>
      .arr [.str p.1, Value.ofString p.2.kind.name]))]) := by
  simp [Session.columnKinds, hs, Frame.kindTable_of_nodup hf, Except.map, Function.comp_def]

theorem columns_answer {s : Session} {f : Frame} (hs : s.data = some f) :
    (s.step .columns).2 = .ok (record [("columns", .arr (f.names.map .str))]) := by
  simp [Session.step, Session.columnNames, hs]

/-- Once CSV bytes are loaded, the frame's column names are pairwise distinct, and the session
lists the columns and their kinds in the same order, one pair per column, without failing. -/
theorem loaded_frame_kinds_per_column {bytes : List UInt8} {f : Frame}
    (h : Csv.readTable bytes = .ok f) (s : Session) :
    f.names.Nodup ∧
      ((s.step (.loadCsv bytes)).1.step .columns).2 =
        .ok (record [("columns", .arr (f.names.map .str))]) ∧
      ((s.step (.loadCsv bytes)).1.step .dtypes).2 =
        .ok (record [("dtypes", .arr (f.columns.toList.map fun p =>
          .arr [.str p.1, Value.ofString p.2.kind.name]))]) := by
  have hnodup := Csv.readTable_names_nodup h
  have hdata : (s.step (.loadCsv bytes)).1.data = some f := by
    simp [Session.step, Session.loadCsv, h]
  exact ⟨hnodup, columns_answer hdata, columnKinds_of_nodup hdata hnodup⟩

/-- The header `a,a.1,a`: the second `a` finds `a.1` taken and becomes `a.2`. -/
def suffixClashCsv : List UInt8 := "a,a.1,a\n1,2,3\n".toUTF8.toList

def suffixClashFrame : Frame := (Csv.readTable suffixClashCsv).toOption.getD default

theorem suffix_clash_kinds_per_column :
    Csv.readTable suffixClashCsv = .ok suffixClashFrame ∧
      suffixClashFrame.names = ["a", "a.1", "a.2"].map Text.ofString ∧
      suffixClashFrame.names.Nodup ∧
      ((Session.init.step (.loadCsv suffixClashCsv)).1.step .columns).2 =
        .ok (record [("columns", .arr (suffixClashFrame.names.map .str))]) ∧
      ((Session.init.step (.loadCsv suffixClashCsv)).1.step .dtypes).2 =
        .ok (record [("dtypes", .arr (suffixClashFrame.columns.toList.map fun p =>
          .arr [.str p.1, Value.ofString p.2.kind.name]))]) := by
  have h : Csv.readTable suffixClashCsv = .ok suffixClashFrame := Query.eq_ok_getD (by decide +kernel)
  exact ⟨h, by decide +kernel, loaded_frame_kinds_per_column h Session.init⟩

end Tabula
