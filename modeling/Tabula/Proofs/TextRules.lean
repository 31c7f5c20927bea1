import Tabula.Proofs.FilterStage

/-!
Rules that read cells as text. `contains` and `regex` look for the value's text, as a pattern, in
each cell's text, anywhere or at the start; `in` looks each text cell up among the parts of the
value split at commas. On a column of 64-bit integers or doubles a value that reads as a number is
a double first: the pattern of `1` is `1.0` there, and `in` stops at a number, which has no parts.
A missing cell's text is `nan`, which a pattern may match, and the matcher gives up on some
possessive repeats of capturing groups, which stops the run. Away from those numeric columns `in`
keeps the rows that some `eq` rule with one of its parts keeps.
-/

namespace Tabula.Query

open Json

/-! ## Traversals that complete -/

theorem mapError_eq_ok_iff {ε ε' α : Type} {r : Except ε α} {e : ε → ε'} {a : α} :
    r.mapError e = .ok a ↔ r = .ok a := by
  cases r <;> simp [Except.mapError]

/-- Tests whose failures are renamed complete with the answers `ys` exactly when each test
completes with its answer. -/
theorem mapM_mapError_eq_ok_iff {ε ε' α β : Type} {g : α → Except ε β} {e : ε → ε'}
    {xs : List α} {ys : List β} :
    xs.mapM (fun x => (g x).mapError e) = .ok ys ↔ List.Forall₂ (fun x y => g x = .ok y) xs ys := by
  rw [mapM_eq_ok_iff]
  exact ⟨fun h => h.imp fun _ _ => mapError_eq_ok_iff.1, fun h => h.imp fun _ _ => mapError_eq_ok_iff.2⟩

/-! ## Patterns -/

theorem patternSource_eq_display (v : Value) : patternSource v = v.display.points := by
  cases v <;> rfl

theorem compilePattern_eq_ok {v : Value} {p : Regex.Pattern}
    (hp : Regex.compile (patternSource v) = .ok p) (anchored : Bool) :
    compilePattern anchored v = pure p := by
  simp only [compilePattern, hp]
  rfl

/-- Rows kept by the answers of tests that may fail: this completes exactly when every test does,
and keeps the rows whose test answered `true`. -/
theorem keepRows_mapM_eq_ok_iff {f : Frame} {cells : List Cell} {g : Cell → Except String Bool}
    {e : String → Stop} {t : Table} :
    ((cells.mapM fun x => (g x).mapError e) >>= fun mask =>
        pure (Table.frame (f.keepRows mask))) = .ok t ↔
      ∃ mask, List.Forall₂ (fun x b => g x = .ok b) cells mask ∧ t = .frame (f.keepRows mask) := by
  constructor
  · intro h
    obtain ⟨mask, hmask, ht⟩ := bind_eq_ok.1 h
    exact ⟨mask, mapM_mapError_eq_ok_iff.1 hmask, (Except.ok.inj ht).symm⟩
  · rintro ⟨mask, hmask, rfl⟩
    rw [mapM_mapError_eq_ok_iff.2 hmask]
    rfl

/-- `contains` and `regex` on a frame whose key picks one column. The pattern is the text of the
value as the column's kind reads it (`Kind.ruleValue`): on 64-bit integers and doubles a value
that reads as a number becomes a double, and `1` is the pattern `1.0`. Each rule completes exactly
when the matcher answers on the text of every cell, `nan` for a missing one, and then keeps the
rows where it found a match: anywhere for `contains`, at the start for `regex`. -/
theorem pattern_rules_keep_rows_whose_text_matches {f : Frame} {key : Value} {name : Text}
    {c : Column} (hpick : f.pickBy key = .ok (.column name c)) {v : Value} {p : Regex.Pattern}
    (hp : Regex.compile (c.kind.ruleValue v).display.points = .ok p) (t : Table) :
    (Rule.apply (.frame f) ⟨key, .contains, v⟩ = .ok t ↔
      ∃ mask, List.Forall₂ (fun x b => p.search x.asText.points = .ok b) c.cells.toList mask ∧
        t = .frame (f.keepRows mask)) ∧
    (Rule.apply (.frame f) ⟨key, .regex, v⟩ = .ok t ↔
      ∃ mask, List.Forall₂ (fun x b => p.matchStart x.asText.points = .ok b) c.cells.toList mask ∧
        t = .frame (f.keepRows mask)) := by
  rw [← patternSource_eq_display] at hp
  constructor
  · rw [@Rule.apply_column_eq f ⟨key, .contains, v⟩ name c hpick (by intro h; cases h)]
    simp only [Rule.parts, pure_bind, passes, compilePattern_eq_ok hp]
    exact keepRows_mapM_eq_ok_iff
  · rw [@Rule.apply_column_eq f ⟨key, .regex, v⟩ name c hpick (by intro h; cases h)]
    simp only [Rule.parts, pure_bind, passes, compilePattern_eq_ok hp]
    exact keepRows_mapM_eq_ok_iff

/-- One mixed column: the text `x`, then a missing cell. -/
def textSampleColumn : Column := ⟨.object, #[.text (Text.ofString "x"), .missing]⟩

def textSampleFrame : Frame := ⟨2, #[(Text.ofString "a", textSampleColumn)], .positions⟩

theorem textSampleFrame_pickBy :
    textSampleFrame.pickBy (.str (Text.ofString "a")) =
      .ok (.column (Text.ofString "a") textSampleColumn) := rfl

def letterPattern : Regex.Pattern := (Regex.compile (Text.ofString "n").points).toOption.getD default

theorem pattern_rules_keep_rows_whose_text_matches_sample :
    textSampleFrame.pickBy (.str (Text.ofString "a")) =
        .ok (.column (Text.ofString "a") textSampleColumn) ∧
      Regex.compile (textSampleColumn.kind.ruleValue (.str (Text.ofString "n"))).display.points =
        .ok letterPattern ∧
      (Rule.apply (.frame textSampleFrame) ⟨.str (Text.ofString "a"), .contains,
          .str (Text.ofString "n")⟩ = .ok (.frame (textSampleFrame.keepRows [false, true])) ↔
        ∃ mask, List.Forall₂ (fun x b => letterPattern.search x.asText.points = .ok b)
          textSampleColumn.cells.toList mask ∧
          Table.frame (textSampleFrame.keepRows [false, true]) = .frame (textSampleFrame.keepRows mask)) ∧
      (Rule.apply (.frame textSampleFrame) ⟨.str (Text.ofString "a"), .regex,
          .str (Text.ofString "n")⟩ = .ok (.frame (textSampleFrame.keepRows [false, true])) ↔
        ∃ mask, List.Forall₂ (fun x b => letterPattern.matchStart x.asText.points = .ok b)
          textSampleColumn.cells.toList mask ∧
          Table.frame (textSampleFrame.keepRows [false, true]) = .frame (textSampleFrame.keepRows mask)) := by
  have hp : Regex.compile (textSampleColumn.kind.ruleValue
      (.str (Text.ofString "n"))).display.points = .ok letterPattern := eq_ok_getD (by decide +kernel)
  exact ⟨textSampleFrame_pickBy, hp,
    pattern_rules_keep_rows_whose_text_matches textSampleFrame_pickBy hp _⟩

def ruleConfig (column op value : String) : Value :=
  .obj [(Text.ofString "selected_columns", .arr []),
    (Text.ofString "filters", .arr [.obj [(Text.ofString "column", Value.ofString column),
      (Text.ofString "operator", Value.ofString op), (Text.ofString "value", Value.ofString value)]]),
    (Text.ofString "sorting", .arr []), (Text.ofString "grouping", .null),
    (Text.ofString "aggregations", .arr [])]

def configuredSession (csv column op value : String) : Session :=
  Session.init.run [.loadCsv csv.toUTF8.toList, .updateConfig (ruleConfig column op value)]

/-- A pattern rule keeps a row whose cell is missing when `nan` has a match, and a pattern that
compiles can stop the run when the matcher gives up on a cell. -/
theorem pattern_rule_keeps_missing_cells_and_can_stop :
    csvTextOf ((configuredSession "a,b\nx,1\nNA,2\n" "a" "contains" "n").process.1.step
        .exportCsv).2 = some (Text.ofString "a,b\n,2\n") ∧
      csvTextOf ((configuredSession "a,b\nx,1\nNA,2\n" "a" "regex" "n").process.1.step
        .exportCsv).2 = some (Text.ofString "a,b\n,2\n") ∧
      (Regex.compile (Text.ofString "(?:(b)|a)*+$").points).isOk = true ∧
      messageOf (configuredSession "t,id\n\"baa\",0\n" "t" "contains" "(?:(b)|a)*+$").process.2 =
        some (Text.ofString ("Error occurred during data processing: The span of capturing " ++
          "group is wrong, please report a bug for the re module.")) := by
  decide +kernel

/-! ## Membership -/

theorem compareLex_eq_iff {xs ys : List Nat} : Text.compareLex xs ys = .eq ↔ xs = ys := by
  induction xs generalizing ys with
  | nil => cases ys <;> simp [Text.compareLex]
  | cons a as ih =>
    cases ys with
    | nil => simp [Text.compareLex]
    | cons b bs =>
      simp only [Text.compareLex, List.cons.injEq]
      split
      · simp only [reduceCtorEq, false_iff]
        omega
      · split
        · simp only [reduceCtorEq, false_iff]
          omega
        · have hab : a = b := by omega
          rw [ih, hab]
          simp

theorem Kind.ruleValue_of_ne {kind : Kind} (h₁ : kind ≠ .int64) (h₂ : kind ≠ .float64)
    (v : Value) : kind.ruleValue v = v := by
  simp [Kind.ruleValue, h₁, h₂]

theorem Kind.ruleValue_of_number {kind : Kind} (hk : kind = .int64 ∨ kind = .float64)
    {v : Value} {x : Float} (hx : numberOf? v = some x) : kind.ruleValue v = .float x := by
  have hnum : (kind == Kind.float64 || kind == Kind.int64) = true := by
    rcases hk with rfl | rfl <;> rfl
  simp only [Kind.ruleValue, hnum, if_true, hx]

theorem Kind.ruleValue_of_not_number {kind : Kind} {v : Value} (hx : numberOf? v = none) :
    kind.ruleValue v = v := by
  unfold Kind.ruleValue
  split
  · simp only [hx]
  · rfl

theorem mixedTest_eq_ok (x : Cell) (v : Value) : ∃ b, mixedTest .eq x v = .ok b := by
  unfold mixedTest
  split
  · exact ⟨_, rfl⟩
  · split
    · exact ⟨_, rfl⟩
    · split
      · exact ⟨_, rfl⟩
      · exact ⟨_, rfl⟩

theorem compareColumn_eq_text_ok (c : Column) (s : Text) :
    ∃ mask, compareColumn c .eq (.str s) = .ok mask := by
  by_cases hk : c.kind.isNumeric = true
  · exact ⟨_, by simp only [compareColumn, hk, if_true]; rfl⟩
  · have hall : ∀ x ∈ c.cells.toList,
        mixedTest .eq x (.str s) = .ok (verdictOf (mixedTest .eq x (.str s))) := by
      intro x _
      obtain ⟨b, hb⟩ := mixedTest_eq_ok x (.str s)
      rw [hb, verdictOf_ok]
    exact ⟨_, by simp only [compareColumn, hk, Bool.false_eq_true, if_false]
                 exact mapM_eq_ok_of_forall hall⟩

theorem keepsCell_eq_text (t s : Text) :
    (Test.compare .eq).keepsCell .object (.str s) (.text t) = (t == s) := by
  simp only [Test.keepsCell, cellTest, Kind.isNumeric, Bool.false_eq_true, if_false, mixedTest,
    isNullValue, Cell.isMissing, Bool.or_false, cellNum, valueNum, verdictOf_ok, Op.test]
  by_cases h : t = s
  · simp [h, Text.compareLex_self]
  · have hne : Text.compareLex t.points s.points ≠ .eq := by
      intro heq
      cases t
      cases s
      exact h (congrArg Text.mk (compareLex_eq_iff.1 heq))
    simp [hne, h]

theorem keepsCell_eq_not_text {kind : Kind} {x : Cell} (hx : ∀ t, x ≠ .text t) (s : Text) :
    (Test.compare .eq).keepsCell kind (.str s) x = false := by
  cases x with
  | text t => exact absurd rfl (hx t)
  | int _ | float _ | bool _ | missing | array _ _ | tuple _ =>
    simp only [Test.keepsCell, cellTest]
    split <;> simp [numericTest, mixedTest, isNullValue, valueNum, cellNum, unequal,
      apply_ite verdictOf]

/-- A cell is among the parts of a text exactly when it equals one of them, in a column whose
texts, if any, are in a mixed column. -/
theorem keepsCell_among_eq_any {kind : Kind} {x : Cell} (hx : kind ≠ .object → ∀ t, x ≠ .text t)
    {v : Text} {parts : List Text} (hparts : amongParts (.str v) = .ok parts) :
    Test.among.keepsCell kind (.str v) x =
      parts.any fun s => (Test.compare .eq).keepsCell kind (.str s) x := by
  by_cases htext : ∃ t, x = .text t
  · obtain ⟨t, rfl⟩ := htext
    have hk : kind = .object := by
      by_contra hk
      exact hx hk t rfl
    subst hk
    have hl : Test.among.keepsCell .object (.str v) (.text t) = parts.contains t := by
      simp [Test.keepsCell, hparts]
    rw [hl, Bool.eq_iff_iff]
    simp [keepsCell_eq_text]
  · push Not at htext
    have hr : (parts.any fun s => (Test.compare .eq).keepsCell kind (.str s) x) = false := by
      simp [keepsCell_eq_not_text htext]
    rw [hr]
    cases x with
    | text t => exact absurd rfl (htext t)
    | int _ | float _ | bool _ | missing | array _ _ | tuple _ => simp [Test.keepsCell, hparts]

/-- `eq` with a text, off 64-bit integers and doubles: it completes, keeping the rows whose cell
equals the text. -/
theorem Rule.apply_eq_text {f : Frame} {key : Value} {name : Text} {c : Column}
    (hpick : f.pickBy key = .ok (.column name c)) (h₁ : c.kind ≠ .int64) (h₂ : c.kind ≠ .float64)
    (s : Text) :
    Rule.apply (.frame f) ⟨key, .compare .eq, .str s⟩ =
      .ok (.frame (f.keepRows (c.cells.toList.map ((Test.compare .eq).keepsCell c.kind (.str s))))) := by
  obtain ⟨mask, hmask⟩ := compareColumn_eq_text_ok c s
  rw [Rule.apply_compare_of_ok hpick (by rw [Kind.ruleValue_of_ne h₁ h₂]; exact hmask),
    compareColumn_eq_ok rfl hmask]
  rfl

/-- `in` with a text that the column's kind leaves as it is: it completes, keeping the rows whose
cell is a text among the parts. -/
theorem Rule.apply_among_text {f : Frame} {key : Value} {name : Text} {c : Column}
    (hpick : f.pickBy key = .ok (.column name c)) {v : Text}
    (hv : c.kind.ruleValue (.str v) = .str v) {parts : List Text}
    (hparts : amongParts (.str v) = .ok parts) :
    Rule.apply (.frame f) ⟨key, .among, .str v⟩ =
      .ok (.frame (f.keepRows (c.cells.toList.map (Test.among.keepsCell c.kind (.str v))))) := by
  have hpass : passes c .among (.str v) parts =
      .ok (c.cells.toList.map (Test.among.keepsCell c.kind (.str v))) := by
    rw [← @passes_eq_ok c .among (.str v) parts _ rfl (fun _ => hparts) rfl]
    rfl
  have hl : Rule.parts ⟨key, .among, .str v⟩ (.str v) = pure parts := by
    simp only [Rule.parts, hparts]
    rfl
  rw [@Rule.apply_column_eq f ⟨key, .among, .str v⟩ name c hpick (by intro h; cases h)]
  dsimp only
  rw [hv, hl, pure_bind, hpass]
  rfl

/-- `in` on 64-bit integers or doubles with a text that reads as a number: the value is a double,
which has no parts to split, and the rule stops. -/
theorem Rule.apply_among_number {f : Frame} {key : Value} {name : Text} {c : Column}
    (hpick : f.pickBy key = .ok (.column name c)) (hk : c.kind = .int64 ∨ c.kind = .float64)
    {v : Text} {x : Float} (hx : Decimal.readNumber? v = some x) :
    Rule.apply (.frame f) ⟨key, .among, .str v⟩ = .error (.fault (.noAttribute "float" "split")) := by
  rw [@Rule.apply_column_eq f ⟨key, .among, .str v⟩ name c hpick (by intro h; cases h),
    Kind.ruleValue_of_number hk (show numberOf? (.str v) = some x from hx)]
  rfl

/-- `in` against `eq` on a frame whose key picks one column, whose texts, if any, are in a mixed
column. Off 64-bit integers and doubles, `in` with a text completes and keeps exactly the rows that
one of the `eq` rules with a part of the text keeps, each of which completes. On 64-bit integers
and doubles `in` stops when the text reads as a number, a double having no parts to split, and
otherwise keeps no row. -/
theorem among_rule_keeps_rows_some_eq_rule_keeps {f : Frame} {key : Value} {name : Text}
    {c : Column} (hpick : f.pickBy key = .ok (.column name c))
    (hcells : c.kind ≠ .object → ∀ t, Cell.text t ∉ c.cells.toList) (v : Text) :
    ∃ parts, amongParts (.str v) = .ok parts ∧
      (c.kind ≠ .int64 → c.kind ≠ .float64 →
        (∀ s ∈ parts, Rule.apply (.frame f) ⟨key, .compare .eq, .str s⟩ =
          .ok (.frame (f.keepRows (c.cells.toList.map ((Test.compare .eq).keepsCell c.kind (.str s)))))) ∧
        Rule.apply (.frame f) ⟨key, .among, .str v⟩ =
          .ok (.frame (f.keepRows (c.cells.toList.map fun x =>
            parts.any fun s => (Test.compare .eq).keepsCell c.kind (.str s) x)))) ∧
      (c.kind = .int64 ∨ c.kind = .float64 →
        (∀ x, Decimal.readNumber? v = some x →
          Rule.apply (.frame f) ⟨key, .among, .str v⟩ =
            .error (.fault (.noAttribute "float" "split"))) ∧
        (Decimal.readNumber? v = none →
          Rule.apply (.frame f) ⟨key, .among, .str v⟩ =
            .ok (.frame (f.keepRows (c.cells.toList.map fun _ => false))))) := by
  obtain ⟨parts, hparts⟩ : ∃ parts, amongParts (.str v) = .ok parts := ⟨_, rfl⟩
  have hx : ∀ x ∈ c.cells.toList, c.kind ≠ .object → ∀ t, x ≠ .text t :=
    fun x hmem hk t ht => hcells hk t (ht ▸ hmem)
  refine ⟨parts, hparts, fun h₁ h₂ => ⟨fun s _ => Rule.apply_eq_text hpick h₁ h₂ s, ?_⟩,
    fun hk => ⟨fun x hnum => Rule.apply_among_number hpick hk hnum, fun hnone => ?_⟩⟩
  · -- off numbers: a cell is among the parts exactly when it equals one of them
    rw [Rule.apply_among_text hpick (Kind.ruleValue_of_ne h₁ h₂ _) hparts]
    have hmask : c.cells.toList.map (Test.among.keepsCell c.kind (.str v)) =
        c.cells.toList.map fun x =>
          parts.any fun s => (Test.compare .eq).keepsCell c.kind (.str s) x :=
      List.map_congr_left fun x hmem => keepsCell_among_eq_any (hx x hmem) hparts
    rw [hmask]
  · -- on numbers the column holds no text to be among the parts
    have hobj : c.kind ≠ .object := by
      rcases hk with h | h <;> rw [h] <;> intro h' <;> cases h'
    rw [Rule.apply_among_text hpick
      (Kind.ruleValue_of_not_number (show numberOf? (.str v) = none from hnone)) hparts]
    have hmask : c.cells.toList.map (Test.among.keepsCell c.kind (.str v)) =
        c.cells.toList.map fun _ => false := by
      refine List.map_congr_left fun x hmem => ?_
      rw [keepsCell_among_eq_any (hx x hmem) hparts]
      simp [keepsCell_eq_not_text (hx x hmem hobj)]
    rw [hmask]

theorem among_rule_keeps_rows_some_eq_rule_keeps_sample :
    textSampleFrame.pickBy (.str (Text.ofString "a")) =
        .ok (.column (Text.ofString "a") textSampleColumn) ∧
      (textSampleColumn.kind ≠ .object → ∀ t, Cell.text t ∉ textSampleColumn.cells.toList) ∧
      ∃ parts, amongParts (.str (Text.ofString "x, y")) = .ok parts ∧
        (textSampleColumn.kind ≠ .int64 → textSampleColumn.kind ≠ .float64 →
          (∀ s ∈ parts, Rule.apply (.frame textSampleFrame)
              ⟨.str (Text.ofString "a"), .compare .eq, .str s⟩ =
            .ok (.frame (textSampleFrame.keepRows (textSampleColumn.cells.toList.map
              ((Test.compare .eq).keepsCell textSampleColumn.kind (.str s)))))) ∧
          Rule.apply (.frame textSampleFrame) ⟨.str (Text.ofString "a"), .among,
              .str (Text.ofString "x, y")⟩ =
            .ok (.frame (textSampleFrame.keepRows (textSampleColumn.cells.toList.map fun x =>
              parts.any fun s => (Test.compare .eq).keepsCell textSampleColumn.kind (.str s) x)))) ∧
        (textSampleColumn.kind = .int64 ∨ textSampleColumn.kind = .float64 →
          (∀ x, Decimal.readNumber? (Text.ofString "x, y") = some x →
            Rule.apply (.frame textSampleFrame) ⟨.str (Text.ofString "a"), .among,
              .str (Text.ofString "x, y")⟩ = .error (.fault (.noAttribute "float" "split"))) ∧
          (Decimal.readNumber? (Text.ofString "x, y") = none →
            Rule.apply (.frame textSampleFrame) ⟨.str (Text.ofString "a"), .among,
              .str (Text.ofString "x, y")⟩ =
              .ok (.frame (textSampleFrame.keepRows
                (textSampleColumn.cells.toList.map fun _ => false))))) := by
  have hcells : textSampleColumn.kind ≠ .object → ∀ t, Cell.text t ∉ textSampleColumn.cells.toList :=
    fun h => absurd rfl h
  exact ⟨textSampleFrame_pickBy, hcells,
    among_rule_keeps_rows_some_eq_rule_keeps textSampleFrame_pickBy hcells _⟩

def intSampleFrame : Frame :=
  ⟨2, #[(Text.ofString "a", ⟨.int64, #[.int 1, .int 2]⟩)], .positions⟩

theorem readNumber_one_isSome : (Decimal.readNumber? (Text.ofString "1")).isSome = true := by
  rw [show Decimal.readNumber? (Text.ofString "1") = Decimal.readUnsigned? ['1'] from rfl]
  simp [Decimal.readUnsigned?, Decimal.digitRun, Decimal.isDigit, Decimal.lowerAscii]

/-- On a column of 64-bit integers `in` with `1` stops, `1` reading as a double, while `eq` with
`1` completes: membership does not agree with equality there. -/
theorem among_number_stops_where_eq_completes :
    Rule.apply (.frame intSampleFrame) ⟨.str (Text.ofString "a"), .among, .str (Text.ofString "1")⟩ =
        .error (.fault (.noAttribute "float" "split")) ∧
      (Rule.apply (.frame intSampleFrame)
        ⟨.str (Text.ofString "a"), .compare .eq, .str (Text.ofString "1")⟩).isOk = true := by
  obtain ⟨x, hx⟩ := Option.isSome_iff_exists.1 readNumber_one_isSome
  have hpick : intSampleFrame.pickBy (.str (Text.ofString "a")) =
      .ok (.column (Text.ofString "a") ⟨.int64, #[.int 1, .int 2]⟩) := rfl
  refine ⟨Rule.apply_among_number hpick (.inl rfl) hx, ?_⟩
  -- `eq` compares every cell with the double, which never fails
  rw [Rule.apply_compare_of_ok hpick (by
    rw [Kind.ruleValue_of_number (.inl rfl)
      (show numberOf? (.str (Text.ofString "1")) = some x from hx)]
    exact compareColumn_float rfl .eq x)]
  rfl

end Tabula.Query
