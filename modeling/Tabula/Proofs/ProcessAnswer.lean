import Tabula.Proofs.SessionState

/-!
How processing answers. A query run stops at the first stage that fails, and the only stop that
is not a fault is a `regex` rule whose pattern has a syntax error. `RegexStop` says where such a
stop comes from: the selection and every earlier filter rule succeeded, the rule's key gives its
test a column of the table it reaches, and the pattern, the text of the value as the rule uses it, is
malformed. A pattern refused for another reason (flags that conflict, a count too large, a
look-behind the matcher cannot run) is a fault like any other.

Processing never answers success: a completed run stores its table and then fails on its own
message, and a stopped run keeps the earlier result.
-/

namespace Tabula.Query

open Json

/-! ## Failing computations -/

theorem bind_eq_ok {ε α β : Type} {x : Except ε α} {f : α → Except ε β} {b : β} :
    x >>= f = .ok b ↔ ∃ a, x = .ok a ∧ f a = .ok b := by
  cases x <;> simp [bind, Except.bind]

theorem bind_eq_error {ε α β : Type} {x : Except ε α} {f : α → Except ε β} {e : ε} :
    x >>= f = .error e ↔ x = .error e ∨ ∃ a, x = .ok a ∧ f a = .error e := by
  cases x <;> simp [bind, Except.bind]

theorem foldlM_eq_error {ε α β : Type} {f : β → α → Except ε β} {init : β} {xs : List α}
    {e : ε} :
    xs.foldlM f init = .error e ↔
      ∃ pre x post acc, xs = pre ++ x :: post ∧ pre.foldlM f init = .ok acc ∧
        f acc x = .error e := by
  constructor
  · intro h
    induction xs generalizing init with
    | nil => cases h
    | cons x xs ih =>
        rw [List.foldlM_cons] at h
        rcases bind_eq_error.1 h with hx | ⟨a, ha, hrest⟩
        · exact ⟨[], x, xs, init, rfl, rfl, hx⟩
        · obtain ⟨pre, y, post, acc, rfl, hpre, hy⟩ := ih hrest
          refine ⟨x :: pre, y, post, acc, rfl, ?_, hy⟩
          rw [List.foldlM_cons, ha]
          exact hpre
  · rintro ⟨pre, x, post, acc, rfl, hpre, hx⟩
    rw [List.foldlM_append, hpre]
    show List.foldlM f acc (x :: post) = _
    rw [List.foldlM_cons, hx]
    rfl

/-! ## Where a stop at a pattern comes from -/

/-- A computation that never stops at a pattern with a syntax error. -/
def NoBadPattern {α : Type} (r : Except Stop α) : Prop := ∀ v, r ≠ .error (.badPattern v)

theorem noBadPattern_lift {α : Type} (r : Except Fault α) : NoBadPattern (lift r) := by
  intro v h
  cases r <;> cases h

theorem noBadPattern_pure {α : Type} (a : α) : NoBadPattern (pure a : Except Stop α) := by
  intro v h
  cases h

theorem noBadPattern_bind {α β : Type} {x : Except Stop α} {f : α → Except Stop β}
    (hx : NoBadPattern x) (hf : ∀ a, NoBadPattern (f a)) : NoBadPattern (x >>= f) := by
  intro v h
  rcases bind_eq_error.1 h with h | ⟨a, -, h⟩
  · exact hx v h
  · exact hf a v h

theorem noBadPattern_mapM {α β : Type} {xs : List α} {f : α → Except Stop β}
    (hf : ∀ x, NoBadPattern (f x)) : NoBadPattern (xs.mapM f) := by
  induction xs with
  | nil => exact noBadPattern_pure _
  | cons x xs ih =>
      rw [List.mapM_cons]
      exact noBadPattern_bind (hf x) fun _ => noBadPattern_bind ih fun _ => noBadPattern_pure _

theorem noBadPattern_brokenSpan {ε α : Type} (r : Except ε α) :
    NoBadPattern (r.mapError fun _ => Stop.fault .brokenSpan) := by
  intro v h
  cases r <;> cases h

theorem compilePattern_eq_badPattern {anchored : Bool} {value v : Value} :
    compilePattern anchored value = .error (.badPattern v) ↔
      anchored = true ∧ v = value ∧
        ∃ e, Regex.compile (patternSource value) = .error e ∧ e.isMalformed = true := by
  simp only [compilePattern]
  cases h : Regex.compile (patternSource value) with
  | ok p => simp
  | error e =>
      dsimp only
      by_cases hc : (anchored && e.isMalformed) = true
      · rw [if_pos hc, Bool.and_eq_true] at *
        constructor
        · intro h
          cases h
          exact ⟨hc.1, rfl, e, rfl, hc.2⟩
        · rintro ⟨-, rfl, -, -, -⟩
          rfl
      · rw [if_neg hc]
        constructor
        · intro h
          cases h
        · rintro ⟨ha, -, e', he, hm⟩
          cases he
          rw [ha, hm] at hc
          exact absurd rfl hc

theorem passes_eq_badPattern {c : Column} {test : Test} {value v : Value} {parts : List Text} :
    passes c test value parts = .error (.badPattern v) ↔
      test = .regex ∧ v = value ∧
        ∃ e, Regex.compile (patternSource value) = .error e ∧ e.isMalformed = true := by
  cases test with
  | compare op => exact ⟨fun h => absurd h (noBadPattern_lift _ v), fun h => nomatch h.1⟩
  | contains =>
      refine ⟨fun h => ?_, fun h => nomatch h.1⟩
      rcases bind_eq_error.1 h with h | ⟨p, -, h⟩
      · exact absurd (compilePattern_eq_badPattern.1 h).1 (by decide)
      · exact absurd h (noBadPattern_mapM (fun _ => noBadPattern_brokenSpan _) v)
  | regex =>
      constructor
      · intro h
        rcases bind_eq_error.1 h with h | ⟨p, -, h⟩
        · exact ⟨rfl, (compilePattern_eq_badPattern.1 h).2⟩
        · exact absurd h (noBadPattern_mapM (fun _ => noBadPattern_brokenSpan _) v)
      · rintro ⟨-, hv, e, he, hm⟩
        exact bind_eq_error.2 (.inl (compilePattern_eq_badPattern.2 ⟨rfl, hv, e, he, hm⟩))
  | isNull | notNull | among | ignored =>
      exact ⟨fun h => absurd h (noBadPattern_pure _ v), fun h => nomatch h.1⟩

theorem maskColumns_noBadPattern (cols : List Column) (test : Test) (value : Value)
    (parts : List Text) : NoBadPattern (maskColumns cols test value parts) := by
  intro v h
  cases test with
  | contains | regex => cases h
  | compare _ | isNull | notNull | among | ignored =>
      refine noBadPattern_mapM (fun c v h => ?_) v h
      exact nomatch (passes_eq_badPattern.1 h).1

theorem filterPicked_eq_badPattern {f : Frame} {pick : Pick} {r : Rule} {value v : Value}
    {parts : List Text} :
    filterPicked f pick r value parts = .error (.badPattern v) ↔
      ∃ name c, pick = .column name c ∧ passes c r.test value parts = .error (.badPattern v) := by
  cases pick with
  | column name c =>
      constructor
      · intro h
        refine ⟨name, c, rfl, ?_⟩
        rcases bind_eq_error.1 h with h | ⟨m, -, h⟩
        · exact h
        · cases h
      · rintro ⟨n, c', hp, h⟩
        cases hp
        exact bind_eq_error.2 (.inl h)
  | columns ps =>
      refine ⟨fun h => ?_, fun ⟨_, _, h, _⟩ => nomatch h⟩
      exact absurd h (noBadPattern_bind (maskColumns_noBadPattern _ _ _ _) (fun _ => noBadPattern_pure _) v)
  | rows kept =>
      refine ⟨fun h => ?_, fun ⟨_, _, h, _⟩ => nomatch h⟩
      exact absurd h (noBadPattern_bind (maskColumns_noBadPattern _ _ _ _) (fun _ => noBadPattern_pure _) v)

theorem lift_eq_ok {α : Type} {r : Except Fault α} {a : α} : lift r = .ok a ↔ r = .ok a := by
  cases r with
  | error e => exact ⟨(fun h => nomatch h), fun h => nomatch h⟩
  | ok b => exact ⟨(fun h => by cases h; rfl), fun h => by cases h; rfl⟩

def Rule.parts (r : Rule) (value : Value) : Except Stop (List Text) :=
  match r.test with
  | .among => lift (amongParts value)
  | _ => pure []

/-- A rule that tests something, on the table, once its value and parts are known. -/
def Rule.onTable (r : Rule) (t : Table) (value : Value) (parts : List Text) :
    Except Stop Table :=
  match t with
  | .series name c ls => r.onSeries name c ls value parts
  | .frame f => do
    let pick ← lift (f.pickBy r.column)
    let g ← filterPicked f pick r value parts
    pure (.frame g)

theorem Rule.apply_eq {t : Table} {r : Rule} (h : r.test ≠ .ignored) :
    r.apply t = r.parts (r.usedValue t) >>= r.onTable t (r.usedValue t) := by
  cases hc : r.test with
  | ignored => exact absurd hc h
  | among =>
      simp only [Rule.apply, Rule.parts, hc]
      cases t <;> rfl
  | compare _ | contains | regex | isNull | notNull =>
      simp only [Rule.apply, Rule.parts, hc, pure_bind]
      cases t <;> rfl

theorem Rule.parts_noBadPattern (r : Rule) (value : Value) : NoBadPattern (r.parts value) := by
  unfold Rule.parts
  split
  · exact noBadPattern_lift _
  · exact noBadPattern_pure _

end Tabula.Query

namespace Tabula

open Json Query

/-- The column a rule's key gives its test: the one column of a frame that the key picks alone,
or the rows of a single column that the key names by label. -/
def Table.ruleColumn? (t : Table) (key : Value) : Option Column :=
  match t with
  | .frame f =>
    match f.pickBy key with
    | .ok (.column _ c) => some c
    | _ => none
  | .series _ c ls =>
    match seriesPickBy (seriesLabels c ls) key with
    | .ok (.rows ps) => some (c.pick ps)
    | _ => none

end Tabula

namespace Tabula.Query

open Json

theorem ruleColumn?_frame {g : Frame} {key : Value} {c : Column} :
    (Table.frame g).ruleColumn? key = some c ↔ ∃ name, g.pickBy key = .ok (.column name c) := by
  unfold Table.ruleColumn?
  cases h : g.pickBy key with
  | error e => simp [h]
  | ok pick => cases pick <;> simp [h]

theorem ruleColumn?_series {name : Text} {c d : Column} {ls : RowLabels} {key : Value} :
    (Table.series name c ls).ruleColumn? key = some d ↔
      ∃ ps, seriesPickBy (seriesLabels c ls) key = .ok (.rows ps) ∧ d = c.pick ps := by
  unfold Table.ruleColumn?
  cases h : seriesPickBy (seriesLabels c ls) key with
  | error e => simp [h]
  | ok pick => cases pick <;> simp [h, eq_comm]

/-- On a single column a rule stops at its pattern only where its key names rows: a single cell
has no text methods, so its pattern is never read. -/
theorem Rule.onSeries_eq_badPattern {r : Rule} {name : Text} {c : Column} {ls : RowLabels}
    {value v : Value} {parts : List Text} :
    r.onSeries name c ls value parts = .error (.badPattern v) ↔
      ∃ ps, seriesPickBy (seriesLabels c ls) r.column = .ok (.rows ps) ∧
        passes (c.pick ps) r.test value parts = .error (.badPattern v) := by
  unfold Rule.onSeries
  constructor
  · intro h
    rcases bind_eq_error.1 h with h | ⟨pick, hpick, h⟩
    · exact absurd h (noBadPattern_lift _ v)
    cases pick with
    | cell i =>
      rcases bind_eq_error.1 h with h | ⟨keep, -, h⟩
      · exact absurd h (noBadPattern_lift _ v)
      · cases h
    | rows ps =>
      rcases bind_eq_error.1 h with h | ⟨mask, -, h⟩
      · exact ⟨ps, lift_eq_ok.1 hpick, h⟩
      rcases bind_eq_error.1 h with h | ⟨keep, -, h⟩
      · exact absurd h (noBadPattern_lift _ v)
      · cases h
  · rintro ⟨ps, hpick, hpass⟩
    refine bind_eq_error.2 (.inr ⟨SeriesPick.rows ps, lift_eq_ok.2 hpick, ?_⟩)
    exact bind_eq_error.2 (.inl hpass)

theorem Rule.onTable_eq_badPattern {r : Rule} {t : Table} {value v : Value} {parts : List Text} :
    r.onTable t value parts = .error (.badPattern v) ↔
      ∃ c, t.ruleColumn? r.column = some c ∧ passes c r.test value parts = .error (.badPattern v) := by
  cases t with
  | series name c ls =>
    change r.onSeries name c ls value parts = _ ↔ _
    rw [Rule.onSeries_eq_badPattern]
    constructor
    · rintro ⟨ps, hpick, hpass⟩
      exact ⟨c.pick ps, ruleColumn?_series.2 ⟨ps, hpick, rfl⟩, hpass⟩
    · rintro ⟨d, hd, hpass⟩
      obtain ⟨ps, hpick, rfl⟩ := ruleColumn?_series.1 hd
      exact ⟨ps, hpick, hpass⟩
  | frame g =>
    constructor
    · intro h
      rcases bind_eq_error.1 h with hp | ⟨pick, hpick, h⟩
      · exact absurd hp (noBadPattern_lift _ v)
      rcases bind_eq_error.1 h with hf | ⟨g', -, h⟩
      · obtain ⟨name, c, rfl, hpass⟩ := filterPicked_eq_badPattern.1 hf
        exact ⟨c, ruleColumn?_frame.2 ⟨name, lift_eq_ok.1 hpick⟩, hpass⟩
      · cases h
    · rintro ⟨c, hc, hpass⟩
      obtain ⟨name, hpick⟩ := ruleColumn?_frame.1 hc
      refine bind_eq_error.2 (.inr ⟨.column name c, lift_eq_ok.2 hpick, ?_⟩)
      exact bind_eq_error.2 (.inl (filterPicked_eq_badPattern.2 ⟨name, c, rfl, hpass⟩))

/-- A rule stops at its pattern exactly when it is a `regex` rule whose key gives its test a
column, and the text of the value as the rule uses it is a malformed pattern. -/
theorem Rule.apply_eq_badPattern {t : Table} {r : Rule} {v : Value} :
    r.apply t = .error (.badPattern v) ↔
      r.test = .regex ∧ (∃ c, t.ruleColumn? r.column = some c) ∧ v = r.usedValue t ∧
        ∃ e, Regex.compile (patternSource v) = .error e ∧ e.isMalformed = true := by
  by_cases hi : r.test = .ignored
  · have h : r.apply t = pure t := by simp only [Rule.apply, hi]
    rw [h, hi]
    exact ⟨(fun h => nomatch h), fun h => nomatch h.1⟩
  rw [Rule.apply_eq hi]
  constructor
  · intro h
    rcases bind_eq_error.1 h with hp | ⟨parts, -, h⟩
    · exact absurd hp (Rule.parts_noBadPattern r _ v)
    obtain ⟨c, hc, hpass⟩ := Rule.onTable_eq_badPattern.1 h
    obtain ⟨hreg, rfl, e, he, hm⟩ := passes_eq_badPattern.1 hpass
    exact ⟨hreg, ⟨c, hc⟩, rfl, e, he, hm⟩
  · rintro ⟨hreg, ⟨c, hc⟩, rfl, e, he, hm⟩
    have hparts : r.parts (r.usedValue t) = .ok [] := by simp only [Rule.parts, hreg]; rfl
    refine bind_eq_error.2 (.inr ⟨[], hparts, ?_⟩)
    exact Rule.onTable_eq_badPattern.2 ⟨c, hc, passes_eq_badPattern.2 ⟨hreg, rfl, e, he, hm⟩⟩

def filterStep (t : Table) (item : Value) : Except Stop Table := do
  let r ← lift (Rule.read item)
  r.apply t

theorem applyFilters_eq (t : Table) (rules : Value) :
    applyFilters t rules = lift (members rules) >>= fun rs => rs.foldlM filterStep t := rfl

theorem filterStep_eq_badPattern {t : Table} {item v : Value} :
    filterStep t item = .error (.badPattern v) ↔
      ∃ r, Rule.read item = .ok r ∧ r.apply t = .error (.badPattern v) := by
  constructor
  · intro h
    rcases bind_eq_error.1 h with h | ⟨r, hr, h⟩
    · exact absurd h (noBadPattern_lift _ v)
    · exact ⟨r, lift_eq_ok.1 hr, h⟩
  · rintro ⟨r, hr, h⟩
    exact bind_eq_error.2 (.inr ⟨r, lift_eq_ok.2 hr, h⟩)

/-! ## The stages of a run -/

def selectStage (config : Value) (f : Frame) : Except Stop Table := do
  let selection ← lift (index config "selected_columns")
  if selection.truthy then lift (f.select selection) else pure (.frame f)

def finalStages (config : Value) (t : Table) : Except Stop Table := do
  let sorting ← lift (index config "sorting")
  let t ← if sorting.truthy then lift (applySorting t sorting) else pure t
  lift (applyGrouping t config)

private theorem ite_bind {α β : Type} (c : Prop) [Decidable c] (a b : Except Stop α)
    (k : α → Except Stop β) : (if c then a else b) >>= k = if c then a >>= k else b >>= k := by
  split <;> rfl

theorem runQuery_eq_stages (config : Value) (f : Frame) :
    runQuery config f = (do
      let t ← selectStage config f
      let rules ← lift (index config "filters")
      let t ← applyFilters t rules
      finalStages config t) := by
  simp only [runQuery, selectStage, finalStages, bind_assoc, ite_bind]

theorem selectStage_noBadPattern (config : Value) (f : Frame) :
    NoBadPattern (selectStage config f) := by
  refine noBadPattern_bind (noBadPattern_lift _) fun selection => ?_
  split
  · exact noBadPattern_lift _
  · exact noBadPattern_pure _

theorem finalStages_noBadPattern (config : Value) (t : Table) :
    NoBadPattern (finalStages config t) := by
  unfold finalStages
  refine noBadPattern_bind (noBadPattern_lift _) fun sorting => ?_
  dsimp only
  split
  · exact noBadPattern_bind (noBadPattern_lift _) fun _ => noBadPattern_lift _
  · exact noBadPattern_bind (noBadPattern_pure _) fun _ => noBadPattern_lift _

/-- Where a run stops at a pattern with a syntax error: the selection gives `t₀`, the filter rules
are `pre ++ item :: post`, the rules of `pre` carry `t₀` to the table `t`, `item` reads as a
`regex` rule whose key gives its test a column of `t` (one column of a frame, or rows of a single
column named by label), and the text of its value, as the rule uses it, is a malformed pattern. -/
def RegexStop (config : Value) (f : Frame) (v : Value) : Prop :=
  ∃ t₀ rules pre item post t r c e,
    selectStage config f = .ok t₀ ∧ index config "filters" = .ok rules ∧
    members rules = .ok (pre ++ item :: post) ∧ pre.foldlM filterStep t₀ = .ok t ∧
    Rule.read item = .ok r ∧ r.test = .regex ∧ t.ruleColumn? r.column = some c ∧
    v = r.usedValue t ∧ Regex.compile (patternSource v) = .error e ∧ e.isMalformed = true

theorem runQuery_eq_badPattern {config : Value} {f : Frame} {v : Value} :
    runQuery config f = .error (.badPattern v) ↔ RegexStop config f v := by
  rw [runQuery_eq_stages]
  constructor
  · intro h
    rcases bind_eq_error.1 h with h | ⟨t₀, hsel, h⟩
    · exact absurd h (selectStage_noBadPattern config f v)
    rcases bind_eq_error.1 h with h | ⟨rules, hrules, h⟩
    · exact absurd h (noBadPattern_lift _ v)
    rcases bind_eq_error.1 h with h | ⟨t, -, h⟩
    · rcases bind_eq_error.1 h with h | ⟨rs, hrs, h⟩
      · exact absurd h (noBadPattern_lift _ v)
      obtain ⟨pre, item, post, acc, rfl, hpre, hitem⟩ := foldlM_eq_error.1 h
      obtain ⟨r, hr, happly⟩ := filterStep_eq_badPattern.1 hitem
      obtain ⟨hreg, ⟨c, hc⟩, rfl, e, he, hm⟩ := Rule.apply_eq_badPattern.1 happly
      exact ⟨t₀, rules, pre, item, post, acc, r, c, e, hsel, lift_eq_ok.1 hrules,
        lift_eq_ok.1 hrs, hpre, hr, hreg, hc, rfl, he, hm⟩
    · exact absurd h (finalStages_noBadPattern config t v)
  · rintro ⟨t₀, rules, pre, item, post, t, r, c, e, hsel, hrules, hrs, hpre, hr, hreg, hc,
      rfl, he, hm⟩
    refine bind_eq_error.2 (.inr ⟨t₀, hsel, ?_⟩)
    refine bind_eq_error.2 (.inr ⟨rules, lift_eq_ok.2 hrules, ?_⟩)
    refine bind_eq_error.2 (.inl ?_)
    refine bind_eq_error.2 (.inr ⟨_, lift_eq_ok.2 hrs, ?_⟩)
    refine foldlM_eq_error.2 ⟨pre, item, post, t, rfl, hpre, ?_⟩
    refine filterStep_eq_badPattern.2 ⟨r, hr, ?_⟩
    exact Rule.apply_eq_badPattern.2 ⟨hreg, ⟨c, hc⟩, rfl, e, he, hm⟩

end Tabula.Query

namespace Tabula

open Json Query

theorem index_outcome (ok : Bool) (message : String) :
    index (outcome ok message) "ok" = .ok (.bool ok) := rfl

theorem index_failureText (message : Text) :
    index (failureText message) "ok" = .ok (.bool false) := rfl

/-- Processing answers in one of four ways, told apart by the frame and by how the run ends:
without a frame it asks for one; when every stage completes it stores the table and answers with
the failure of its own message; at a `regex` rule whose pattern has a syntax error it answers so,
showing the value, with the one record for the interface; at any other failure it reports the
fault's message. Only a completed run changes the session, and no answer is a success. -/
theorem process_answer (s : Session) :
    index (s.process).2 "ok" = .ok (.bool false) ∧
      ((s.data = none ∧ s.process = (s, outcome false "Please upload CSV file first")) ∨
        (∃ f t, s.data = some f ∧ runQuery s.config f = .ok t ∧
          s.process = ({ s with result := some t },
            outcome false "Error occurred during data processing: name 'resultd_df' is not defined")) ∨
        (∃ f v, s.data = some f ∧ runQuery s.config f = .error (.badPattern v) ∧
          RegexStop s.config f v ∧
          s.process = (s, record [("ok", .bool false),
            ("message", Value.ofString "Regular expression syntax error"),
            ("ui", .arr [.arr [Value.ofString "error",
              .str (Text.ofString "Regular expression error: " ++ v.display)]])])) ∨
        (∃ f e, s.data = some f ∧ runQuery s.config f = .error (.fault e) ∧
          s.process =
            (s, failureText (Text.ofString "Error occurred during data processing: " ++ e.message)))) := by
  have hcases : (s.data = none ∧ s.process = (s, outcome false "Please upload CSV file first")) ∨
      (∃ f t, s.data = some f ∧ runQuery s.config f = .ok t ∧
        s.process = ({ s with result := some t },
          outcome false "Error occurred during data processing: name 'resultd_df' is not defined")) ∨
      (∃ f v, s.data = some f ∧ runQuery s.config f = .error (.badPattern v) ∧
        RegexStop s.config f v ∧
        s.process = (s, record [("ok", .bool false),
          ("message", Value.ofString "Regular expression syntax error"),
          ("ui", .arr [.arr [Value.ofString "error",
            .str (Text.ofString "Regular expression error: " ++ v.display)]])])) ∨
      (∃ f e, s.data = some f ∧ runQuery s.config f = .error (.fault e) ∧
        s.process =
          (s, failureText (Text.ofString "Error occurred during data processing: " ++ e.message))) := by
    unfold Session.process
    cases hd : s.data with
    | none => exact .inl ⟨rfl, rfl⟩
    | some f =>
        dsimp only
        cases hq : runQuery s.config f with
        | ok t => exact .inr (.inl ⟨f, t, rfl, hq, rfl⟩)
        | error stop =>
            cases stop with
            | badPattern v =>
                exact .inr (.inr (.inl ⟨f, v, rfl, hq, runQuery_eq_badPattern.1 hq, rfl⟩))
            | fault e => exact .inr (.inr (.inr ⟨f, e, rfl, hq, rfl⟩))
  refine ⟨?_, hcases⟩
  rcases hcases with ⟨-, h⟩ | ⟨_, _, -, -, h⟩ | ⟨_, _, -, -, -, h⟩ | ⟨_, _, -, -, h⟩ <;> rw [h]
  · exact index_outcome false _
  · exact index_outcome false _
  · rfl
  · exact index_failureText _

def messageOf (v : Value) : Option Text :=
  match index v "message" with
  | .ok (.str t) => some t
  | _ => none

def errorOf {ε α : Type} : Except ε α → Option ε
  | .error e => some e
  | .ok _ => none

/-- A configuration with one `regex` rule whose flags conflict: the pattern does not compile, but
not for a syntax error. -/
def flagConflictConfig : Value :=
  .obj [(Text.ofString "selected_columns", .arr []),
    (Text.ofString "filters", .arr [.obj [(Text.ofString "column", Value.ofString "a"),
      (Text.ofString "operator", Value.ofString "regex"),
      (Text.ofString "value", Value.ofString "(?a)(?u)")]]),
    (Text.ofString "sorting", .arr []), (Text.ofString "grouping", .null),
    (Text.ofString "aggregations", .arr [])]

def flagConflictSession : Session :=
  Session.init.run [.loadCsv "a\nx\n".toUTF8.toList, .updateConfig flagConflictConfig]

/-- A `regex` rule whose pattern fails to compile is not always answered as a syntax error: with
flags that conflict the run stops at a fault, reported by its message and with no record for the
interface. -/
theorem regex_flag_conflict_answers_as_fault :
    errorOf (Regex.compile (Text.ofString "(?a)(?u)").points) =
        some (.conflict "ASCII and UNICODE flags are incompatible") ∧
      flagConflictSession.data.isSome = true ∧
      messageOf flagConflictSession.process.2 = some (Text.ofString
        "Error occurred during data processing: ASCII and UNICODE flags are incompatible") ∧
      (index flagConflictSession.process.2 "ui").isOk = false := by
  decide +kernel

end Tabula
