import Tabula.Session

/-!
What each step of a session changes. A step owns a part of the state: loading a table owns the
frame, setting or loading a configuration owns the configuration (setting it also the history),
processing owns the result, and the other steps own nothing, even when they fail. The step frames
are stated once (`step_frame`); what a whole run keeps follows from them by induction over the
steps: the history holds the arrays and objects that were set, in order, and the frame is the one
of the last load that succeeded.
-/

namespace Tabula

open Json Query

def Session.run (s : Session) (steps : List Step) : Session :=
  steps.foldl (fun s st => (s.step st).1) s

@[simp] theorem Session.run_nil (s : Session) : s.run [] = s := rfl

@[simp] theorem Session.run_cons (s : Session) (st : Step) (steps : List Step) :
    s.run (st :: steps) = (s.step st).1.run steps := rfl

theorem Session.run_append (s : Session) (steps more : List Step) :
    s.run (steps ++ more) = (s.run steps).run more := by
  simp [Session.run, List.foldl_append]

def processedSession (text : String) : Session :=
  Session.init.run [.loadCsv text.toUTF8.toList, .process]

def csvTextOf : Except Failure Value → Option Text
  | .ok v => match index v "csv" with
    | .ok (.str t) => some t
    | _ => none
  | .error _ => none

private theorem runSteps_fold (s : Session) (acc : List (Except Failure Value)) (steps : List Step) :
    (steps.foldl (fun (acc : Session × List (Except Failure Value)) st =>
      let (s, r) := acc.1.step st
      (s, r :: acc.2)) (s, acc)).1 = s.run steps := by
  induction steps generalizing s acc with
  | nil => rfl
  | cons st steps ih => exact ih _ _

/-- The answer a run gives to its last step is that step's answer in the session the earlier
steps reached. -/
theorem runSteps_append_single (steps : List Step) (st : Step) :
    runSteps (steps ++ [st]) = runSteps steps ++ [((Session.init.run steps).step st).2] := by
  simp only [runSteps, List.foldl_append, List.foldl_cons, List.foldl_nil, List.reverse_cons]
  rw [runSteps_fold]

def Json.Value.isContainer : Value → Bool
  | .arr _ | .obj _ => true
  | _ => false

/-- What a step leaves of the session `s`, and how its answer tells what it did. -/
def StepFrame (s : Session) : Step → Session → Except Failure Value → Prop
  | .loadCsv bytes, s', r =>
    s'.config = s.config ∧ s'.result = s.result ∧ s'.history = s.history ∧
      ((∃ f msg, Csv.readTable bytes = .ok f ∧ s'.data = some f ∧ r = .ok (outcome true msg)) ∨
        (∃ e msg, Csv.readTable bytes = .error e ∧ s'.data = s.data ∧
          r = .ok (outcome false msg)))
  | .updateConfig v, s', r =>
    s' = { s with config := v, history := if v.isContainer then s.history ++ [v] else s.history } ∧
      (v.isContainer = true → r = .ok (record [("history_len", .int s'.history.length)])) ∧
      (v.isContainer = false → ∃ msg, r = .error ⟨"AttributeError", msg⟩)
  | .loadConfig v, s', r =>
    s'.data = s.data ∧ s'.result = s.result ∧ s'.history = s.history ∧
      ((∃ t c msg, v = .str t ∧ Json.parse t.points = .ok c ∧ s'.config = c ∧
          r = .ok (outcome true msg)) ∨
        (∃ msg, s'.config = s.config ∧ r = .ok (outcome false msg)))
  | .process, s', _ => s' = { s with result := s'.result }
  | _, s', _ => s' = s

theorem loadCsv_frame (s : Session) (bytes : List UInt8) :
    StepFrame s (.loadCsv bytes) (s.step (.loadCsv bytes)).1 (s.step (.loadCsv bytes)).2 := by
  simp only [StepFrame, Session.step, Session.loadCsv]
  cases h : Csv.readTable bytes with
  | ok f => exact ⟨rfl, rfl, rfl, .inl ⟨f, _, rfl, rfl, rfl⟩⟩
  | error e => exact ⟨rfl, rfl, rfl, .inr ⟨e, _, rfl, rfl, rfl⟩⟩

theorem updateConfig_frame (s : Session) (v : Value) :
    StepFrame s (.updateConfig v) (s.step (.updateConfig v)).1 (s.step (.updateConfig v)).2 := by
  cases v <;> simp [StepFrame, Session.step, Session.updateConfig, Value.isContainer]

theorem loadConfig_frame (s : Session) (v : Value) :
    StepFrame s (.loadConfig v) (s.step (.loadConfig v)).1 (s.step (.loadConfig v)).2 := by
  cases v with
  | str t =>
      cases h : Json.parse t.points with
      | ok c =>
          refine ⟨?_, ?_, ?_, .inl ⟨t, c, "Configuration loaded successfully!", rfl, h, ?_, ?_⟩⟩ <;>
            simp [Session.step, Session.loadConfig, h]
      | error e =>
          refine ⟨?_, ?_, ?_, .inr ⟨"Configuration loading failed: " ++ e.message t.points, ?_, ?_⟩⟩ <;>
            simp [Session.step, Session.loadConfig, h]
  | null | bool _ | int _ | float _ | arr _ | obj _ =>
      exact ⟨rfl, rfl, rfl, .inr ⟨_, rfl, rfl⟩⟩

theorem process_frame (s : Session) :
    StepFrame s .process (s.step .process).1 (s.step .process).2 := by
  simp only [StepFrame, Session.step, Session.process]
  split
  · rfl
  · split <;> rfl

theorem step_frame (s : Session) (st : Step) : StepFrame s st (s.step st).1 (s.step st).2 := by
  cases st with
  | loadCsv bytes => exact loadCsv_frame s bytes
  | updateConfig v => exact updateConfig_frame s v
  | loadConfig v => exact loadConfig_frame s v
  | process => exact process_frame s
  | columns | dtypes | configJson => rfl
  | exportCsv =>
      simp only [StepFrame, Session.step]
      split
      · rfl
      · split <;> rfl
  | exportJson =>
      simp only [StepFrame, Session.step]
      split
      · rfl
      · split <;> rfl

def Step.keptConfig : Step → Option Value
  | .updateConfig v => if v.isContainer then some v else none
  | _ => none

def Step.loadedFrame : Step → Option Frame
  | .loadCsv bytes => (Csv.readTable bytes).toOption
  | _ => none

theorem step_history (s : Session) (st : Step) :
    (s.step st).1.history = s.history ++ st.keptConfig.toList := by
  have h := step_frame s st
  cases st with
  | loadCsv bytes => simp [StepFrame, Step.keptConfig] at h ⊢; exact h.2.2.1
  | updateConfig v =>
      obtain ⟨hs, -, -⟩ := h
      rw [hs]
      cases hc : v.isContainer <;> simp [Step.keptConfig, hc]
  | loadConfig v => simp [StepFrame, Step.keptConfig] at h ⊢; exact h.2.2.1
  | process =>
      simp only [StepFrame] at h
      rw [h]
      simp [Step.keptConfig]
  | columns | dtypes | exportCsv | exportJson | configJson =>
      simp only [StepFrame] at h
      simp [h, Step.keptConfig]

theorem step_data (s : Session) (st : Step) :
    (s.step st).1.data = st.loadedFrame.or s.data := by
  have h := step_frame s st
  cases st with
  | loadCsv bytes =>
      obtain ⟨-, -, -, ⟨f, _, hf, hd, -⟩ | ⟨e, _, he, hd, -⟩⟩ := h
      · simp [Step.loadedFrame, Except.toOption, hf, hd]
      · simp [Step.loadedFrame, Except.toOption, he, hd]
  | updateConfig v =>
      obtain ⟨hs, -, -⟩ := h
      simp [hs, Step.loadedFrame]
  | loadConfig v => simp [Step.loadedFrame, h.1]
  | process =>
      simp only [StepFrame] at h
      rw [h]
      simp [Step.loadedFrame]
  | columns | dtypes | exportCsv | exportJson | configJson =>
      simp only [StepFrame] at h
      simp [h, Step.loadedFrame]

theorem run_history (s : Session) (steps : List Step) :
    (s.run steps).history = s.history ++ steps.filterMap Step.keptConfig := by
  induction steps generalizing s with
  | nil => simp
  | cons st steps ih =>
      rw [Session.run_cons, ih, step_history, List.filterMap_cons]
      cases st.keptConfig <;> simp

theorem run_data (s : Session) (steps : List Step) :
    (s.run steps).data = (steps.filterMap Step.loadedFrame).getLast?.or s.data := by
  induction steps generalizing s with
  | nil => simp
  | cons st steps ih =>
      rw [Session.run_cons, ih, step_data, List.filterMap_cons]
      cases st.loadedFrame with
      | none => rfl
      | some f =>
          dsimp only
          rw [← List.singleton_append, List.getLast?_append, Option.or_assoc]
          rfl

/-- From a fresh session, every step keeps to the part of the state it owns; hence the history
holds exactly the arrays and objects that were set, in order, and the frame is the one of the
last load that succeeded, if any did. -/
theorem session_steps_own_their_state (steps : List Step) :
    (∀ (s : Session) (st : Step), StepFrame s st (s.step st).1 (s.step st).2) ∧
      (Session.init.run steps).history = steps.filterMap Step.keptConfig ∧
      (Session.init.run steps).data = (steps.filterMap Step.loadedFrame).getLast? := by
  refine ⟨step_frame, ?_, ?_⟩
  · simpa [Session.init] using run_history Session.init steps
  · simpa [Session.init] using run_data Session.init steps

end Tabula
