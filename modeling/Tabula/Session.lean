import Tabula.Query.Run
import Tabula.Csv.Read
import Tabula.Csv.Write
import Tabula.Table.Records
import Tabula.Json.Read
import Tabula.Json.Write

/-!
A working session: a loaded frame, a configuration, the last query result and the history of
configurations set by `updateConfig`.

Each step answers with a JSON object, or fails with a class and a message; a failing step keeps
the changes it made before failing. Processing a query that succeeds stores its result and still
reports failure, since its success message refers to a name that does not exist; a query that
fails keeps the earlier result.
-/

namespace Tabula

open Json Query

/-- The configuration a session starts with. -/
def defaultConfig : Value :=
  .obj [(Text.ofString "selected_columns", .arr []), (Text.ofString "filters", .arr []),
    (Text.ofString "sorting", .arr []), (Text.ofString "grouping", .null),
    (Text.ofString "aggregations", .arr [])]

/-- The state of a session. -/
structure Session where
  data : Option Frame
  config : Value
  result : Option Table
  history : List Value

def Session.init : Session := ⟨none, defaultConfig, none, []⟩

/-- What a step asks for. -/
inductive Step where
  | loadCsv (bytes : List UInt8)
  | columns
  | dtypes
  | updateConfig (config : Value)
  | process
  | exportCsv
  | exportJson
  | configJson
  | loadConfig (text : Value)

/-- A step's failure: its class and message. -/
structure Failure where
  kind : String
  message : String

def record (fields : List (String × Value)) : Value :=
  .obj (fields.map fun (k, v) => (Text.ofString k, v))

def outcome (ok : Bool) (message : String) : Value :=
  record [("ok", .bool ok), ("message", Value.ofString message)]

/-- A failed outcome whose message may repeat text of the configuration as it is. -/
def failureText (message : Text) : Value :=
  record [("ok", .bool false), ("message", .str message)]

/-- Loading a CSV file replaces the frame, or keeps the old one and says why not. -/
def Session.loadCsv (s : Session) (bytes : List UInt8) : Session × Value :=
  match Csv.readTable bytes with
  | .ok f =>
    ({ s with data := some f },
      outcome true ("Successfully loaded CSV file, with " ++ toString f.height ++ " rows and " ++
        toString f.columns.size ++ " columns"))
  | .error e => (s, outcome false ("Failed to load CSV file: " ++ e.message))

/-- The failure of a query as a step's answer. -/
def stopReply (stop : Stop) : Value :=
  match stop with
  | .fault f => failureText (Text.ofString "Error occurred during data processing: " ++ f.message)
  | .badPattern v =>
    record [("ok", .bool false), ("message", Value.ofString "Regular expression syntax error"),
      ("ui", .arr [.arr [Value.ofString "error", .str (Text.ofString "Regular expression error: " ++ v.display)]])]

/-- Runs the configured query over the loaded frame. -/
def Session.process (s : Session) : Session × Value :=
  match s.data with
  | none => (s, outcome false "Please upload CSV file first")
  | some f =>
    match runQuery s.config f with
    | .ok t =>
      ({ s with result := some t },
        outcome false "Error occurred during data processing: name 'resultd_df' is not defined")
    | .error stop => (s, stopReply stop)

/-- Sets the configuration; only a list or an object can be copied into the history. -/
def Session.updateConfig (s : Session) (v : Value) : Session × Except Failure Value :=
  let s := { s with config := v }
  match v with
  | .arr _ | .obj _ =>
    let s := { s with history := s.history ++ [v] }
    (s, .ok (record [("history_len", .int s.history.length)]))
  | other => (s, .error ⟨"AttributeError", "'" ++ other.typeName ++ "' object has no attribute 'copy'"⟩)

/-- Reads a configuration from JSON text. -/
def Session.loadConfig (s : Session) (v : Value) : Session × Value :=
  match v with
  | .str t =>
    match Json.parse t.points with
    | .ok c => ({ s with config := c }, outcome true "Configuration loaded successfully!")
    | .error e => (s, outcome false ("Configuration loading failed: " ++ e.message t.points))
  | other =>
    (s, outcome false ("Configuration loading failed: the JSON object must be str, bytes or bytearray, not " ++
      other.typeName))

/-- The kind of the column that `name` picks out of the frame. A name that several columns carry
picks out a frame of them, which has no single kind. -/
def Frame.kindNamed (f : Frame) (name : Text) : Except Failure String :=
  match f.columnsNamed name with
  | [c] => .ok c.kind.name
  | _ => .error ⟨"AttributeError", "'DataFrame' object has no attribute 'dtype'"⟩

def Frame.enterKind (f : Frame) (d : List (Text × Value)) (name : Text) :
    Except Failure (List (Text × Value)) :=
  (f.kindNamed name).map fun k => Value.setField d name (Value.ofString k)

/-- The kinds of the frame's columns as a dictionary filled over the column names in order: a
name met again would overwrite its entry in place, but the kind of a repeated name is never read. -/
def Frame.kindTable (f : Frame) : Except Failure (List (Text × Value)) :=
  f.names.foldlM f.enterKind []

/-- The answer to a question for the column kinds: one pair of name and kind per dictionary entry,
and none without a frame. -/
def Session.columnKinds (s : Session) : Except Failure Value :=
  match s.data with
  | some f => f.kindTable.map fun d => record [("dtypes", .arr (d.map fun p => .arr [.str p.1, p.2]))]
  | none => .ok (record [("dtypes", .arr [])])

/-- The frame's column names, or none without a frame. -/
def Session.columnNames (s : Session) : List Text :=
  match s.data with
  | some f => f.names
  | none => []

/-- One step: the session after it, and its answer or failure. -/
def Session.step (s : Session) : Step → Session × Except Failure Value
  | .loadCsv bytes => let (s, r) := s.loadCsv bytes; (s, .ok r)
  | .columns => (s, .ok (record [("columns", .arr (s.columnNames.map .str))]))
  | .dtypes => (s, s.columnKinds)
  | .updateConfig v => s.updateConfig v
  | .process => let (s, r) := s.process; (s, .ok r)
  | .exportCsv =>
    match s.result with
    | none => (s, .ok (record [("csv", .null)]))
    | some t =>
      let text := Csv.writeTable t
      match Text.Utf8.surrogateRun? text with
      | some e => (s, .error ⟨"UnicodeEncodeError", e.message⟩)
      | none => (s, .ok (record [("csv", .str text)]))
  | .exportJson =>
    match s.result with
    | none => (s, .ok (record [("json", .null)]))
    | some t =>
      match Table.records t with
      | .ok text => (s, .ok (record [("json", Value.ofString text)]))
      | .error e => (s, .error ⟨e.kind, e.message⟩)
  | .configJson => (s, .ok (record [("config_json", Value.ofString (s.config.pretty 0))]))
  | .loadConfig v => let (s, r) := s.loadConfig v; (s, .ok r)

/-- The answers of steps run in order from a fresh session. -/
def runSteps (steps : List Step) : List (Except Failure Value) :=
  (steps.foldl (fun (acc : Session × List (Except Failure Value)) st =>
    let (s, r) := acc.1.step st
    (s, r :: acc.2)) (Session.init, [])).2.reverse

end Tabula
