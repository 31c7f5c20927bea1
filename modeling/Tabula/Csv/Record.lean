import Tabula.Text.Utf8

/-!
Splitting CSV bytes into records of fields: commas between fields, a line feed, a carriage return
or both between records, and `"` quoting with `""` for a quote inside. Empty lines are skipped, a
field ends at its first NUL byte, and from the third record on a record may not have more fields
than the one before it (a shorter one is filled up). A line led by spaces or tabs is read again
from the last line feed, which after carriage returns rereads earlier lines. The scan runs in
passes (two records, then `bufferLines` more, then the rest), each making room for what is left,
so a scan that rereads lines without growing its room fails with `overflow`.
-/

namespace Tabula.Csv

/-- Where the scan stands. -/
inductive Mode where
  /-- At the start of a record. -/
  | recordStart
  /-- On a line that so far holds only spaces and tabs. -/
  | blankLine
  /-- At the start of a field. -/
  | fieldStart
  /-- Inside a field that did not start with a quote. -/
  | unquoted
  /-- Inside a quoted field. -/
  | quoted
  /-- Just after a quote inside a quoted field. -/
  | quoteInQuoted
  /-- After a carriage return that ended a record. -/
  | afterReturn
  /-- After a carriage return that ended a skipped line. -/
  | afterBlankReturn
  deriving DecidableEq, Repr, Inhabited

/-- Why bytes do not split into records. -/
inductive SplitError where
  /-- A record has more fields than the one before it; `line` counts from 1. -/
  | tooManyFields (expected line saw : Nat)
  /-- A quoted field is open at the end; `row` counts records and skipped lines before it. -/
  | openQuote (row : Nat)
  /-- The token text, the fields or the records outgrew their room. -/
  | overflow
  deriving DecidableEq, Repr

/-- The room of the three tables of a scan. -/
structure Room where
  text : Nat
  words : Nat
  lines : Nat
  deriving Repr, Inhabited

def Room.init : Room := ⟨32, 3, 3⟩

def wordsFloor : Nat := 3

/-- The state of a scan. -/
structure Scan where
  mode : Mode
  /-- The position of the next byte. -/
  pos : Nat
  /-- Where the current pass began. -/
  start : Nat
  field : Array UInt8
  fields : Array String
  records : Array (Array String)
  /-- Records and skipped lines so far. -/
  fileLines : Nat
  /-- Bytes of token text, a terminator after each field included. -/
  textLen : Nat
  /-- Fields ended so far. -/
  wordCount : Nat
  room : Room
  deriving Inhabited

def lf : UInt8 := 10
def cr : UInt8 := 13
def quote : UInt8 := 34
def comma : UInt8 := 44

def isBlankByte (b : UInt8) : Bool := b == 32 || b == 9

/-- A field's text: its bytes before the first NUL. -/
def fieldText (bs : Array UInt8) : String :=
  match Text.Utf8.decode (bs.toList.takeWhile (· != 0)) with
  | .ok cs => String.ofList cs
  | .error _ => ""

/-- The least capacity reached from `cap` by doubling that exceeds `need`. -/
def grow (need cap : Nat) : Nat :=
  if need < cap then cap
  else grow need (max 2 (2 * cap))
termination_by need + 1 - cap
decreasing_by omega

/-- Where a pass that began at `start` reads on from a blank-led line at `p`: just after the last
line feed at or before `p` and after `start`, else `start` (or just after it, when it is a line
feed). -/
def rewind (data : Array UInt8) (start : Nat) : Nat → Nat
  | 0 => if data[0]? == some lf then 1 else 0
  | p + 1 =>
    if p + 1 > start && data[p + 1]? != some lf then rewind data start p
    else if data[p + 1]? == some lf then p + 2 else p + 1

/-- The number of records a pass after the first reads before it stops, for a table of `width`
columns: the greatest power of two whose double is below `2 ^ 20 / width`. -/
def bufferLines (width : Nat) : Nat :=
  let heuristic := 1048576 / width
  let rec double : Nat → Nat → Nat
    | 0, p => p
    | fuel + 1, p => if p * 2 < heuristic then double fuel (p * 2) else p
  double 21 1

/-- How a step ends. -/
inductive Next where
  /-- Read on at the scan's position. -/
  | go (s : Scan)
  /-- The pass has its records; the next pass starts at the scan's position. -/
  | pause (s : Scan)
  | fail (e : SplitError)

namespace Scan

/-- The start of a scan of bytes; a leading byte-order mark is passed over. -/
def init (data : Array UInt8) : Scan :=
  let p := if data[0]? == some 0xEF && data[1]? == some 0xBB && data[2]? == some 0xBF then 3 else 0
  ⟨.recordStart, p, p, #[], #[], #[], 0, 0, 0, Room.init⟩

/-- Makes room for `n` more bytes of input. -/
def makeRoom (s : Scan) (n : Nat) : Scan :=
  let wordBase := if s.wordCount + n < wordsFloor then wordsFloor - n - 1 else s.wordCount
  { s with room := {
      text := grow (s.textLen + 2 * n) s.room.text
      words := grow (wordBase + n) s.room.words
      lines := grow (s.records.size + 1 + n) s.room.lines } }

def pushByte (s : Scan) (b : UInt8) : Except SplitError Scan :=
  if s.textLen ≥ s.room.text then .error .overflow
  else .ok { s with textLen := s.textLen + 1, field := s.field.push b }

/-- Ends the current field. Its terminator is dropped when the text has no room left. -/
def endField (s : Scan) : Except SplitError Scan :=
  if s.wordCount ≥ s.room.words then .error .overflow
  else .ok { s with
    textLen := if s.textLen < s.room.text then s.textLen + 1 else s.textLen
    wordCount := s.wordCount + 1
    fields := s.fields.push (fieldText s.field)
    field := #[] }

/-- Adds `k` empty fields, each one only if there is room for it. -/
def fill (s : Scan) : Nat → Scan
  | 0 => s
  | k + 1 =>
    match s.endField with
    | .ok s' => fill s' k
    | .error _ => fill s k

/-- Ends the current record, checking its length against the record before it. -/
def endLine (s : Scan) : Except SplitError Scan :=
  let n := s.fields.size
  let k := s.records.size
  let prev := (s.records.back?.map Array.size).getD 0
  if k ≥ 2 && n > prev then .error (.tooManyFields prev (s.fileLines + 1) n)
  else
    let s := if k ≥ 1 && n < prev then (s.makeRoom (prev - n)).fill (prev - n) else s
    let s := { s with records := s.records.push s.fields, fields := #[],
                      fileLines := s.fileLines + 1 }
    if s.records.size ≥ s.room.lines then .error .overflow else .ok s

def afterLine (limit : Nat) (s : Scan) : Next :=
  if s.records.size == limit then .pause s else .go s

def lift : Except SplitError Scan → Next
  | .ok s => .go s
  | .error e => .fail e

/-- Ends the current field and record, then moves past the byte. -/
def closeRecord (limit : Nat) (s : Scan) : Next :=
  match s.endField >>= endLine with
  | .ok s => afterLine limit { s with mode := .recordStart, pos := s.pos + 1 }
  | .error e => .fail e

def closeAtReturn (s : Scan) : Next :=
  lift ((fun s => { s with mode := .afterReturn, pos := s.pos + 1 }) <$> s.endField)

def closeAtComma (s : Scan) : Next :=
  lift ((fun s => { s with mode := .fieldStart, pos := s.pos + 1 }) <$> s.endField)

def keep (m : Mode) (s : Scan) (b : UInt8) : Next :=
  lift ((fun s => { s with mode := m, pos := s.pos + 1 }) <$> s.pushByte b)

/-- A byte at the start of a field. -/
def atFieldStart (limit : Nat) (s : Scan) (b : UInt8) : Next :=
  if b == lf then s.closeRecord limit
  else if b == cr then s.closeAtReturn
  else if b == quote then .go { s with mode := .quoted, pos := s.pos + 1 }
  else if b == comma then s.closeAtComma
  else s.keep .unquoted b

/-- A byte at the start of a record. -/
def atRecordStart (limit : Nat) (s : Scan) (b : UInt8) : Next :=
  if b == lf then .go { s with fileLines := s.fileLines + 1, pos := s.pos + 1 }
  else if b == cr then
    .go { s with fileLines := s.fileLines + 1, mode := .afterBlankReturn, pos := s.pos + 1 }
  else if isBlankByte b then .go { s with mode := .blankLine, pos := s.pos + 1 }
  else s.atFieldStart limit b

/-- One byte of input, read in a pass that pauses at `limit` records. -/
def step (data : Array UInt8) (limit : Nat) (s : Scan) (b : UInt8) : Next :=
  match s.mode with
  | .recordStart => s.atRecordStart limit b
  | .blankLine =>
    if b == lf then .go { s with fileLines := s.fileLines + 1, mode := .recordStart, pos := s.pos + 1 }
    else if b == cr then
      .go { s with fileLines := s.fileLines + 1, mode := .afterBlankReturn, pos := s.pos + 1 }
    else if isBlankByte b then .go { s with pos := s.pos + 1 }
    -- the line has content: read it again from its start as a field
    else .go { s with mode := .fieldStart, pos := rewind data s.start s.pos }
  | .fieldStart => s.atFieldStart limit b
  | .unquoted =>
    if b == lf then s.closeRecord limit
    else if b == cr then s.closeAtReturn
    else if b == comma then s.closeAtComma
    else s.keep .unquoted b
  | .quoted =>
    if b == quote then .go { s with mode := .quoteInQuoted, pos := s.pos + 1 }
    else s.keep .quoted b
  | .quoteInQuoted =>
    if b == quote then s.keep .quoted b
    else if b == comma then s.closeAtComma
    else if b == lf then s.closeRecord limit
    else if b == cr then s.closeAtReturn
    else s.keep .unquoted b
  | .afterReturn =>
    match s.endLine with
    | .error e => .fail e
    | .ok s' =>
      if b == lf then afterLine limit { s' with mode := .recordStart, pos := s.pos + 1 }
      else if b == comma then
        match s'.endField with
        | .ok s'' => afterLine limit { s'' with mode := .fieldStart, pos := s.pos + 1 }
        | .error e => .fail e
      -- a lone carriage return: the byte is read again at the start of the next record
      else afterLine limit { s' with mode := .recordStart }
  | .afterBlankReturn =>
    if b == lf || b == comma then .go { s with mode := .recordStart, pos := s.pos + 1 }
    else .go { s with mode := .recordStart }

/-- Reads bytes until the pass pauses, fails or the bytes run out (`go`). -/
def pass (data : Array UInt8) (limit : Nat) : Nat → Scan → Next
  | 0, _ => .fail .overflow
  | fuel + 1, s =>
    match data[s.pos]? with
    | none => .go s
    | some b =>
      match s.step data limit b with
      | .go s' => pass data limit fuel s'
      | other => other

/-- The end of input. -/
def finish (s : Scan) : Except SplitError Scan :=
  match s.mode with
  | .recordStart | .blankLine | .afterBlankReturn => .ok s
  | .quoted => .error (.openQuote s.fileLines)
  | .unquoted | .fieldStart | .quoteInQuoted => s.endField >>= endLine
  | .afterReturn => s.endLine

def begin (data : Array UInt8) (s : Scan) : Scan :=
  { s.makeRoom (data.size - s.pos) with start := s.pos }

/-- The steps a pass may take to reach `limit` records: each record reads the bytes at most twice
over, with a step back between. -/
def passFuel (data : Array UInt8) (limit : Nat) : Nat := (limit + 2) * (2 * data.size + 4)

/-- Runs passes until the bytes run out: after the first, each stops `more` records later. -/
def passes (data : Array UInt8) (more : Nat) : Nat → Scan → Except SplitError Scan
  | 0, _ => .error .overflow
  | rounds + 1, s =>
    let limit := s.records.size + more
    if data.size ≤ s.pos then s.finish
    else match pass data limit (passFuel data limit) (begin data s) with
    | .fail e => .error e
    | .go s => s.finish
    | .pause s => passes data more rounds s

end Scan

/-- The records of a text's bytes (see the module comment). -/
def records (data : Array UInt8) : Except SplitError (Array (Array String)) := do
  let s := Scan.init data
  if data.isEmpty then return (← s.finish).records
  match Scan.pass data 2 (Scan.passFuel data 2) (Scan.begin data s) with
  | .fail e => .error e
  | .go s => pure (← s.finish).records
  | .pause s =>
    let width := (s.records[1]?.map Array.size).getD 1
    let s ← Scan.passes data (bufferLines width - 1) (data.size + 2) s
    pure s.records

theorem grow_gt (need cap : Nat) : need < grow need cap := by
  fun_induction grow need cap <;> omega

end Tabula.Csv
