import Tabula.Query.Block
import Tabula.Text.Blank

/-!
Column keys gathered into an index, and the index as messages print it. A list of keys is laid
out as a block (`Labels.ofKeys`): a flat block keeps its elements, a block of two dimensions gives
one tuple per row, and a ragged list keeps its keys as given. The index prints (`Labels.text`)
with texts in single quotes and numbers in their shortest form, in lines of at most 80 characters;
past 100 labels only the first and last ten are shown, and the length is added.
-/

namespace Tabula.Query

open Json

/-- A label of an index built from keys: a value, or the tuple of a row of a two-dimensional list
of keys. -/
inductive Label where
  | value (v : Value)
  | tuple (vs : List Value)

/-- An index built from keys: the kind of its labels and the labels. -/
structure Labels where
  kind : BlockKind
  items : List Label

/-- Why keys make no index. -/
inductive LabelsError where
  | notFlat
  | deep (depth : Nat)

/-- The index the keys make (see the module comment). -/
def Labels.ofKeys (keys : List Value) : Except LabelsError Labels :=
  match Block.build keys with
  | .error _ => .ok ⟨.object, keys.map .value⟩
  | .ok b =>
    let kind := if b.kind == .text then BlockKind.object else b.kind
    match b.shape with
    | [_] => .ok ⟨kind, (if b.kind == .text then keys else b.items).map .value⟩
    | [_, _] => .ok ⟨.object, keys.map fun k => .tuple (match k with
        | .arr ys => ys
        | v => [v])⟩
    | shape => if kind == .object then .error (.deep shape.length) else .error .notFlat

/-- A text in single quotes, with tabs, carriage returns and line feeds escaped. -/
def quoteLabel (t : Text) : String :=
  let escape (n : Nat) : List Char :=
    if n == 9 then ['\\', 't'] else if n == 13 then ['\\', 'r'] else if n == 10 then ['\\', 'n']
    else [Char.ofNat n]
  String.ofList ('\'' :: t.points.flatMap escape ++ ['\''])

mutual
/-- A value as an index label prints it. -/
def labelValueText : Value → String
  | .str t => quoteLabel t
  | .arr xs => "[" ++ labelItemsText xs ++ "]"
  | .obj fs => Value.literal (.obj fs)
  | v => v.literal

def labelItemsText : List Value → String
  | [] => ""
  | [v] => labelValueText v
  | v :: rest => labelValueText v ++ ", " ++ labelItemsText rest
end

def Label.text : Label → String
  | .value v => labelValueText v
  | .tuple vs => "(" ++ labelItemsText vs ++ (if vs.length == 1 then "," else "") ++ ")"

def Label.isText : Label → Bool
  | .value (.str _) => true
  | _ => false

/-- The type name of a value that cannot serve as a dictionary key. -/
def unhashableName? : Value → Option String
  | .arr _ => some "list"
  | .obj _ => some "dict"
  | _ => none

def Label.unhashable? : Label → Option String
  | .value v => unhashableName? v
  | .tuple vs => vs.findSome? unhashableName?

def trimEnd (s : String) : String :=
  String.ofList (s.toList.reverse.dropWhile (fun c => Text.isBlank c.toNat)).reverse

def padLeft (w : Nat) (s : String) : String :=
  String.ofList (List.replicate (w - s.length) ' ') ++ s

def lineStart : String := "\n       "

/-- Adds a piece to the current line, or starts a new line with it when the line would reach
`limit` characters. -/
def extendLine (limit : Nat) (acc : String × String) (piece : String) : String × String :=
  let (done, line) := acc
  if (trimEnd line).length + (trimEnd piece).length ≥ limit then (done ++ trimEnd line, lineStart ++ piece)
  else (done, line ++ piece)

/-- The bracketed labels as an index summary lays them out, ending in `", "` or in a line break
before the attributes. -/
def summaryText (items : List String) (justify : Bool) : String :=
  match items with
  | [] => "[], "
  | [a] => "[" ++ a ++ "], "
  | [a, b] => "[" ++ a ++ ", " ++ b ++ "], "
  | _ =>
    let n := items.length
    let truncated := n > 100
    let head := if truncated then items.take 10 else []
    let tail := if truncated then items.drop (n - 10) else items
    let joined (xs : List String) : Nat := (", ".intercalate xs).length
    let widest (xs : List String) : Nat := xs.foldl (fun m x => max m x.length) 0
    let pad := justify && (truncated || !(joined head < 80 && joined tail < 80))
    let w := max (widest head) (widest tail)
    let head := if pad then head.map (padLeft w) else head
    let tail := if pad then tail.map (padLeft w) else tail
    let acc := head.foldl (fun acc h => extendLine 80 acc (h ++ ", ")) ("", lineStart)
    let acc := if truncated then (acc.1 ++ trimEnd acc.2 ++ lineStart ++ "...", lineStart) else acc
    let acc := tail.dropLast.foldl (fun acc t => extendLine 80 acc (t ++ ", ")) acc
    let (done, line) := extendLine 78 acc (tail.getLastD "")
    let s := done ++ line ++ "],"
    let s := if s.length > 80 then s ++ "\n      " else s ++ " "
    "[" ++ String.ofList (s.toList.drop lineStart.length)

/-- The index as messages print it (see the module comment). -/
def Labels.text (l : Labels) : String :=
  let items := l.items.map Label.text
  let justify := !(l.kind == .object && !l.items.isEmpty && l.items.all Label.isText)
  "Index(" ++ summaryText items justify ++ "dtype='" ++ l.kind.name ++ "'" ++
    (if items.length > 100 then ", length=" ++ toString items.length else "") ++ ")"

end Tabula.Query
