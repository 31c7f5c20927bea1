import Tabula.Text.Quoted
import Tabula.Decimal.Format

/-!
JSON values as the configuration holds them.

Objects keep their fields in insertion order, a key written twice keeping its first place and its
last value. Integers are exact and kept apart from floating-point numbers; strings are `Text`, so a
lone surrogate from a `\u` escape survives. Beside the data the module gives the dynamic reading
of a value used by the query: its type name, its truth value, and the two ways a value is spelled
in messages (`literal`, which quotes strings, and `display`, which does not quote a top-level string).
-/

namespace Tabula.Json

/-- A JSON value. -/
inductive Value where
  | null
  | bool (b : Bool)
  | int (n : Int)
  | float (x : Float)
  | str (s : Text)
  | arr (items : List Value)
  | obj (fields : List (Text × Value))
  deriving Inhabited

namespace Value

def ofString (s : String) : Value := .str (Text.ofString s)

/-- The name of the value's type as messages give it. -/
def typeName : Value → String
  | .null => "NoneType"
  | .bool _ => "bool"
  | .int _ => "int"
  | .float _ => "float"
  | .str _ => "str"
  | .arr _ => "list"
  | .obj _ => "dict"

/-- The truth value: `null`, `false`, zero, and empty strings, lists and objects are false. -/
def truthy : Value → Bool
  | .null => false
  | .bool b => b
  | .int n => n != 0
  | .float x => x != 0
  | .str s => !s.points.isEmpty
  | .arr xs => !xs.isEmpty
  | .obj fs => !fs.isEmpty

def lookup (fields : List (Text × Value)) (key : Text) : Option Value :=
  (fields.find? (·.1 == key)).map (·.2)

/-- Stores `v` under `key`: a key already present keeps its place, a new key goes last. -/
def setField (fields : List (Text × Value)) (key : Text) (v : Value) : List (Text × Value) :=
  if fields.any (·.1 == key) then fields.map fun (k, w) => if k == key then (k, v) else (k, w)
  else fields ++ [(key, v)]

def intText (n : Int) : String := if n < 0 then "-" ++ toString n.natAbs else toString n.natAbs

mutual
/-- A value as messages spell it inside brackets: strings quoted, `None`, `True`, `False`,
numbers in their shortest form, lists in brackets and objects in braces, items after `, `. -/
def literal : Value → String
  | .null => "None"
  | .bool b => if b then "True" else "False"
  | .int n => intText n
  | .float x => x.shortestText
  | .str s => Text.quoted s
  | .arr xs => "[" ++ literalItems xs ++ "]"
  | .obj fs => "\x7b" ++ literalFields fs ++ "\x7d"

def literalItems : List Value → String
  | [] => ""
  | [v] => literal v
  | v :: rest => literal v ++ ", " ++ literalItems rest

def literalFields : List (Text × Value) → String
  | [] => ""
  | [(k, v)] => Text.quoted k ++ ": " ++ literal v
  | (k, v) :: rest => Text.quoted k ++ ": " ++ literal v ++ ", " ++ literalFields rest
end

/-- A value as messages spell it on its own: a string as it is, anything else as `literal`. -/
def display : Value → Text
  | .str s => s
  | v => Text.ofString (literal v)

end Value

end Tabula.Json
