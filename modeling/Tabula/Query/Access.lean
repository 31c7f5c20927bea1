import Tabula.Query.Fault
import Tabula.Decimal.Read

/-!
Reading the configuration.

The configuration is any JSON value, so reading it follows the dynamic rules of the values
themselves: only an object has keys (a list, a text and a scalar each refuse a text key in their
own way), and iterating goes over a list's items, an object's keys or a text's characters.
`numberOf?` is how a filter value is read as a number: a number stays itself, a boolean is 0
or 1, a text is read by `Decimal.readNumber?`, and anything else is not a number.
-/

namespace Tabula.Query

open Json

/-- `v[key]` for a text key. -/
def index (v : Value) (key : String) : Except Fault Value :=
  match v with
  | .obj fs =>
    match Value.lookup fs (Text.ofString key) with
    | some x => .ok x
    | none => .error (.missingKey (Value.ofString key))
  | .arr _ => .error .listIndex
  | .str _ => .error .textIndex
  | other => .error (.notSubscriptable other.typeName)

/-- The items met when iterating over `v`. -/
def members (v : Value) : Except Fault (List Value) :=
  match v with
  | .arr xs => .ok xs
  | .obj fs => .ok (fs.map fun (k, _) => .str k)
  | .str s => .ok (s.points.map fun p => .str ⟨[p]⟩)
  | other => .error (.notIterable other.typeName)

/-- A value read as a double, when it is one. -/
def numberOf? : Value → Option Float
  | .float x => some x
  | .int n =>
    let x := Float.ofInt n
    if x.isInf then none else some x
  | .bool b => some (if b then 1 else 0)
  | .str s => Decimal.readNumber? s
  | _ => none

end Tabula.Query
