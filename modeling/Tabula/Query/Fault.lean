import Tabula.Json.Value
import Tabula.Regex.Syntax
import Tabula.Query.Block

/-!
Why a query fails.

Each fault is a cause with the data that its message needs. `Fault.kind` is the class of the
failure as answers name it and `Fault.message` its text; both are spelled here and nowhere else.
-/

namespace Tabula.Query

open Json

/-- The comparison operators of filter rules. -/
inductive Op where
  | eq
  | ne
  | gt
  | ge
  | lt
  | le
  deriving DecidableEq, Repr

def Op.symbol : Op → String
  | .eq => "=="
  | .ne => "!="
  | .gt => ">"
  | .ge => ">="
  | .lt => "<"
  | .le => "<="

/-- A cause of failure. -/
inductive Fault where
  | missingKey (key : Value)
  | missingText (text : String)
  | notSubscriptable (typeName : String)
  | listIndex
  | textIndex
  | notIterable (typeName : String)
  | noAttribute (typeName attr : String)
  | invalidComparison (kind : String) (typeName : String)
  | unorderable (op : Op) (left right : String)
  | lengthMismatch (rows : Nat) (shape : List Nat)
  | shapesDiffer (rows : Nat) (shape : List Nat)
  | badBlock (e : BlockError)
  | dataNotFlat (shape : List Nat)
  | broadcast (left right : List Nat)
  | indexNotFlat
  | indexDepth (depth : Nat)
  | intTooLarge
  | pattern (source : List Nat) (e : Regex.Error)
  | brokenSpan
  | badAscending (typeName : String)
  | ambiguousLabel (label : String)
  | unexpectedKeyword (owner keyword : String)
  | noGroupKeys
  | nothingToJoin
  | missingColumns (names : List Value)
  | unknownAggregation (name : Text)
  | aggregationFailed (how : String)
  | notANumber (text : Text)
  | badOperands (left right : String)
  | badConcat (right : String)
  | objectIndexer
  | wrongLength (items rows : Nat)
  | unhashable (typeName : String)
  | noGrouper
  | notOneDimensional (name : String)
  | missingFunction
  | notAPair (length : Nat)
  | nameNotText (place : Nat) (typeName : String)
  | notCallable (typeName : String)
  | nestedRenamer
  | duplicateColumn (name : List String)
  | scalarsOnly
  | levelsDiffer
  | missingArgument (owner method argument : String)
  | noFillValue
  | notSupported (how kind : String)
  | quantileOfObjects
  | noNumbers
  | cannotRank (method kind : String)
  | noWindow
  | noDecay
  | badOperation (op left right : String)
  | divisionByZero (float : Bool)
  | grouperLength
  | notConcatenable (typeName : String)
  | missingLabel (spelling : String)
  | maskLength (items rows : Nat)
  | unalignable
  | maskAxis (rows items : Nat)
  | tooManyIndices (dims : Nat)
  | noLoop (op : Op) (dtype : String)
  deriving Inhabited

/-- The class of the failure. -/
def Fault.kind : Fault → String
  | .missingKey _ | .missingText _ | .missingColumns _ => "KeyError"
  | .notSubscriptable _ | .listIndex | .textIndex | .notIterable _ | .invalidComparison .. => "TypeError"
  | .unorderable .. | .unexpectedKeyword .. | .aggregationFailed _ => "TypeError"
  | .badOperands .. | .badConcat _ | .objectIndexer | .unhashable _ | .noGrouper => "TypeError"
  | .missingFunction | .notCallable _ | .nameNotText .. | .missingArgument .. => "TypeError"
  | .notSupported .. | .quantileOfObjects | .cannotRank .. | .badOperation .. => "TypeError"
  | .notConcatenable _ => "TypeError"
  | .missingLabel _ => "KeyError"
  | .maskLength .. | .maskAxis .. | .tooManyIndices _ => "IndexError"
  | .unalignable => "IndexingError"
  | .noLoop .. => "UFuncTypeError"
  | .noNumbers => "DataError"
  | .levelsDiffer => "AssertionError"
  | .divisionByZero _ => "ZeroDivisionError"
  | .scalarsOnly | .noFillValue | .noWindow | .noDecay | .grouperLength => "ValueError"
  | .nestedRenamer => "SpecificationError"
  | .noAttribute .. | .unknownAggregation _ => "AttributeError"
  | .pattern _ e => e.className
  | .brokenSpan => "SystemError"
  | .intTooLarge => "OverflowError"
  | .shapesDiffer .. | .badBlock _ | .dataNotFlat _ | .broadcast .. | .indexNotFlat
  | .indexDepth _ => "ValueError"
  | .lengthMismatch .. | .badAscending _ | .ambiguousLabel _ | .noGroupKeys | .nothingToJoin
  | .notANumber _ | .wrongLength .. | .notOneDimensional _ | .duplicateColumn _ | .notAPair _ =>
    "ValueError"

/-- The name of a comparison as a function on arrays. -/
def Op.ufuncName : Op → String
  | .eq => "equal"
  | .ne => "not_equal"
  | .gt => "greater"
  | .ge => "greater_equal"
  | .lt => "less"
  | .le => "less_equal"

def listText (vs : List Value) : String := Value.literal (.arr vs)

/-- A shape without blanks: `(2,)`, `(2,3)`. -/
def tightShape (shape : List Nat) : String :=
  match shape with
  | [n] => "(" ++ toString n ++ ",)"
  | ns => "(" ++ ",".intercalate (ns.map toString) ++ ")"

/-- The message of the failure as a `String`; a pattern's text and a function name, which may
hold a lone surrogate, lose it here (see `Fault.message`). -/
def Fault.stringMessage : Fault → String
  | .missingKey k => k.literal
  | .missingText t => Text.quoteString t
  | .notSubscriptable t => "'" ++ t ++ "' object is not subscriptable"
  | .listIndex => "list indices must be integers or slices, not str"
  | .textIndex => "string indices must be integers, not 'str'"
  | .notIterable t => "'" ++ t ++ "' object is not iterable"
  | .noAttribute t a => "'" ++ t ++ "' object has no attribute '" ++ a ++ "'"
  | .invalidComparison k t => "Invalid comparison between dtype=" ++ k ++ " and " ++ t
  | .unorderable op l r =>
    "'" ++ op.symbol ++ "' not supported between instances of '" ++ l ++ "' and '" ++ r ++ "'"
  | .lengthMismatch rows shape =>
    "('Lengths must match to compare', (" ++ toString rows ++ ",), " ++ shapeText shape ++ ")"
  | .shapesDiffer rows shape =>
    "('Shapes must match', (" ++ toString rows ++ ",), " ++ shapeText shape ++ ")"
  | .badBlock e => e.message
  | .dataNotFlat shape =>
    "Data must be 1-dimensional, got ndarray of shape " ++ shapeText shape ++ " instead"
  | .broadcast l r =>
    "operands could not be broadcast together with shapes " ++ tightShape l ++ " " ++
      tightShape r ++ " "
  | .indexNotFlat => "Index data must be 1-dimensional"
  | .indexDepth n => toString n
  | .intTooLarge => "int too large to convert to float"
  | .pattern src e => (e.message src).toStringLossy
  | .brokenSpan => Regex.brokenSpanMessage
  | .badAscending t => "For argument \"ascending\" expected type bool, received type " ++ t ++ "."
  | .ambiguousLabel l => "The column label '" ++ l ++ "' is not unique."
  | .unexpectedKeyword owner kw => owner ++ "() got an unexpected keyword argument '" ++ kw ++ "'"
  | .noGroupKeys => "No group keys passed!"
  | .nothingToJoin => "No objects to concatenate"
  | .missingColumns ns => Text.quoteString ("Column(s) " ++ listText ns ++ " do not exist")
  | .unknownAggregation f => "'SeriesGroupBy' object has no attribute '" ++ f.toStringLossy ++ "'"
  | .aggregationFailed how => "agg function failed [how->" ++ how ++ ",dtype->object]"
  | .notANumber t => "could not convert string to float: " ++ Text.quoted t
  | .badOperands l r => "unsupported operand type(s) for +: '" ++ l ++ "' and '" ++ r ++ "'"
  | .badConcat r => "can only concatenate str (not \"" ++ r ++ "\") to str"
  | .objectIndexer => "Passing a dict as an indexer is not supported. Use a list instead."
  | .wrongLength items rows =>
    "Item wrong length " ++ toString items ++ " instead of " ++ toString rows ++ "."
  | .unhashable t => "unhashable type: '" ++ t ++ "'"
  | .noGrouper => "You have to supply one of 'by' and 'level'"
  | .notOneDimensional n => "Grouper for '" ++ n ++ "' not 1-dimensional"
  | .missingFunction => "Must provide 'func' or named aggregation **kwargs."
  | .notAPair n =>
    if n < 2 then "not enough values to unpack (expected 2, got " ++ toString n ++ ")"
    else "too many values to unpack (expected 2)"
  | .nameNotText i t => "sequence item " ++ toString i ++ ": expected str instance, " ++ t ++ " found"
  | .notCallable t => "'" ++ t ++ "' object is not callable"
  | .nestedRenamer => "nested renamer is not supported"
  | .duplicateColumn [n] => "cannot insert " ++ n ++ ", already exists"
  | .duplicateColumn ns => "cannot insert (" ++ ", ".intercalate (ns.map Text.quoteString) ++ "), already exists"
  | .scalarsOnly => "If using all scalar values, you must pass an index"
  | .levelsDiffer => "Cannot concat indices that do not have the same number of levels"
  | .missingArgument owner m a =>
    owner ++ "." ++ m ++ "() missing 1 required positional argument: '" ++ a ++ "'"
  | .noFillValue => "Must specify a fill 'value' or 'method'."
  | .notSupported how k => how ++ " is not supported for " ++ k ++ " dtype"
  | .quantileOfObjects => "'quantile' cannot be performed against 'object' dtypes!"
  | .noNumbers => "No numeric types to aggregate"
  | .cannotRank m k => "Cannot use method '" ++ m ++ "' with dtype " ++ k
  | .noWindow => "window must be an integer 0 or greater"
  | .noDecay => "Must pass one of comass, span, halflife, or alpha"
  | .badOperation op l r => "unsupported operand type(s) for " ++ op ++ ": '" ++ l ++ "' and '" ++ r ++ "'"
  | .divisionByZero float => if float then "float division by zero" else "division by zero"
  | .grouperLength => "Grouper and axis must be same length"
  | .notConcatenable t =>
    "cannot concatenate object of type '<class '" ++ t ++ "'>'; only Series and DataFrame objs are valid"
  | .missingLabel s => s
  | .maskLength items rows =>
    "Boolean index has wrong length: " ++ toString items ++ " instead of " ++ toString rows
  | .unalignable =>
    "Unalignable boolean Series provided as indexer (index of the boolean Series and of the " ++
      "indexed object do not match)."
  | .maskAxis rows items =>
    "boolean index did not match indexed array along axis 0; size of axis is " ++ toString rows ++
      " but size of corresponding boolean axis is " ++ toString items
  | .tooManyIndices dims =>
    "too many indices for array: array is 1-dimensional, but " ++ toString dims ++ " were indexed"
  | .noLoop op dtype =>
    "ufunc '" ++ op.ufuncName ++ "' did not contain a loop with signature matching types " ++
      "(<class 'numpy.dtypes." ++ dtype ++ "'>, <class 'numpy.dtypes.StrDType'>) -> None"

/-- The message of the failure. A pattern's syntax error and an unknown function name repeat the
configuration's text as it is, lone surrogates included. -/
def Fault.message (f : Fault) : Text :=
  match f with
  | .pattern src e => e.message src
  | .unknownAggregation name =>
    Text.ofString "'SeriesGroupBy' object has no attribute '" ++ name ++ Text.ofString "'"
  | _ => Text.ofString f.stringMessage

end Tabula.Query
