/-!
Text as a sequence of Unicode code points.

Configuration values arrive as JSON, whose `\u` escapes can spell a lone surrogate
(`0xD800 … 0xDFFF`); `String` cannot hold one, so such values are kept as `Text`. Text that comes
from a table is always a `String` and enters by `Text.ofString`. Order on text is the order of
the code-point sequences, first difference deciding and a prefix first.
-/

namespace Tabula

/-- A sequence of code points, possibly with lone surrogates. -/
structure Text where
  points : List Nat
  deriving DecidableEq, Inhabited, Hashable, Repr

namespace Text

def ofString (s : String) : Text := ⟨s.toList.map Char.toNat⟩

instance : Append Text := ⟨fun a b => ⟨a.points ++ b.points⟩⟩

def isSurrogate (n : Nat) : Bool := 0xD800 ≤ n && n ≤ 0xDFFF

/-- The characters of the text, when each code point is a Unicode scalar value. -/
def toChars? : List Nat → Option (List Char)
  | [] => some []
  | n :: rest =>
    if h : n.isValidChar then (toChars? rest).map (Char.ofNatAux n h :: ·) else none

def toString? (t : Text) : Option String := (toChars? t.points).map String.ofList

/-- The text as a `String`, with any lone surrogate replaced by U+FFFD. -/
def toStringLossy (t : Text) : String :=
  String.ofList (t.points.map fun n => if h : n.isValidChar then Char.ofNatAux n h else '�')

/-- Lexicographic comparison of code-point sequences. -/
def compareLex : List Nat → List Nat → Ordering
  | [], [] => .eq
  | [], _ :: _ => .lt
  | _ :: _, [] => .gt
  | a :: as, b :: bs => if a < b then .lt else if b < a then .gt else compareLex as bs

instance : Ord Text := ⟨fun a b => compareLex a.points b.points⟩

def eqString (t : Text) (s : String) : Bool := t.points == s.toList.map Char.toNat

theorem ofString_points (s : String) : (ofString s).points = s.toList.map Char.toNat := rfl

theorem compareLex_self (xs : List Nat) : compareLex xs xs = .eq := by
  induction xs with
  | nil => rfl
  | cons a as ih => simp [compareLex, ih]

end Text

end Tabula
