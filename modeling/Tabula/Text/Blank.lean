import Tabula.Text

/-!
Blank characters: the Unicode characters whose bidirectional class is whitespace, segment
separator or paragraph separator, or whose category is a space separator. These are the
characters that `strip` removes from both ends of a text and that a number may be surrounded by.
-/

namespace Tabula.Text

/-- The blank code points: tab, line feed, vertical tab, form feed, carriage return, the
information separators `1C`–`1F`, space, next line, no-break space, ogham space mark, the spaces
`2000`–`200A`, the line and paragraph separators, narrow no-break space, medium mathematical
space and ideographic space. -/
def isBlank (n : Nat) : Bool :=
  (0x09 ≤ n && n ≤ 0x0D) || (0x1C ≤ n && n ≤ 0x20) || n == 0x85 || n == 0xA0 || n == 0x1680 ||
    (0x2000 ≤ n && n ≤ 0x200A) || n == 0x2028 || n == 0x2029 || n == 0x202F || n == 0x205F ||
    n == 0x3000

example : isBlank 0x20 = true := rfl

def stripPoints (xs : List Nat) : List Nat :=
  ((xs.dropWhile isBlank).reverse.dropWhile isBlank).reverse

def strip (t : Text) : Text := ⟨stripPoints t.points⟩

/-- Removes blanks from both ends of a string. -/
def stripString (s : String) : String :=
  let cs := s.toList
  let p := fun (c : Char) => isBlank c.toNat
  String.ofList ((cs.dropWhile p).reverse.dropWhile p).reverse

end Tabula.Text
