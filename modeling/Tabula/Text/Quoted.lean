import Tabula.Text
import Tabula.Text.Unicode

/-!
Quoted text, the way messages show a text value.

The text goes between single quotes, or between double quotes when it holds a single quote and no
double quote. The chosen quote and the backslash are escaped with a backslash; tab, line feed and
carriage return are written `\t`, `\n`, `\r`; any other character that is not printable is written
`\xhh`, `\uhhhh` or `\Uhhhhhhhh` by its size. Printable are the graphic characters and the space
(`Tabula.Unicode.isPrintable`).
-/

namespace Tabula.Text

def isPrintable (n : Nat) : Bool := Unicode.isPrintable n

def hexDigit (n : Nat) : Char := "0123456789abcdef".toList.getD n '0'

def hexDigits : Nat → Nat → List Char
  | 0, _ => []
  | w + 1, n => hexDigits w (n / 16) ++ [hexDigit (n % 16)]

/-- One code point inside quotes `q`. -/
def quotedPoint (q : Nat) (n : Nat) : List Char :=
  if n == q || n == 0x5C then ['\\', Char.ofNat n]
  else if n == 0x09 then ['\\', 't']
  else if n == 0x0A then ['\\', 'n']
  else if n == 0x0D then ['\\', 'r']
  else if isPrintable n then [Char.ofNat n]
  else if n < 0x100 then '\\' :: 'x' :: hexDigits 2 n
  else if n < 0x10000 then '\\' :: 'u' :: hexDigits 4 n
  else '\\' :: 'U' :: hexDigits 8 n

/-- The quoted form of a text (see the module comment). -/
def quoted (t : Text) : String :=
  let q := if t.points.contains 0x27 && !t.points.contains 0x22 then 0x22 else 0x27
  let qc := Char.ofNat q
  String.ofList (qc :: t.points.flatMap (quotedPoint q) ++ [qc])

def quoteString (s : String) : String := quoted (ofString s)

end Tabula.Text
