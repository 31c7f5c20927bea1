import Tabula.Text.Blank
import Tabula.Text.Unicode

/-!
Character classes and case for pattern matching, on code points: digits, word characters and
blanks, each keeping only its ASCII members under the ASCII option. Matching without regard to case
compares small forms, and two letters whose small forms are among `Unicode.caseEquivalents` match;
under the ASCII option only `A`–`Z` have small forms. Beyond the basic plane a class compares the
text character's small form as it stands (`ClassItem.holdsFolded`).
-/

namespace Tabula.Regex

def isAsciiDigit (n : Nat) : Bool := 0x30 ≤ n && n ≤ 0x39

def isAsciiWord (n : Nat) : Bool :=
  isAsciiDigit n || (0x41 ≤ n && n ≤ 0x5A) || (0x61 ≤ n && n ≤ 0x7A) || n == 0x5F

def isDigitPoint (ascii : Bool) (n : Nat) : Bool :=
  if ascii then isAsciiDigit n else Unicode.isDecimal n

def isWordPoint (ascii : Bool) (n : Nat) : Bool :=
  if ascii then isAsciiWord n else Unicode.isWord n

def isSpacePoint (ascii : Bool) (n : Nat) : Bool :=
  if ascii then n == 0x20 || (0x09 ≤ n && n ≤ 0x0D) else Text.isBlank n

def lowerPoint (n : Nat) : Nat := Unicode.toLower n

def upperPoint (n : Nat) : Nat := Unicode.toUpper n

def asciiLower (n : Nat) : Nat := if 0x41 ≤ n && n ≤ 0x5A then n + 32 else n

example : asciiLower 0x41 = 0x61 := rfl

/-- How letters compare: exactly, or by small forms of ASCII letters, or of all letters. -/
inductive Fold where
  | exact
  | ascii
  | unicode
  deriving DecidableEq, Repr, Inhabited

/-- The form a code point is compared in. -/
def Fold.lower : Fold → Nat → Nat
  | .exact, n => n
  | .ascii, n => asciiLower n
  | .unicode, n => lowerPoint n

/-- Has the code point a case under the fold? -/
def Fold.cased : Fold → Nat → Bool
  | .exact, _ => false
  | .ascii, n => (0x41 ≤ n && n ≤ 0x5A) || (0x61 ≤ n && n ≤ 0x7A)
  | .unicode, n => Unicode.isCased n

/-- The small letters matching the small letter `n` besides itself. -/
def equivalentsOf (n : Nat) : List Nat :=
  match Unicode.caseEquivalents.find? (·.contains n) with
  | some cls => cls.filter (· != n)
  | none => []

/-- Does the text character `x` match the pattern character `c`? -/
def Fold.matches (f : Fold) (c x : Nat) : Bool :=
  if !f.cased c then x == c
  else
    let y := f.lower x
    let lo := f.lower c
    y == lo || (f == .unicode && (equivalentsOf lo).contains y)

/-- The code points whose compared form is `y`. -/
def Fold.preimages (f : Fold) (y : Nat) : List Nat :=
  match f with
  | .exact => [y]
  | .ascii => (if asciiLower y == y then [y] else []) ++ (if 0x61 ≤ y && y ≤ 0x7A then [y - 32] else [])
  | .unicode =>
    let extras := (Unicode.extraCapitals.toList.filter (·.1 == y)).map (·.2)
    ([y, upperPoint y] ++ extras).filter fun i => lowerPoint i == y

/-- Does the range `[lo, hi]` hold a code point whose compared form is `y`, or one whose compared
form is equivalent to `y`? -/
def Fold.rangeHolds (f : Fold) (lo hi y : Nat) : Bool :=
  let targets := if f == .unicode then y :: equivalentsOf y else [y]
  targets.any fun t => (f.preimages t).any fun i => lo ≤ i && i ≤ hi

end Tabula.Regex
