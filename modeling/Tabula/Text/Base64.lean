/-!
Base64 with the standard alphabet and `=` padding.

`encode` writes three bytes as four characters, a final pair as three characters and one `=`, a
final single byte as two characters and `==`. `decode` reads the characters of the alphabet,
skips every other character, and drops bits that do not fill a byte.
-/

namespace Tabula.Text.Base64

def alphabet : List Char :=
  "ABCDEFGHIJKLMNOPQRSTUVWXYZabcdefghijklmnopqrstuvwxyz0123456789+/".toList

def digit (n : Nat) : Char := alphabet.getD n '='

/-- Four characters for three bytes, fewer and padding for a short final group. -/
def encodeGroups : List UInt8 → List Char
  | [] => []
  | [a] =>
    let n := a.toNat * 65536
    [digit (n / 262144), digit (n / 4096 % 64), '=', '=']
  | [a, b] =>
    let n := a.toNat * 65536 + b.toNat * 256
    [digit (n / 262144), digit (n / 4096 % 64), digit (n / 64 % 64), '=']
  | a :: b :: c :: rest =>
    let n := a.toNat * 65536 + b.toNat * 256 + c.toNat
    digit (n / 262144) :: digit (n / 4096 % 64) :: digit (n / 64 % 64) :: digit (n % 64) ::
      encodeGroups rest

def encode (bs : List UInt8) : String := String.ofList (encodeGroups bs)

/-- The value of an alphabet character. -/
def value? (c : Char) : Option Nat :=
  if 'A' ≤ c && c ≤ 'Z' then some (c.toNat - 'A'.toNat)
  else if 'a' ≤ c && c ≤ 'z' then some (c.toNat - 'a'.toNat + 26)
  else if '0' ≤ c && c ≤ '9' then some (c.toNat - '0'.toNat + 52)
  else if c == '+' then some 62
  else if c == '/' then some 63
  else none

/-- Bytes from six-bit values, four values making three bytes. -/
def bytesOf : List Nat → List UInt8
  | a :: b :: c :: d :: rest =>
    let n := a * 262144 + b * 4096 + c * 64 + d
    (n / 65536).toUInt8 :: (n / 256 % 256).toUInt8 :: (n % 256).toUInt8 :: bytesOf rest
  | [a, b, c] =>
    let n := a * 262144 + b * 4096 + c * 64
    [(n / 65536).toUInt8, (n / 256 % 256).toUInt8]
  | [a, b] => [((a * 262144 + b * 4096) / 65536).toUInt8]
  | _ => []

def decode (s : String) : List UInt8 := bytesOf (s.toList.filterMap value?)

end Tabula.Text.Base64
