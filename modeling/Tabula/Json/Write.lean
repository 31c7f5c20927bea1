import Tabula.Json.Value

/-!
Writing JSON text. `Value.pretty` is the configuration's printed form: two spaces of indentation
per level, one item per line, `,` at line ends and `": "` after keys, ASCII only with lowercase
`\uXXXX` escapes, and NaN and the infinities as words. `Value.compact` writes a value on one line,
escaping only what JSON must; answers are sent in it.
-/

namespace Tabula.Json

def hexDigit (n : Nat) : Char := "0123456789abcdef".toList.getD n '0'

def unitEscape (u : Nat) : List Char :=
  ['\\', 'u', hexDigit (u / 4096 % 16), hexDigit (u / 256 % 16), hexDigit (u / 16 % 16),
    hexDigit (u % 16)]

/-- One code point of a string body, ASCII only. -/
def asciiPoint (n : Nat) : List Char :=
  if n == 0x22 then ['\\', '"']
  else if n == 0x5C then ['\\', '\\']
  else if n == 0x0A then ['\\', 'n']
  else if n == 0x0D then ['\\', 'r']
  else if n == 0x09 then ['\\', 't']
  else if n == 0x08 then ['\\', 'b']
  else if n == 0x0C then ['\\', 'f']
  else if 0x20 ≤ n && n ≤ 0x7E then [Char.ofNat n]
  else if n < 0x10000 then unitEscape n
  else
    let v := n - 0x10000
    unitEscape (0xD800 + v / 0x400) ++ unitEscape (0xDC00 + v % 0x400)

def asciiString (t : Text) : String :=
  String.ofList ('"' :: t.points.flatMap asciiPoint ++ ['"'])

/-- One code point of a string body, written as itself where JSON allows. -/
def plainPoint (n : Nat) : List Char :=
  if n == 0x22 then ['\\', '"']
  else if n == 0x5C then ['\\', '\\']
  else if n < 0x20 || (0xD800 ≤ n && n ≤ 0xDFFF) then unitEscape n
  else [Char.ofNat n]

def plainString (t : Text) : String :=
  String.ofList ('"' :: t.points.flatMap plainPoint ++ ['"'])

/-- A float as the configuration prints it. -/
def floatText (x : Float) : String :=
  if x.isNaN then "NaN"
  else if x.isInf then (if x > 0 then "Infinity" else "-Infinity")
  else x.shortestText

def indentText (n : Nat) : String := String.ofList (List.replicate (2 * n) ' ')

namespace Value

mutual
/-- The printed form at nesting `level` (see the module comment). -/
def pretty (level : Nat) : Value → String
  | .null => "null"
  | .bool b => if b then "true" else "false"
  | .int n => intText n
  | .float x => floatText x
  | .str s => asciiString s
  | .arr [] => "[]"
  | .arr xs => "[\n" ++ prettyItems (level + 1) xs ++ "\n" ++ indentText level ++ "]"
  | .obj [] => "\x7b\x7d"
  | .obj fs => "\x7b\n" ++ prettyFields (level + 1) fs ++ "\n" ++ indentText level ++ "\x7d"

def prettyItems (level : Nat) : List Value → String
  | [] => ""
  | [v] => indentText level ++ pretty level v
  | v :: rest => indentText level ++ pretty level v ++ ",\n" ++ prettyItems level rest

def prettyFields (level : Nat) : List (Text × Value) → String
  | [] => ""
  | [(k, v)] => indentText level ++ asciiString k ++ ": " ++ pretty level v
  | (k, v) :: rest =>
    indentText level ++ asciiString k ++ ": " ++ pretty level v ++ ",\n" ++ prettyFields level rest
end

mutual
/-- The one-line form (see the module comment). -/
def compact : Value → String
  | .null => "null"
  | .bool b => if b then "true" else "false"
  | .int n => intText n
  | .float x => floatText x
  | .str s => plainString s
  | .arr xs => "[" ++ compactItems xs ++ "]"
  | .obj fs => "\x7b" ++ compactFields fs ++ "\x7d"

def compactItems : List Value → String
  | [] => ""
  | [v] => compact v
  | v :: rest => compact v ++ "," ++ compactItems rest

def compactFields : List (Text × Value) → String
  | [] => ""
  | [(k, v)] => plainString k ++ ":" ++ compact v
  | (k, v) :: rest => plainString k ++ ":" ++ compact v ++ "," ++ compactFields rest
end

end Value

end Tabula.Json
