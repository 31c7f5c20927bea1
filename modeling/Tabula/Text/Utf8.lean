import Tabula.Text

/-!
UTF-8 with strict decoding and encoding. `decode` stops at the first ill-formed sequence and
names it the way a strict decoder does: a byte that cannot start a character, one that cannot
continue it, or input that ends inside one; overlong forms, surrogates and code points past
`10FFFF` are refused at their second byte. `encodeStrict` refuses a text holding surrogates,
naming the first run of them.
-/

namespace Tabula.Text.Utf8

/-- Why a byte sequence is not UTF-8. -/
inductive Reason where
  | invalidStart
  | invalidContinuation
  | unexpectedEnd
  deriving DecidableEq, Repr

/-- The offending range `[start, stop)` of the input, with the byte at `start`. -/
structure DecodeError where
  reason : Reason
  start : Nat
  stop : Nat
  lead : UInt8
  deriving DecidableEq, Repr

def hex2 (b : UInt8) : String :=
  let d := fun (n : Nat) => "0123456789abcdef".toList.getD n '0'
  String.ofList [d (b.toNat / 16), d (b.toNat % 16)]

def Reason.text : Reason → String
  | .invalidStart => "invalid start byte"
  | .invalidContinuation => "invalid continuation byte"
  | .unexpectedEnd => "unexpected end of data"

/-- The report of a strict decoder: one byte is named with its value, a longer range by its ends. -/
def DecodeError.message (e : DecodeError) : String :=
  if e.stop = e.start + 1 then
    "'utf-8' codec can't decode byte 0x" ++ hex2 e.lead ++ " in position " ++ toString e.start ++
      ": " ++ e.reason.text
  else
    "'utf-8' codec can't decode bytes in position " ++ toString e.start ++ "-" ++
      toString (e.stop - 1) ++ ": " ++ e.reason.text

def isCont (b : UInt8) : Bool := b &&& 0xC0 == 0x80

/-- The second byte of a sequence led by `b0` is acceptable: a continuation byte that is neither
overlong nor a surrogate nor past `10FFFF`. -/
def secondOk (b0 b1 : UInt8) : Bool :=
  isCont b1 &&
    (if b0 == 0xE0 then 0xA0 ≤ b1
     else if b0 == 0xED then b1 < 0xA0
     else if b0 == 0xF0 then 0x90 ≤ b1
     else if b0 == 0xF4 then b1 < 0x90
     else true)

def low6 (b : UInt8) : Nat := (b &&& 0x3F).toNat

/-- The character with code point `n`; `n` is a scalar value wherever this is used. -/
def charOf (n : Nat) : Char := Char.ofNat n

/-- Decodes `bs`, whose first byte sits at offset `pos` of an input of `total` bytes. -/
def decodeFrom (total : Nat) (pos : Nat) (acc : Array Char) :
    List UInt8 → Except DecodeError (Array Char)
  | [] => .ok acc
  | b0 :: rest =>
    let bad (r : Reason) (len : Nat) : Except DecodeError (Array Char) :=
      .error ⟨r, pos, pos + len, b0⟩
    let cutShort : Except DecodeError (Array Char) := .error ⟨.unexpectedEnd, pos, total, b0⟩
    if b0 < 0x80 then decodeFrom total (pos + 1) (acc.push (charOf b0.toNat)) rest
    else if b0 < 0xC2 then bad .invalidStart 1
    else if b0 < 0xE0 then
      match rest with
      | [] => cutShort
      | b1 :: r =>
        if isCont b1 then
          decodeFrom total (pos + 2) (acc.push (charOf ((b0 &&& 0x1F).toNat * 64 + low6 b1))) r
        else bad .invalidContinuation 1
    else if b0 < 0xF0 then
      match rest with
      | [] => cutShort
      | [b1] => if secondOk b0 b1 then cutShort else bad .invalidContinuation 1
      | b1 :: b2 :: r =>
        if !secondOk b0 b1 then bad .invalidContinuation 1
        else if !isCont b2 then bad .invalidContinuation 2
        else
          decodeFrom total (pos + 3)
            (acc.push (charOf ((b0 &&& 0x0F).toNat * 4096 + low6 b1 * 64 + low6 b2))) r
    else if b0 < 0xF5 then
      match rest with
      | [] => cutShort
      | [b1] => if secondOk b0 b1 then cutShort else bad .invalidContinuation 1
      | [b1, b2] =>
        if !secondOk b0 b1 then bad .invalidContinuation 1
        else if !isCont b2 then bad .invalidContinuation 2
        else cutShort
      | b1 :: b2 :: b3 :: r =>
        if !secondOk b0 b1 then bad .invalidContinuation 1
        else if !isCont b2 then bad .invalidContinuation 2
        else if !isCont b3 then bad .invalidContinuation 3
        else
          decodeFrom total (pos + 4)
            (acc.push (charOf ((b0 &&& 0x07).toNat * 262144 + low6 b1 * 4096 + low6 b2 * 64 +
              low6 b3))) r
    else bad .invalidStart 1

/-- Strict decoding of a whole input. -/
def decode (bs : List UInt8) : Except DecodeError (List Char) :=
  (decodeFrom bs.length 0 #[] bs).map Array.toList

/-- The UTF-8 bytes of one code point; a lone surrogate is written in the three-byte form. -/
def encodePoint (n : Nat) : List UInt8 :=
  if n < 0x80 then [n.toUInt8]
  else if n < 0x800 then [(0xC0 + n / 64).toUInt8, (0x80 + n % 64).toUInt8]
  else if n < 0x10000 then
    [(0xE0 + n / 4096).toUInt8, (0x80 + n / 64 % 64).toUInt8, (0x80 + n % 64).toUInt8]
  else
    [(0xF0 + n / 262144).toUInt8, (0x80 + n / 4096 % 64).toUInt8, (0x80 + n / 64 % 64).toUInt8,
      (0x80 + n % 64).toUInt8]

def encode (t : Text) : List UInt8 := t.points.flatMap encodePoint

def isSurrogate (n : Nat) : Bool := 0xD800 ≤ n && n ≤ 0xDFFF

/-- A run of surrogates `[start, stop)` in a text, with the first of them. -/
structure EncodeError where
  start : Nat
  stop : Nat
  first : Nat
  deriving DecidableEq, Repr

def hex4 (n : Nat) : String :=
  let d := fun (k : Nat) => "0123456789abcdef".toList.getD k '0'
  String.ofList [d (n / 4096 % 16), d (n / 256 % 16), d (n / 16 % 16), d (n % 16)]

/-- The report of a strict encoder: one surrogate is named, a longer run by its ends. -/
def EncodeError.message (e : EncodeError) : String :=
  if e.stop = e.start + 1 then
    "'utf-8' codec can't encode character '\\u" ++ hex4 e.first ++ "' in position " ++
      toString e.start ++ ": surrogates not allowed"
  else
    "'utf-8' codec can't encode characters in position " ++ toString e.start ++ "-" ++
      toString (e.stop - 1) ++ ": surrogates not allowed"

/-- The first run of surrogates in a text, which strict encoding reports. -/
def surrogateRun? (t : Text) : Option EncodeError :=
  let indexed := t.points.zipIdx
  match indexed.find? (fun (n, _) => isSurrogate n) with
  | none => none
  | some (n, i) =>
    let run := ((indexed.drop i).takeWhile (fun (m, _) => isSurrogate m)).length
    some ⟨i, i + run, n⟩

/-- Strict encoding: the bytes of the text, or the first run of surrogates in it. -/
def encodeStrict (t : Text) : Except EncodeError (List UInt8) :=
  match surrogateRun? t with
  | none => .ok (encode t)
  | some e => .error e

end Tabula.Text.Utf8
