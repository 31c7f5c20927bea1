import Tabula.Regex.Chars
import Tabula.Text.Quoted
import Tabula.Text.Letters
import Tabula.Text.CharNames

/-!
Regular expression syntax: a pattern is read into `Node`s, or refused with a reason and a
position. It has escapes, classes, anchors, numbered and named groups, look-around, atomic groups,
conditionals, comments, global and scoped flags, and greedy, lazy and possessive quantifiers; each
node carries the flags it obeys. The tree is kept in the shape the compiler expects: plain groups
are inlined, a first item common to all alternatives is moved out, and alternatives of single
characters become a class. A look-behind must have a fixed width below `2^31` and may not refer to
a group that is still open or that it defines.
-/

namespace Tabula.Regex

/-- Options of a pattern. -/
structure Flags where
  icase : Bool := false
  multiline : Bool := false
  dotall : Bool := false
  verbose : Bool := false
  ascii : Bool := false
  deriving DecidableEq, Repr, Inhabited

/-- A member of a class. -/
inductive ClassItem where
  | point (n : Nat)
  | range (lo hi : Nat)
  | digit (negated : Bool)
  | word (negated : Bool)
  | space (negated : Bool)
  deriving DecidableEq, Repr

/-- Zero-width positions. -/
inductive Anchor where
  | lineStart
  | lineEnd
  | textStart
  | textEnd
  | boundary
  | notBoundary
  deriving DecidableEq, Repr

/-- How a quantifier backtracks. -/
inductive Greed where
  | greedy
  | lazy
  | possessive
  deriving DecidableEq, Repr

/-- A parsed pattern item. -/
inductive Node where
  /-- A code point, or (`negated`) any other code point. -/
  | literal (c : Nat) (negated : Bool) (fold : Fold)
  | any (dotall : Bool)
  | set (negated : Bool) (items : List ClassItem) (fold : Fold) (ascii : Bool)
  | anchor (a : Anchor) (multiline ascii : Bool)
  | branch (alternatives : List (List Node))
  /-- A group: numbered, or with flags of its own (`flagged`), or neither while being read. -/
  | group (index : Option Nat) (flagged : Bool) (body : List Node)
  | atomic (body : List Node)
  | rep (min : Nat) (max : Option Nat) (greed : Greed) (body : List Node)
  /-- A reference to a group, with the width the group was read with. -/
  | backref (index : Nat) (fold : Fold) (width : Nat × Nat)
  | cond (index : Nat) (yes no : List Node)
  | look (behind negated : Bool) (body : List Node)
  deriving Inhabited, Repr

def Flags.fold (fl : Flags) : Fold :=
  if !fl.icase then .exact else if fl.ascii then .ascii else .unicode

def Flags.literal (fl : Flags) (c : Nat) : Node := .literal c false fl.fold

/-- Has a class member a case under the fold? Under any fold a member reaching beyond the basic
plane counts as having one. -/
def ClassItem.cased (f : Fold) : ClassItem → Bool
  | .point n => f.cased n || (f != .exact && n ≥ 0x10000)
  | .range lo hi =>
    match f with
    | .exact => false
    | .ascii => hi ≥ 0x10000 || !(hi < 0x41 || lo > 0x7A || (lo > 0x5A && hi < 0x61))
    | .unicode => hi ≥ 0x10000 || Unicode.rangeCased lo hi
  | _ => false

def Flags.classNode (fl : Flags) (negated : Bool) (items : List ClassItem) : Node :=
  let f := fl.fold
  .set negated items (if items.any (ClassItem.cased f) then f else .exact) fl.ascii

def uniqueItems (items : List ClassItem) : List ClassItem :=
  items.foldl (fun acc i => if acc.contains i then acc else acc ++ [i]) []

/-- Do two items stand for the same single character or position? Only such items are compared;
any other two are different. -/
def Node.sameSimple : Node → Node → Bool
  | .literal a n f, .literal b m g => a == b && n == m && f == g
  | .any x, .any y => x == y
  | .set n xs f a, .set m ys g b => n == m && xs == ys && f == g && a == b
  | .anchor x m a, .anchor y n b => x == y && m == n && a == b
  | .backref i f _, .backref j g _ => i == j && f == g
  | _, _ => false

/-- The repetition bound, which also bounds widths: each part of a pattern counts its least width
up to `repeatBound - 1` and its greatest up to `repeatBound`. A part whose width reaches the
bound therefore no longer has a fixed width. -/
def repeatBound : Nat := 4294967295

/-- A width as a part of a pattern reports it (see `repeatBound`). -/
def capWidth (w : Nat × Nat) : Nat × Nat := (min w.1 (repeatBound - 1), min w.2 repeatBound)

mutual
/-- The least and greatest number of code points the item matches, each part inside it counted
by `capWidth`; a repetition without an upper bound counts `repeatBound` times. -/
def Node.width : Node → Nat × Nat
  | .literal .. | .any _ | .set .. => (1, 1)
  | .anchor .. | .look .. => (0, 0)
  | .branch alts => widthAlts alts
  | .group _ _ b | .atomic b => capWidth (widthSum b)
  | .rep mn mx _ b =>
    let (i, j) := capWidth (widthSum b)
    (i * mn, j * mx.getD repeatBound)
  | .backref _ _ w => w
  | .cond _ yes no =>
    let (i, j) := capWidth (widthSum yes)
    let (l, h) := capWidth (widthSum no)
    (min i l, max j h)

/-- The width of items in sequence, before the bound. -/
def widthSum : List Node → Nat × Nat
  | [] => (0, 0)
  | n :: rest =>
    let (a, b) := n.width
    let (c, d) := widthSum rest
    (a + c, b + d)

/-- The width of alternatives: the least and the greatest of theirs. -/
def widthAlts : List (List Node) → Nat × Nat
  | [] => (repeatBound - 1, 0)
  | b :: rest =>
    let (a, x) := capWidth (widthSum b)
    let (c, y) := widthAlts rest
    (min a c, max x y)
end

def widthSeq (items : List Node) : Nat × Nat := capWidth (widthSum items)

/-- Why a pattern is refused. -/
inductive Error where
  /-- A syntax error at a position of the pattern. -/
  | malformed (msg : Text) (pos : Nat)
  /-- A syntax error reported without a position. -/
  | plain (msg : String)
  /-- A repetition count too large to represent. -/
  | tooLarge
  /-- Flags of the whole pattern that cannot go together. -/
  | conflict (msg : String)
  /-- A pattern the matcher cannot run: a look-behind of `2^31` code points or more. -/
  | invalidCode
  deriving DecidableEq, Repr

/-- Is the error one of the pattern syntax (rather than of a count, flags or the matcher)? -/
def Error.isMalformed : Error → Bool
  | .malformed .. | .plain _ => true
  | _ => false

/-- The kind of failure the error is. -/
def Error.className : Error → String
  | .malformed .. | .plain _ => "error"
  | .tooLarge => "OverflowError"
  | .conflict _ => "ValueError"
  | .invalidCode => "RuntimeError"

/-- The error's message for a pattern of code points `pat`: a position is followed by its line
and column when the pattern spans lines. -/
def Error.message (pat : List Nat) : Error → Text
  | .malformed msg pos =>
    let base := msg ++ Text.ofString (" at position " ++ toString pos)
    if pat.contains 0x0A then
      let before := pat.take pos
      let line := before.count 0x0A + 1
      let col := (before.reverse.takeWhile (· != 0x0A)).length + 1
      base ++ Text.ofString (" (line " ++ toString line ++ ", column " ++ toString col ++ ")")
    else base
  | .plain msg => Text.ofString msg
  | .tooLarge => Text.ofString "the repetition number is too large"
  | .conflict msg => Text.ofString msg
  | .invalidCode => Text.ofString "invalid SRE code"

def maxRepeat : Nat := 4294967295

/-- The unread part of a pattern. -/
structure Src where
  rest : List Nat
  pos : Nat
  len : Nat

/-- The next token: one code point, or a backslash with the code point after it. -/
def Src.peek (s : Src) : List Nat :=
  match s.rest with
  | 0x5C :: c :: _ => [0x5C, c]
  | c :: _ => [c]
  | [] => []

/-- Moves past the next token. A pattern that then ends in a lone backslash is refused. -/
def Src.advance (s : Src) : Except Error Src :=
  let k := s.peek.length
  let s' : Src := ⟨s.rest.drop k, s.pos + k, s.len⟩
  if s'.rest == [0x5C] then .error (.malformed (Text.ofString "bad escape (end of pattern)") (s.len - 1)) else .ok s'

def Src.accept (s : Src) (c : Nat) : Except Error (Bool × Src) :=
  if s.peek == [c] then (s.advance).map fun s' => (true, s') else .ok (false, s)

def Src.error (s : Src) (msg : String) : Error := .malformed (Text.ofString msg) s.pos

/-- A syntax error `back` code points before the current position, its message repeating some
of the pattern's text. -/
def Src.errorBackText (s : Src) (msg : Text) (back : Nat) : Error := .malformed msg (s.pos - back)

def Src.errorBack (s : Src) (msg : String) (back : Nat) : Error := s.errorBackText (Text.ofString msg) back

def tokenText (t : List Nat) : Text := ⟨t⟩

def nameString (t : List Nat) : String := String.ofList (t.map Char.ofNat)

def isHexPoint (n : Nat) : Bool :=
  (0x30 ≤ n && n ≤ 0x39) || (0x61 ≤ n && n ≤ 0x66) || (0x41 ≤ n && n ≤ 0x46)

def isOctPoint (n : Nat) : Bool := 0x30 ≤ n && n ≤ 0x37
def isDecPoint (n : Nat) : Bool := 0x30 ≤ n && n ≤ 0x39

def hexValue (ds : List Nat) : Nat :=
  ds.foldl (fun v d => v * 16 + (if d ≤ 0x39 then d - 0x30 else if d ≤ 0x46 then d - 0x41 + 10 else d - 0x61 + 10)) 0

def octValue (ds : List Nat) : Nat := ds.foldl (fun v d => v * 8 + (d - 0x30)) 0
def decValue (ds : List Nat) : Nat := ds.foldl (fun v d => v * 10 + (d - 0x30)) 0

/-- Up to `n` single-point tokens satisfying `p`. -/
def Src.takeWhile (s : Src) (p : Nat → Bool) : Nat → Except Error (List Nat × Src)
  | 0 => .ok ([], s)
  | n + 1 =>
    match s.peek with
    | [c] =>
      if p c then do
        let s' ← s.advance
        let (cs, s'') ← s'.takeWhile p n
        pure (c :: cs, s'')
      else .ok ([], s)
    | _ => .ok ([], s)

def isAsciiLetter (n : Nat) : Bool := (0x41 ≤ n && n ≤ 0x5A) || (0x61 ≤ n && n ≤ 0x7A)

/-- The escapes that stand for one code point in and out of classes. -/
def simpleEscape? (c : Nat) : Option Nat :=
  if c == 0x61 then some 0x07
  else if c == 0x66 then some 0x0C
  else if c == 0x6E then some 0x0A
  else if c == 0x72 then some 0x0D
  else if c == 0x74 then some 0x09
  else if c == 0x76 then some 0x0B
  else if c == 0x5C then some 0x5C
  else none

/-- The class an escape letter names. -/
def classEscape? (c : Nat) : Option ClassItem :=
  if c == 0x64 then some (.digit false)
  else if c == 0x44 then some (.digit true)
  else if c == 0x77 then some (.word false)
  else if c == 0x57 then some (.word true)
  else if c == 0x73 then some (.space false)
  else if c == 0x53 then some (.space true)
  else none

/-- Reads up to `stop`, for names: the text and the source after `stop`. -/
def Src.until (s : Src) (stop : Nat) (what : String) : Nat → List Nat → Except Error (List Nat × Src)
  | 0, _ => .error (s.error ("missing " ++ what))
  | fuel + 1, acc =>
    match s.peek with
    | [] =>
      if acc.isEmpty then .error (s.error ("missing " ++ what))
      else
        .error (s.errorBackText
          (Text.ofString "missing " ++ tokenText [stop] ++ Text.ofString ", unterminated name")
          acc.length)
    | t =>
      match s.advance with
      | .error e => .error e
      | .ok s' =>
        if t == [stop] then
          if acc.isEmpty then .error (s'.errorBack ("missing " ++ what) 1) else .ok (acc.reverse, s')
        else s'.until stop what fuel (t.reverse ++ acc)

/-- A named character after `\N`: the name in braces, looked up as `Unicode.charOfName?` does.
A name holding a surrogate cannot be looked up at all, and the escape itself is refused. -/
def namedEscape (s : Src) : Except Error (Nat × Src) :=
  match s.peek with
  | [0x7B] =>
    match s.advance with
    | .error e => .error e
    | .ok s1 =>
      match s1.until 0x7D "character name" s1.len [] with
      | .error e => .error e
      | .ok (name, s2) =>
        if name.any fun c => 0xD800 ≤ c && c ≤ 0xDFFF then .error (s2.errorBack "bad escape \\N" 2)
        else match Unicode.charOfName? name with
          | some c => .ok (c, s2)
          | none =>
            .error (s2.errorBack ("undefined character name " ++ Text.quoted ⟨name⟩)
              (name.length + 4))
  | _ => .error (s.error "missing \x7b")

/-- Hexadecimal escapes `\x`, `\u`, `\U` after the escape letter. -/
def hexEscape (s : Src) (esc : List Nat) (digits : Nat) : Except Error (Nat × Src) := do
  let (ds, s') ← s.takeWhile isHexPoint digits
  if ds.length != digits then
    .error (s'.errorBackText (Text.ofString "incomplete escape " ++ tokenText (esc ++ ds))
      (esc.length + ds.length))
  else
    let v := hexValue ds
    if v > 0x10FFFF then
      .error (s'.errorBackText (Text.ofString "bad escape " ++ tokenText (esc ++ ds))
        (esc.length + ds.length))
    else pure (v, s')

/-- An escape inside a class; `esc` is the token just read. -/
def classEscape (s : Src) (esc : List Nat) : Except Error (ClassItem × Src) :=
  match esc with
  | [_, c] =>
    match simpleEscape? c with
    | some v => .ok (.point v, s)
    | none =>
      if c == 0x62 then .ok (.point 0x08, s)
      else match classEscape? c with
        | some item => .ok (item, s)
        | none =>
          if c == 0x78 then (hexEscape s esc 2).map fun (v, s') => (.point v, s')
          else if c == 0x75 then (hexEscape s esc 4).map fun (v, s') => (.point v, s')
          else if c == 0x55 then (hexEscape s esc 8).map fun (v, s') => (.point v, s')
          else if isOctPoint c then do
            let (ds, s') ← s.takeWhile isOctPoint 2
            let v := octValue (c :: ds)
            if v > 0o377 then
              .error (s'.errorBackText
                (Text.ofString "octal escape value " ++ tokenText (esc ++ ds) ++
                  Text.ofString " outside of range 0-0o377") (esc.length + ds.length))
            else pure (.point v, s')
          else if c == 0x4E then (namedEscape s).map fun (v, s') => (.point v, s')
          else if isDecPoint c || isAsciiLetter c then
            .error (s.errorBackText (Text.ofString "bad escape " ++ tokenText esc) esc.length)
          else .ok (.point c, s)
  | _ => .error (s.error "bad escape (end of pattern)")

def brokenSpanMessage : String :=
  "The span of capturing group is wrong, please report a bug for the re module."

/-- The parser's record of groups. -/
structure GroupState where
  /-- The number the next group gets. -/
  next : Nat := 1
  names : List (String × Nat) := []
  /-- The closed groups, each with the width it was read with. -/
  widths : List (Nat × (Nat × Nat)) := []
  flags : Flags := {}
  /-- Groups that conditionals refer to by number, each with the position of its first
  reference. -/
  condRefs : List (Nat × Nat) := []
  /-- Inside a look-behind: the number of the first group it defines. -/
  lookbehind : Option Nat := none
  /-- Repetitions are refused. -/
  template : Bool := false
  /-- The whole pattern asked for ASCII classes, or for Unicode ones. -/
  globalAscii : Bool := false
  globalUnicode : Bool := false

def GroupState.isClosed (g : GroupState) (i : Nat) : Bool := (g.widths.lookup i).isSome

def GroupState.widthOf (g : GroupState) (i : Nat) : Nat × Nat := (g.widths.lookup i).getD (0, 0)

/-- A reference to group `i` inside a look-behind must be to a closed group defined before the
look-behind. -/
def GroupState.checkLookbehind (g : GroupState) (i : Nat) (s : Src) : Except Error Unit :=
  match g.lookbehind with
  | none => .ok ()
  | some first =>
    if !(i < g.next && g.isClosed i) then .error (s.error "cannot refer to an open group")
    else if i ≥ first then
      .error (s.error "cannot refer to group defined in the same lookbehind subpattern")
    else .ok ()

def maxGroups : Nat := 1073741823

/-- The integer a text spells as integers are read in base ten: blanks around, a sign, then
decimal digits of any script with single underscores between them. -/
def readInteger? (cs : List Nat) : Option Int :=
  let ascii? := cs.mapM fun c =>
    if c < 127 then some c
    else if Text.isBlank c then some 0x20
    else (Unicode.decimalValue? c).map (0x30 + ·)
  match ascii? with
  | none => none
  | some t =>
    let space := fun (c : Nat) => c == 0x20 || (0x09 ≤ c && c ≤ 0x0D)
    let t := ((t.dropWhile space).reverse.dropWhile space).reverse
    let (neg, t) := match t with
      | 0x2D :: r => (true, r)
      | 0x2B :: r => (false, r)
      | r => (false, r)
    let digitsOk := t.all (fun c => isDecPoint c || c == 0x5F) &&
      (t.head?.map isDecPoint).getD false && (t.getLast?.map isDecPoint).getD false &&
      !((t.zip (t.drop 1)).any fun (a, b) => a == 0x5F && b == 0x5F)
    if !digitsOk then none
    else
      let v : Int := decValue (t.filter isDecPoint)
      some (if neg then -v else v)

/-- An escape outside classes; `esc` is the token just read. -/
def escape (s : Src) (g : GroupState) (esc : List Nat) : Except Error (Node × Src) :=
  let fl := g.flags
  match esc with
  | [_, c] =>
    if c == 0x41 then .ok (.anchor .textStart fl.multiline fl.ascii, s)
    else if c == 0x5A then .ok (.anchor .textEnd fl.multiline fl.ascii, s)
    else if c == 0x62 then .ok (.anchor .boundary fl.multiline fl.ascii, s)
    else if c == 0x42 then .ok (.anchor .notBoundary fl.multiline fl.ascii, s)
    else match classEscape? c with
      | some item => .ok (fl.classNode false [item], s)
      | none =>
        match simpleEscape? c with
        | some v => .ok (fl.literal v, s)
        | none =>
          if c == 0x78 then (hexEscape s esc 2).map fun (v, s') => (fl.literal v, s')
          else if c == 0x75 then (hexEscape s esc 4).map fun (v, s') => (fl.literal v, s')
          else if c == 0x55 then (hexEscape s esc 8).map fun (v, s') => (fl.literal v, s')
          else if c == 0x30 then do
            let (ds, s') ← s.takeWhile isOctPoint 2
            pure (fl.literal (octValue ds), s')
          else if isDecPoint c then do
            -- an octal escape of three digits, or a group reference
            match s.peek with
            | [d] =>
              if isDecPoint d then do
                let s1 ← s.advance
                match s1.peek with
                | [e] =>
                  if isOctPoint c && isOctPoint d && isOctPoint e then do
                    let s2 ← s1.advance
                    let v := octValue [c, d, e]
                    if v > 0o377 then
                      .error (s2.errorBackText
                        (Text.ofString "octal escape value " ++ tokenText (esc ++ [d, e]) ++
                          Text.ofString " outside of range 0-0o377") 4)
                    else pure (fl.literal v, s2)
                  else groupRef s1 (decValue [c, d]) 3
                | _ => groupRef s1 (decValue [c, d]) 3
              else groupRef s (decValue [c]) 2
            | _ => groupRef s (decValue [c]) 2
          else if c == 0x4E then (namedEscape s).map fun (v, s') => (fl.literal v, s')
          else if isAsciiLetter c then
            .error (s.errorBackText (Text.ofString "bad escape " ++ tokenText esc) 2)
          else .ok (fl.literal c, s)
  | _ => .error (s.error "bad escape (end of pattern)")
where
  groupRef (s : Src) (n : Nat) (width : Nat) : Except Error (Node × Src) :=
    if n < g.next then
      if !g.isClosed n then .error (s.errorBack "cannot refer to an open group" width)
      else do
        g.checkLookbehind n s
        pure (.backref n g.flags.fold (g.widthOf n), s)
    else .error (s.errorBack ("invalid group reference " ++ toString n) (width - 1))

def Node.isAnchor : Node → Bool
  | .anchor .. => true
  | _ => false

def Node.isRepeat : Node → Bool
  | .rep .. => true
  | _ => false

/-- The flag a letter names, as it changes the flags of a scope. -/
def flagOf? (c : Nat) : Option (Flags → Flags) :=
  if c == 0x69 then some fun f => { f with icase := true }
  else if c == 0x6D then some fun f => { f with multiline := true }
  else if c == 0x73 then some fun f => { f with dotall := true }
  else if c == 0x78 then some fun f => { f with verbose := true }
  else if c == 0x61 then some fun f => { f with ascii := true }
  else if c == 0x75 then some fun f => { f with ascii := false }
  else if c == 0x74 then some id
  else none

def unsetFlag (c : Nat) (f : Flags) : Flags :=
  if c == 0x69 then { f with icase := false }
  else if c == 0x6D then { f with multiline := false }
  else if c == 0x73 then { f with dotall := false }
  else if c == 0x78 then { f with verbose := false }
  else f

def isFlagLetter (c : Nat) : Bool := (flagOf? c).isSome || c == 0x4C

def isTypeFlag (c : Nat) : Bool := c == 0x61 || c == 0x75 || c == 0x4C

/-- Flags read after `(?`: the letters turned on, the letters turned off, and whether a `)` closed
them (flags of the whole pattern) rather than a `:` (flags of a group). -/
structure FlagSpec where
  on : List Nat
  off : List Nat
  global : Bool

/-- Reads flags after `(?`, `c` being the first character, already read (see `FlagSpec`). -/
def parseFlags (fuel : Nat) (s : Src) (c : Nat) : Except Error (FlagSpec × Src) :=
  if c == 0x2D then turnOff fuel s []
  else turnOn fuel s c []
where
  turnOn : Nat → Src → Nat → List Nat → Except Error (FlagSpec × Src)
    | 0, s, _, _ => .error (s.error "missing -, : or )")
    | fuel + 1, s, c, on =>
      if c == 0x4C then .error (s.error "bad inline flags: cannot use 'L' flag with a str pattern")
      else
        let on := on ++ [c]
        if isTypeFlag c && (on.filter isTypeFlag).any (· != c) then
          .error (s.error "bad inline flags: flags 'a', 'u' and 'L' are incompatible")
        else
          match s.peek with
          | [] => .error (s.error "missing -, : or )")
          | t => do
            let s' ← s.advance
            match t with
            | [0x29] => pure (⟨on, [], true⟩, s')
            | [0x3A] => finish s' on []
            | [0x2D] =>
              if on.contains 0x74 then .error (s'.errorBack "bad inline flags: cannot turn on global flag" 1)
              else turnOff fuel s' on
            | [d] =>
              if isFlagLetter d then turnOn fuel s' d on
              else .error (s'.errorBack (if Unicode.isLetter d then "unknown flag" else "missing -, : or )") 1)
            | _ => .error (s'.errorBack "missing -, : or )" 2)
  turnOff (fuel : Nat) (s : Src) (on : List Nat) : Except Error (FlagSpec × Src) :=
    match s.peek with
    | [] => .error (s.error "missing flag")
    | t => do
      let s' ← s.advance
      match t with
      | [d] =>
        if isFlagLetter d then offLoop fuel s' d on []
        else .error (s'.errorBack (if Unicode.isLetter d then "unknown flag" else "missing flag") 1)
      | _ => .error (s'.errorBack "missing flag" 2)
  offLoop : Nat → Src → Nat → List Nat → List Nat → Except Error (FlagSpec × Src)
    | 0, s, _, _, _ => .error (s.error "missing :")
    | fuel + 1, s, c, on, off =>
      if isTypeFlag c then .error (s.error "bad inline flags: cannot turn off flags 'a', 'u' and 'L'")
      else
        let off := off ++ [c]
        match s.peek with
        | [] => .error (s.error "missing :")
        | t => do
          let s' ← s.advance
          match t with
          | [0x3A] => finish s' on off
          | [d] =>
            if isFlagLetter d then offLoop fuel s' d on off
            else .error (s'.errorBack (if Unicode.isLetter d then "unknown flag" else "missing :") 1)
          | _ => .error (s'.errorBack "missing :" 2)
  finish (s : Src) (on off : List Nat) : Except Error (FlagSpec × Src) :=
    if on.contains 0x74 then .error (s.errorBack "bad inline flags: cannot turn on global flag" 1)
    else if off.contains 0x74 then .error (s.errorBack "bad inline flags: cannot turn off global flag" 1)
    else if on.any off.contains then .error (s.errorBack "bad inline flags: flag turned on and off" 1)
    else .ok (⟨on, off, false⟩, s)

def FlagSpec.apply (spec : FlagSpec) (f : Flags) : Flags :=
  spec.off.foldl (fun f c => unsetFlag c f) (spec.on.foldl (fun f c => ((flagOf? c).getD id) f) f)

/-- Reads the members of a class after `[`; `here` is the position of the `[`. -/
def parseClass (fuel : Nat) (s : Src) (here : Nat) (acc : List ClassItem) :
    Except Error (List ClassItem × Src) :=
  match fuel with
  | 0 => .error (.malformed (Text.ofString "unterminated character set") here)
  | fuel + 1 =>
    match s.peek with
    | [] => .error (.malformed (Text.ofString "unterminated character set") here)
    | this =>
      match s.advance with
      | .error e => .error e
      | .ok s1 =>
        if this == [0x5D] && !acc.isEmpty then .ok (acc.reverse, s1)
        else
          let first : Except Error (ClassItem × Src) :=
            match this with
            | [0x5C, _] => classEscape s1 this
            | [c] => .ok (.point c, s1)
            | _ => .ok (.point 0, s1)
          match first with
          | .error e => .error e
          | .ok (code1, s2) =>
            if s2.peek == [0x2D] then
              match s2.advance with
              | .error e => .error e
              | .ok s3 =>
                match s3.peek with
                | [] => .error (.malformed (Text.ofString "unterminated character set") here)
                | that =>
                  match s3.advance with
                  | .error e => .error e
                  | .ok s4 =>
                    if that == [0x5D] then .ok ((ClassItem.point 0x2D :: code1 :: acc).reverse, s4)
                    else
                      let second : Except Error (ClassItem × Src) :=
                        match that with
                        | [0x5C, _] => classEscape s4 that
                        | [c] => .ok (.point c, s4)
                        | _ => .ok (.point 0, s4)
                      match second with
                      | .error e => .error e
                      | .ok (code2, s5) =>
                        let bad := s5.errorBackText
                          (Text.ofString "bad character range " ++ tokenText this ++
                            Text.ofString "-" ++ tokenText that) (this.length + 1 + that.length)
                        match code1, code2 with
                        | .point lo, .point hi =>
                          if hi < lo then .error bad
                          else parseClass fuel s5 here (.range lo hi :: acc)
                        | _, _ => .error bad
            else parseClass fuel s2 here (code1 :: acc)

abbrev Parsed := Except Error (List Node × Src × GroupState)

/-- The items with every group that has neither a number nor flags replaced by its contents. -/
def unpackGroups (items : List Node) : List Node :=
  items.flatMap fun n => match n with
    | .group none false body => body
    | other => [other]

/-- Moves the first items out of the alternatives while every alternative begins with the same
single character or position; `fuel` bounds the number of moves. -/
def commonPrefix : Nat → List (List Node) → List Node × List (List Node)
  | 0, alts => ([], alts)
  | fuel + 1, alts =>
    match alts with
    | (first :: _) :: others =>
      if others.all (fun alt => match alt with
          | x :: _ => first.sameSimple x
          | [] => false) then
        let (more, rest) := commonPrefix fuel (alts.map List.tail)
        (first :: more, rest)
      else ([], alts)
    | _ => ([], alts)

/-- The members of one class that the alternatives make together, when each is a single character
or an unnegated class. -/
def classOfAlternatives (alts : List (List Node)) : Option (List ClassItem) :=
  (alts.mapM fun (alt : List Node) => match alt with
    | [.literal c false _] => some [ClassItem.point c]
    | [.set false items _ _] => some items
    | _ => none).map List.flatten

/-- Alternatives as items (see the module comment). -/
def alternation (fl : Flags) (alts : List (List Node)) : List Node :=
  match alts with
  | [one] => one
  | _ =>
    let (pre, rest) := commonPrefix (alts.foldl (fun n alt => n + alt.length) 0) alts
    match classOfAlternatives rest with
    | some items => pre ++ [fl.classNode false (uniqueItems items)]
    | none => pre ++ [.branch rest]

def isVerboseSpace (c : Nat) : Bool := c == 0x20 || (0x09 ≤ c && c ≤ 0x0D)

/-- The name of a quantifier's kind, as refusals name it. -/
def Greed.opName : Greed → String
  | .greedy => "MAX_REPEAT"
  | .lazy => "MIN_REPEAT"
  | .possessive => "POSSESSIVE_REPEAT"

mutual
/-- Alternatives separated by `|`, up to `)` or the end. -/
def parseAlt (fuel : Nat) (s : Src) (g : GroupState) (nested : Nat) (acc : List (List Node)) :
    Parsed :=
  match fuel with
  | 0 => .error (s.error "pattern too complex")
  | fuel + 1 =>
    match parseSeq fuel s g (nested + 1) (nested == 0 && acc.isEmpty) [] with
    | .error e => .error e
    | .ok (item, s1, g1) =>
      match s1.accept 0x7C with
      | .error e => .error e
      | .ok (true, s2) => parseAlt fuel s2 g1 nested (item :: acc)
      | .ok (false, _) => .ok (alternation g1.flags (item :: acc).reverse, s1, g1)

/-- Items up to `|`, `)` or the end; `items` is reversed. -/
def parseSeq (fuel : Nat) (s : Src) (g : GroupState) (nested : Nat) (first : Bool)
    (items : List Node) : Parsed :=
  match fuel with
  | 0 => .error (s.error "pattern too complex")
  | fuel + 1 =>
    let done : Parsed := .ok (unpackGroups items.reverse, s, g)
    match s.peek with
    | [] => done
    | [0x7C] => done
    | [0x29] => done
    | this =>
      match s.advance with
      | .error e => .error e
      | .ok s1 =>
        let fl := g.flags
        let continueWith (n : Node) (s' : Src) (g' : GroupState) : Parsed :=
          parseSeq fuel s' g' nested first (n :: items)
        match this with
        | [0x5C, _] =>
          match escape s1 g this with
          | .error e => .error e
          | .ok (n, s2) => continueWith n s2 g
        | [c] =>
          if fl.verbose && isVerboseSpace c then parseSeq fuel s1 g nested first items
          else if fl.verbose && c == 0x23 then
            match skipComment s1.len s1 with
            | .error e => .error e
            | .ok s2 => parseSeq fuel s2 g nested first items
          else if c == 0x2E then continueWith (.any fl.dotall) s1 g
          else if c == 0x5E then continueWith (.anchor .lineStart fl.multiline fl.ascii) s1 g
          else if c == 0x24 then continueWith (.anchor .lineEnd fl.multiline fl.ascii) s1 g
          else if c == 0x5B then
            let here := s.pos
            let neg := s1.peek == [0x5E]
            match (if neg then s1.advance else .ok s1) with
            | .error e => .error e
            | .ok s2 =>
              match parseClass (s2.len + 1) s2 here [] with
              | .error e => .error e
              | .ok (cls, s3) =>
                match uniqueItems cls with
                | [.point p] => continueWith (.literal p neg fl.fold) s3 g
                | members => continueWith (fl.classNode neg members) s3 g
          else if c == 0x2A || c == 0x2B || c == 0x3F || c == 0x7B then
            quantifier fuel s s1 g nested first items c
          else if c == 0x28 then openGroup fuel s s1 g nested first items
          else continueWith (fl.literal c) s1 g
        | _ => done

/-- A quantifier `c` read at `s0` (now at `s1`), applied to the last item. -/
def quantifier (fuel : Nat) (s0 s1 : Src) (g : GroupState) (nested : Nat) (first : Bool)
    (items : List Node) (c : Nat) : Parsed :=
  match fuel with
  | 0 => .error (s1.error "pattern too complex")
  | fuel + 1 =>
    let bounds : Except Error (Option (Nat × Option Nat × Src)) :=
      if c == 0x3F then .ok (some (0, some 1, s1))
      else if c == 0x2A then .ok (some (0, none, s1))
      else if c == 0x2B then .ok (some (1, none, s1))
      else if s1.peek == [0x7D] then .ok none
      else do
        let (lo, s2) ← s1.takeWhile isDecPoint s1.len
        let (comma, s3) ← s2.accept 0x2C
        let (hi, s4) ← if comma then s3.takeWhile isDecPoint s3.len else pure (lo, s3)
        let (closed, s5) ← s4.accept 0x7D
        if !closed then pure none
        else
          let mn := if lo.isEmpty then 0 else decValue lo
          let mx := if hi.isEmpty then none else some (decValue hi)
          if mn ≥ maxRepeat then .error .tooLarge
          else match mx with
            | some m =>
              if m ≥ maxRepeat then .error .tooLarge
              else if m < mn then .error (.malformed (Text.ofString "min repeat greater than max repeat") s1.pos)
              else pure (some (mn, mx, s5))
            | none => pure (some (mn, mx, s5))
    match bounds with
    | .error e => .error e
    -- `{` that opens no quantifier is a literal
    | .ok none => parseSeq fuel s1 g nested first (g.flags.literal 0x7B :: items)
    | .ok (some (mn, mx, s2)) =>
      match items with
      | [] => .error (.malformed (Text.ofString "nothing to repeat") s0.pos)
      | last :: before =>
        if last.isAnchor then .error (.malformed (Text.ofString "nothing to repeat") s0.pos)
        else if last.isRepeat then .error (.malformed (Text.ofString "multiple repeat") s0.pos)
        else
          let body := match last with
            | .group none false b => b
            | other => [other]
          match s2.accept 0x3F with
          | .error e => .error e
          | .ok (true, s3) => parseSeq fuel s3 g nested first (.rep mn mx .lazy body :: before)
          | .ok (false, _) =>
            match s2.accept 0x2B with
            | .error e => .error e
            | .ok (true, s3) =>
              parseSeq fuel s3 g nested first (.rep mn mx .possessive body :: before)
            | .ok (false, _) => parseSeq fuel s2 g nested first (.rep mn mx .greedy body :: before)

/-- A group opened by `(` at `s0` (now at `s1`). -/
def openGroup (fuel : Nat) (s0 s1 : Src) (g : GroupState) (nested : Nat) (first : Bool)
    (items : List Node) : Parsed :=
  match fuel with
  | 0 => .error (s1.error "pattern too complex")
  | fuel + 1 =>
    let start := s0.pos
    let unterminated : Error := .malformed (Text.ofString "missing ), unterminated subpattern") start
    -- the body of a group with the given flags, closed by `)`
    let body (s : Src) (g : GroupState) (fl : Flags) : Parsed :=
      match parseAlt fuel s { g with flags := fl } nested [] with
      | .error e => .error e
      | .ok (n, s', g') =>
        match s'.accept 0x29 with
        | .error e => .error e
        | .ok (true, s'') => .ok (n, s'', { g' with flags := g.flags })
        | .ok (false, _) => .error unterminated
    let after (n : Node) (s : Src) (g : GroupState) : Parsed :=
      parseSeq fuel s g nested first (n :: items)
    -- a numbered group, closed with the width of its body
    let numbered (s : Src) (g : GroupState) : Parsed :=
      let idx := g.next
      match body s { g with next := g.next + 1 } g.flags with
      | .error e => .error e
      | .ok (n, s2, g2) =>
        after (.group (some idx) false n) s2 { g2 with widths := (idx, widthSeq n) :: g2.widths }
    match s1.accept 0x3F with
    | .error e => .error e
    | .ok (false, _) => numbered s1 g
    | .ok (true, s2) =>
      match s2.peek with
      | [] => .error (s2.error "unexpected end of pattern")
      | t =>
        match s2.advance with
        | .error e => .error e
        | .ok s3 =>
          match t with
          | [0x3A] =>
            match body s3 g g.flags with
            | .error e => .error e
            | .ok (n, s4, g4) => after (.group none false n) s4 g4
          | [0x3E] =>
            match body s3 g g.flags with
            | .error e => .error e
            | .ok (n, s4, g4) => after (.atomic n) s4 g4
          | [0x23] =>
            match skipToClose s3.len s3 with
            | none => .error (.malformed (Text.ofString "missing ), unterminated comment") start)
            | some s4 => parseSeq fuel s4 g nested first items
          | [0x3D] | [0x21] =>
            match body s3 g g.flags with
            | .error e => .error e
            | .ok (n, s4, g4) => after (.look false (t == [0x21]) n) s4 g4
          | [0x3C] =>
            match s3.peek with
            | [] => .error (s3.error "unexpected end of pattern")
            | u =>
              match s3.advance with
              | .error e => .error e
              | .ok s4 =>
                if u == [0x3D] || u == [0x21] then
                  let outer := g.lookbehind
                  let g := if outer.isNone then { g with lookbehind := some g.next } else g
                  match body s4 g g.flags with
                  | .error e => .error e
                  | .ok (n, s5, g5) =>
                    after (.look true (u == [0x21]) n) s5 { g5 with lookbehind := outer }
                else
                  .error (s4.errorBackText (Text.ofString "unknown extension ?<" ++ tokenText u)
                    (u.length + 2))
          | [0x50] =>
            match s3.peek with
            | [0x3C] =>
              match s3.advance with
              | .error e => .error e
              | .ok s4 =>
                match s4.until 0x3E "group name" s4.len [] with
                | .error e => .error e
                | .ok (name, s5) =>
                  let nameText := nameString name
                  if !Unicode.isIdentifier name then
                    .error (s5.errorBack ("bad character in group name " ++ Text.quoted ⟨name⟩)
                      (name.length + 1))
                  else match g.names.find? (·.1 == nameText) with
                    | some (_, old) =>
                      .error (s5.errorBack ("redefinition of group name " ++ Text.quoted ⟨name⟩ ++
                        " as group " ++ toString g.next ++ "; was group " ++ toString old)
                        (name.length + 1))
                    | none => numbered s5 { g with names := (nameText, g.next) :: g.names }
            | [0x3D] =>
              match s3.advance with
              | .error e => .error e
              | .ok s4 =>
                match s4.until 0x29 "group name" s4.len [] with
                | .error e => .error e
                | .ok (name, s5) =>
                  if !Unicode.isIdentifier name then
                    .error (s5.errorBack ("bad character in group name " ++ Text.quoted ⟨name⟩)
                      (name.length + 1))
                  else match g.names.find? (·.1 == nameString name) with
                    | none =>
                      .error (s5.errorBack ("unknown group name " ++ Text.quoted ⟨name⟩)
                        (name.length + 1))
                    | some (_, idx) =>
                      if !g.isClosed idx then
                        .error (s5.errorBack "cannot refer to an open group" (name.length + 1))
                      else
                        match g.checkLookbehind idx s5 with
                        | .error e => .error e
                        | .ok () => after (.backref idx g.flags.fold (g.widthOf idx)) s5 g
            | [] => .error (s3.error "unexpected end of pattern")
            | u =>
              match s3.advance with
              | .error e => .error e
              | .ok s4 =>
                .error (s4.errorBackText (Text.ofString "unknown extension ?P" ++ tokenText u)
                  (u.length + 2))
          | [0x28] =>
            match s3.until 0x29 "group name" s3.len [] with
            | .error e => .error e
            | .ok (name, s4) =>
              let refPos := s4.pos - name.length - 1
              let found : Except Error (Nat × GroupState) :=
                if Unicode.isIdentifier name then
                  match g.names.find? (·.1 == nameString name) with
                  | some (_, i) => .ok (i, g)
                  | none => .error (s4.errorBack ("unknown group name " ++ Text.quoted ⟨name⟩)
                      (name.length + 1))
                else
                  match readInteger? name with
                  | some v =>
                    if v < 0 then
                      .error (s4.errorBack ("bad character in group name " ++ Text.quoted ⟨name⟩)
                        (name.length + 1))
                    else
                      let i := v.toNat
                      if i == 0 then .error (s4.errorBack "bad group number" (name.length + 1))
                      else if i ≥ maxGroups then
                        .error (s4.errorBack ("invalid group reference " ++ toString i)
                          (name.length + 1))
                      else if g.condRefs.any (·.1 == i) then .ok (i, g)
                      else .ok (i, { g with condRefs := g.condRefs ++ [(i, refPos)] })
                  | none =>
                    .error (s4.errorBack ("bad character in group name " ++ Text.quoted ⟨name⟩)
                      (name.length + 1))
              match found with
              | .error e => .error e
              | .ok (idx, g) =>
                match g.checkLookbehind idx s4 with
                | .error e => .error e
                | .ok () =>
                  match parseSeq fuel s4 g (nested + 1) false [] with
                  | .error e => .error e
                  | .ok (yes, s5, g5) =>
                    match s5.accept 0x7C with
                    | .error e => .error e
                    | .ok (true, s6) =>
                      match parseSeq fuel s6 g5 (nested + 1) false [] with
                      | .error e => .error e
                      | .ok (no, s7, g7) =>
                        if s7.peek == [0x7C] then
                          .error (s7.error "conditional backref with more than two branches")
                        else match s7.accept 0x29 with
                          | .error e => .error e
                          | .ok (true, s8) => after (.cond idx yes no) s8 g7
                          | .ok (false, _) => .error unterminated
                    | .ok (false, _) =>
                      match s5.accept 0x29 with
                      | .error e => .error e
                      | .ok (true, s8) => after (.cond idx yes []) s8 g5
                      | .ok (false, _) => .error unterminated
          | [c] =>
            if isFlagLetter c || c == 0x2D then
              match parseFlags s3.len s3 c with
              | .error e => .error e
              | .ok (spec, s4) =>
                if spec.global then
                  if !first || !items.isEmpty then
                    .error (s4.errorBack "global flags not at the start of the expression"
                      (s4.pos - start))
                  else
                    let g := { g with
                      flags := spec.apply g.flags
                      template := g.template || spec.on.contains 0x74
                      globalAscii := g.globalAscii || spec.on.contains 0x61
                      globalUnicode := g.globalUnicode || spec.on.contains 0x75 }
                    parseSeq fuel s4 g nested first items
                else
                  match body s4 g (spec.apply g.flags) with
                  | .error e => .error e
                  | .ok (n, s5, g5) => after (.group none true n) s5 g5
            else
              .error (s3.errorBackText (Text.ofString "unknown extension ?" ++ tokenText t)
                (t.length + 1))
          | _ =>
            .error (s3.errorBackText (Text.ofString "unknown extension ?" ++ tokenText t)
              (t.length + 1))

/-- Skips a comment of verbose mode: tokens up to a line break or the end. -/
def skipComment (fuel : Nat) (s : Src) : Except Error Src :=
  match fuel with
  | 0 => .ok s
  | fuel + 1 =>
    match s.peek with
    | [] => .ok s
    | t =>
      match s.advance with
      | .error e => .error e
      | .ok s' => if t == [0x0A] then .ok s' else skipComment fuel s'

/-- Skips to just after the `)` closing a comment group. -/
def skipToClose (fuel : Nat) (s : Src) : Option Src :=
  match fuel with
  | 0 => none
  | fuel + 1 =>
    match s.peek with
    | [] => none
    | t =>
      match s.advance with
      | .error _ => none
      | .ok s' => if t == [0x29] then some s' else skipToClose fuel s'
end

mutual
/-- The first refusal compiling the item meets: a repetition in a pattern that refuses them, or a
look-behind whose width is too large or not fixed. -/
def Node.refusal (template : Bool) : Node → Option Error
  | .rep _ _ greed body =>
    if template then some (.plain ("internal: unsupported template operator " ++ greed.opName))
    else refusalSeq template body
  | .look true _ body =>
    let (lo, hi) := widthSeq body
    if lo != hi then some (.plain "look-behind requires fixed-width pattern")
    else refusalSeq template body
  | .look false _ body | .group _ _ body | .atomic body => refusalSeq template body
  | .branch alts => refusalAlts template alts
  | .cond _ yes no => (refusalSeq template yes).orElse fun _ => refusalSeq template no
  | _ => none

def refusalSeq (template : Bool) : List Node → Option Error
  | [] => none
  | n :: rest => (n.refusal template).orElse fun _ => refusalSeq template rest

def refusalAlts (template : Bool) : List (List Node) → Option Error
  | [] => none
  | b :: rest => (refusalSeq template b).orElse fun _ => refusalAlts template rest
end

mutual
/-- Has the item a look-behind of `2^31` code points or more? -/
def Node.reachesTooFar : Node → Bool
  | .look true _ body => (widthSeq body).1 ≥ 2147483648 || reachesTooFarSeq body
  | .look false _ body | .group _ _ body | .atomic body | .rep _ _ _ body => reachesTooFarSeq body
  | .branch alts => reachesTooFarAlts alts
  | .cond _ yes no => reachesTooFarSeq yes || reachesTooFarSeq no
  | _ => false

def reachesTooFarSeq : List Node → Bool
  | [] => false
  | n :: rest => n.reachesTooFar || reachesTooFarSeq rest

def reachesTooFarAlts : List (List Node) → Bool
  | [] => false
  | b :: rest => reachesTooFarSeq b || reachesTooFarAlts rest
end

/-- A read pattern: its items, the number of groups, and the fewest code points a match takes
(as far as the matcher counts). -/
structure Pattern where
  root : List Node
  groups : Nat
  minWidth : Nat
  deriving Inhabited

/-- Reads a pattern (see the module comment). -/
def compile (pat : List Nat) : Except Error Pattern :=
  let s : Src := ⟨pat, 0, pat.length⟩
  if pat == [0x5C] then .error (.malformed (Text.ofString "bad escape (end of pattern)") 0)
  else
    match parseAlt (4 * pat.length + 8) s {} 0 [] with
    | .error e => .error e
    | .ok (root, s', g) =>
      if g.globalAscii && g.globalUnicode then
        .error (.conflict "ASCII and UNICODE flags are incompatible")
      else if !s'.peek.isEmpty then .error (s'.error "unbalanced parenthesis")
      else if let some (i, pos) := g.condRefs.find? (·.1 ≥ g.next) then
        .error (.malformed (Text.ofString ("invalid group reference " ++ toString i)) pos)
      else match refusalSeq g.template root with
        | some e => .error e
        | none =>
          if reachesTooFarSeq root then .error .invalidCode
          else .ok ⟨root, g.next - 1, (widthSeq root).1⟩

end Tabula.Regex
