import Tabula.Regex.Syntax

/-!
Compiled patterns: a pattern's items laid out as instructions with absolute jump targets. A
numbered group sets its start slot, runs its body and sets its end slot (group `i` has slots
`2i - 2` and `2i - 1`); alternatives branch to each alternative's code; a repetition of a single
character test is one instruction, any other greedy or lazy one a loop with a counting instruction,
and a possessive one, an atomic group or a look-around an instruction, the body and a success. The
program ends with a success.
-/

namespace Tabula.Regex

/-- A test of one character. -/
inductive CharTest where
  /-- The code point, or (`negated`) any other. -/
  | literal (c : Nat) (negated : Bool) (fold : Fold)
  | any (dotall : Bool)
  | set (negated : Bool) (items : List ClassItem) (fold : Fold) (ascii : Bool)
  deriving Inhabited

/-- One instruction of a program. -/
inductive Op where
  | failure
  | success
  | char (t : CharTest)
  | anchor (a : Anchor) (multiline ascii : Bool)
  /-- Records the position in a slot. -/
  | mark (slot : Nat)
  /-- Tries the alternatives starting at these places, in order. -/
  | branch (starts : List Nat)
  | jump (target : Nat)
  /-- Starts a greedy or lazy repetition of the code at `body`, counted by the instruction at
  `counter`. -/
  | loop (min : Nat) (max : Option Nat) (body : Nat) (counter : Nat)
  /-- Counts a repetition and repeats again before trying what follows. -/
  | greedyCount
  /-- Counts a repetition and tries what follows before repeating again. -/
  | lazyCount
  /-- A repetition of one character test; what follows comes next. -/
  | repeatOne (greed : Greed) (min : Nat) (max : Option Nat) (t : CharTest)
  | possessiveLoop (min : Nat) (max : Option Nat) (body : Nat) (tail : Nat)
  | atomic (body : Nat) (tail : Nat)
  /-- A look-around: `back` code points behind (none for a look-ahead). -/
  | assert (negated : Bool) (back : Nat) (body : Nat) (tail : Nat)
  | groupref (group : Nat) (fold : Fold)
  | grouprefExists (group : Nat) (no : Nat)
  deriving Inhabited

mutual
/-- The character test of an item that is a single character test. -/
def Node.unitTest? : Node → Option CharTest
  | .literal c n f => some (.literal c n f)
  | .any d => some (.any d)
  | .set n i f a => some (.set n i f a)
  | .group none _ body => simpleTest? body
  | _ => none

/-- The character test of a repetition body that is one single character test. -/
def simpleTest? : List Node → Option CharTest
  | [n] => n.unitTest?
  | _ => none
end

mutual
/-- Appends the code of an item. -/
def emitNode (code : Array Op) : Node → Array Op
  | .literal c n f => code.push (.char (.literal c n f))
  | .any d => code.push (.char (.any d))
  | .set n i f a => code.push (.char (.set n i f a))
  | .anchor a m x => code.push (.anchor a m x)
  | .group idx _ body =>
    match idx with
    | some i => (emitSeq (code.push (.mark (2 * (i - 1)))) body).push (.mark (2 * (i - 1) + 1))
    | none => emitSeq code body
  | .atomic body =>
    let here := code.size
    let code := (emitSeq (code.push .failure) body).push .success
    code.set! here (.atomic (here + 1) code.size)
  | .look behind neg body =>
    let here := code.size
    let code := (emitSeq (code.push .failure) body).push .success
    code.set! here (.assert neg (if behind then (widthSeq body).1 else 0) (here + 1) code.size)
  | .rep mn mx greed body =>
    match simpleTest? body with
    | some t => code.push (.repeatOne greed mn mx t)
    | none =>
      let here := code.size
      match greed with
      | .possessive =>
        let code := (emitSeq (code.push .failure) body).push .success
        code.set! here (.possessiveLoop mn mx (here + 1) code.size)
      | .greedy =>
        let code := emitSeq (code.push .failure) body
        let counter := code.size
        (code.push .greedyCount).set! here (.loop mn mx (here + 1) counter)
      | .lazy =>
        let code := emitSeq (code.push .failure) body
        let counter := code.size
        (code.push .lazyCount).set! here (.loop mn mx (here + 1) counter)
  | .branch alts =>
    let here := code.size
    let (code, starts, jumps) := emitAlts (code.push .failure) alts
    let past := code.size
    let code := jumps.foldl (fun c j => c.set! j (.jump past)) code
    code.set! here (.branch starts)
  | .backref i f _ => code.push (.groupref (i - 1) f)
  | .cond i yes no =>
    let here := code.size
    let code := emitSeq (code.push .failure) yes
    if no.isEmpty then code.set! here (.grouprefExists (i - 1) code.size)
    else
      let j := code.size
      let code := emitSeq (code.push .failure) no
      (code.set! j (.jump code.size)).set! here (.grouprefExists (i - 1) (j + 1))

def emitSeq (code : Array Op) : List Node → Array Op
  | [] => code
  | n :: rest => emitSeq (emitNode code n) rest

/-- Appends the code of alternatives, each followed by a jump to be aimed past the last: the code,
where each alternative starts, and where its jump is. -/
def emitAlts (code : Array Op) : List (List Node) → Array Op × List Nat × List Nat
  | [] => (code, [], [])
  | b :: rest =>
    let start := code.size
    let code := emitSeq code b
    let j := code.size
    let (code, starts, jumps) := emitAlts (code.push .failure) rest
    (code, start :: starts, j :: jumps)
end

def program (root : List Node) : Array Op := (emitSeq #[] root).push .success

end Tabula.Regex
