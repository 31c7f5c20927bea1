import Tabula.Regex.Program

/-!
Matching a program against a text. The matcher keeps one record for the whole attempt (position,
group slots up to `lastmark`, loop counts) and does not roll it back when a try fails: only
branches, failing look-behinds and single-character repetitions inside loops, loops after a
failed extra repetition, and possessive repetitions restore it. So a group can end up with its
start after its end, and a match with such a group is an error of the matcher. `search` tries each
position from the left, `matchStart` only the first; a try nested `maxDepth` deep fails.
-/

namespace Tabula.Regex

/-- Does a class member hold of a code point? -/
def ClassItem.holds (ascii : Bool) (c : Nat) : ClassItem → Bool
  | .point n => c == n
  | .range lo hi => lo ≤ c && c ≤ hi
  | .digit neg => isDigitPoint ascii c != neg
  | .word neg => isWordPoint ascii c != neg
  | .space neg => isSpacePoint ascii c != neg

/-- Does a class member hold of the compared form `y` of a code point? A member within the basic
plane is taken in its compared forms too. One beyond it is not: a code point there is compared as
it stands, and a range reaching there holds `y` when it holds `y` or the capital of `y`, besides
what its part in the basic plane holds. -/
def ClassItem.holdsFolded (f : Fold) (ascii : Bool) (y : Nat) : ClassItem → Bool
  | .point n =>
    if n ≥ 0x10000 then y == n
    else
      let lo := f.lower n
      y == lo || (f == .unicode && (equivalentsOf lo).contains y)
  | .range lo hi =>
    if hi < 0x10000 then f.rangeHolds lo hi y
    else
      (lo < 0x10000 && f.rangeHolds lo 0xFFFF y) || (lo ≤ y && y ≤ hi) ||
        (lo ≤ upperPoint y && upperPoint y ≤ hi)
  | other => other.holds ascii y

/-- Is `c` in the class? Under a fold, the compared form of `c` is looked up among the compared
forms of the members. -/
def classHolds (negated : Bool) (items : List ClassItem) (f : Fold) (ascii : Bool) (c : Nat) : Bool :=
  let r := match f with
    | .exact => items.any (ClassItem.holds ascii c)
    | _ => items.any (ClassItem.holdsFolded f ascii (f.lower c))
  r != negated

/-- Does the character pass the test? -/
@[inline]
def CharTest.holds (t : CharTest) (x : Nat) : Bool :=
  match t with
  | .literal c neg f => f.matches c x != neg
  | .any dotall => dotall || x != 0x0A
  | .set neg items f ascii => classHolds neg items f ascii x

@[inline]
def at? (t : Array Nat) (i : Nat) : Option Nat := t[i]?

def wordAt (ascii : Bool) (t : Array Nat) (i : Nat) : Bool :=
  match at? t i with
  | some c => isWordPoint ascii c
  | none => false

/-- Does the zero-width position hold at `i`? -/
def anchorHolds (a : Anchor) (multiline ascii : Bool) (t : Array Nat) (i : Nat) : Bool :=
  match a with
  | .lineStart => i == 0 || (multiline && i > 0 && at? t (i - 1) == some 0x0A)
  | .lineEnd =>
    i == t.size || (i + 1 == t.size && at? t i == some 0x0A) || (multiline && at? t i == some 0x0A)
  | .textStart => i == 0
  | .textEnd => i == t.size
  | .boundary =>
    t.size > 0 && (i > 0 && wordAt ascii t (i - 1)) != wordAt ascii t i
  | .notBoundary =>
    t.size > 0 && (i > 0 && wordAt ascii t (i - 1)) == wordAt ascii t i

/-- Does the text at `i` repeat the span `[a, b)`? -/
def repeatsSpan (f : Fold) (t : Array Nat) (a b i : Nat) : Bool :=
  (List.range (b - a)).all fun k =>
    match at? t (a + k), at? t (i + k) with
    | some x, some y => f.lower x == f.lower y
    | _, _ => false

/-- How many characters from `i + k` on pass the test before position `i + limit`, plus `k`. -/
def passingFrom (t : Array Nat) (ct : CharTest) (i limit k : Nat) : Nat :=
  if k < limit then
    if (at? t (i + k)).any ct.holds then passingFrom t ct i limit (k + 1) else k
  else k
termination_by limit - k

/-- How many characters from `i` on pass the test, at most `max`. -/
def countPassing (t : Array Nat) (ct : CharTest) (i : Nat) (max : Option Nat) : Nat :=
  let limit := match max with
    | some m => min m (t.size - i)
    | none => t.size - i
  passingFrom t ct i limit 0

/-- A running loop: its bounds and body, and the loop around it. -/
structure LoopFrame where
  min : Nat
  max : Option Nat
  body : Nat
  outer : Option Nat
  deriving Inhabited

/-- The record of a match attempt (see the module comment). A slot holds a position, or `-1` while
unset. Each running loop has a frame, a count of repetitions (`-1` before the first) and the
position its last repetition started at (`-1` before the first), all under the loop's number. -/
structure Machine where
  ptr : Nat
  slots : Array Int
  lastmark : Int
  loop : Option Nat
  frames : Array LoopFrame
  counts : Array Int
  lastStarts : Array Int
  /-- Whether the run that left the record reached a success. -/
  matched : Bool

def Machine.init (start groups : Nat) : Machine :=
  ⟨start, Array.replicate (2 * groups) (-1), -1, none, #[], #[], #[], false⟩

/-- Unsets the slots from `j` up to `i`, those above `lastmark` only. -/
def Machine.clearAbove (lastmark : Int) (i : Nat) (slots : Array Int) : Array Int :=
  i.fold (fun j _ a => if (j : Int) > lastmark then a.set! j (-1) else a) slots

/-- Sets slot `i` to `p`; slots between the highest set one and `i` become unset. -/
def Machine.setSlot (m : Machine) (i p : Nat) : Machine :=
  match m with
  | ⟨ptr, slots, lastmark, loop, frames, counts, lastStarts, matched⟩ =>
    let slots := if (i : Int) > lastmark then Machine.clearAbove lastmark i slots else slots
    ⟨ptr, slots.set! i p, max lastmark i, loop, frames, counts, lastStarts, matched⟩

def Machine.savedSlots (m : Machine) : Array Int :=
  if m.lastmark ≥ 0 then m.slots.extract 0 (m.lastmark.toNat + 1) else #[]

/-- The slots a try inside a loop puts back when it fails: those up to the highest set one; none
outside loops. -/
@[inline]
def Machine.loopSlots (m : Machine) : Array Int := if m.loop.isSome then m.savedSlots else #[]

/-- Puts saved slots back, over the first slots. -/
def Machine.restoreSlots (m : Machine) (saved : Array Int) : Machine :=
  match m with
  | ⟨ptr, slots, lastmark, loop, frames, counts, lastStarts, matched⟩ =>
    ⟨ptr, saved.size.fold (fun i h a => a.set! i saved[i]) slots, lastmark, loop, frames, counts,
      lastStarts, matched⟩

@[inline]
def Machine.frame (m : Machine) (id : Nat) : LoopFrame := m.frames.getD id default

@[inline]
def Machine.count (m : Machine) (id : Nat) : Int := m.counts.getD id (-1)

@[inline]
def Machine.lastStart (m : Machine) (id : Nat) : Int := m.lastStarts.getD id (-1)

@[inline]
def Machine.setCount (m : Machine) (id : Nat) (n : Int) : Machine :=
  match m with
  | ⟨ptr, slots, lastmark, loop, frames, counts, lastStarts, matched⟩ =>
    ⟨ptr, slots, lastmark, loop, frames, counts.set! id n, lastStarts, matched⟩

@[inline]
def Machine.setLastStart (m : Machine) (id : Nat) (p : Int) : Machine :=
  match m with
  | ⟨ptr, slots, lastmark, loop, frames, counts, lastStarts, matched⟩ =>
    ⟨ptr, slots, lastmark, loop, frames, counts, lastStarts.set! id p, matched⟩

/-- The record of a run that failed. -/
@[inline]
def Machine.fail (m : Machine) : Machine := { m with matched := false }

/-- The span of group slot pair `j`, when both slots are set and below `lastmark`. -/
def Machine.span? (m : Machine) (j : Nat) : Option (Nat × Nat) :=
  if ((j + 1 : Nat) : Int) ≤ m.lastmark then
    let a := m.slots.getD j (-1)
    let b := m.slots.getD (j + 1) (-1)
    if a ≥ 0 && b ≥ 0 then some (a.toNat, b.toNat) else none
  else none

mutual
/-- Runs the program from `pc` at position `ptr`: the record after the run, whose `matched` says
whether the run reached a success. -/
def exec (prog : Array Op) (t : Array Nat) : Nat → Nat → Nat → Machine → Machine
  | 0, _, _, m => m.fail
  | fuel + 1, pc, ptr, m =>
    match prog[pc]? with
    | none => m.fail
    | some op =>
      match op with
      | .failure => m.fail
      | .success => { m with ptr := ptr, matched := true }
      | .char ct =>
        if (at? t ptr).any ct.holds then exec prog t fuel (pc + 1) (ptr + 1) m else m.fail
      | .anchor a ml asc =>
        if anchorHolds a ml asc t ptr then exec prog t fuel (pc + 1) ptr m else m.fail
      | .mark i => exec prog t fuel (pc + 1) ptr (m.setSlot i ptr)
      | .jump target => exec prog t fuel target ptr m
      | .branch starts => tryBranches prog t fuel starts ptr m.lastmark m.loopSlots m
      | .loop mn mx body counter =>
        let id := m.frames.size
        let m : Machine := match m with
          | ⟨_, slots, lastmark, loop, frames, counts, lastStarts, matched⟩ =>
            ⟨ptr, slots, lastmark, some id, frames.push ⟨mn, mx, body, loop⟩, counts.push (-1),
              lastStarts.push (-1), matched⟩
        let m := exec prog t fuel counter ptr m
        { m with loop := (m.frame id).outer }
      | .greedyCount => greedyCount prog t fuel pc ptr m
      | .lazyCount => lazyCount prog t fuel pc ptr m
      | .repeatOne greed mn mx ct =>
        if mn > t.size - ptr then m.fail
        else
          let m := { m with ptr := ptr }
          match greed with
          | .greedy =>
            let n := countPassing t ct ptr mx
            if n < mn then m.fail
            else greedyTail prog t fuel (pc + 1) ptr mn n m.lastmark m.loopSlots m
          | .lazy =>
            let n := if mn == 0 then 0 else countPassing t ct ptr (some mn)
            if n < mn then m.fail
            else lazyTail prog t fuel (pc + 1) ct mx (ptr + n) n m.lastmark m.loopSlots m
          | .possessive =>
            let n := countPassing t ct ptr mx
            if n < mn then m.fail else exec prog t fuel (pc + 1) (ptr + n) m
      | .possessiveLoop mn mx body tail =>
        possessiveFirst prog t fuel mn mx body tail ptr 0 { m with ptr := ptr }
      | .atomic body tail =>
        let m := exec prog t fuel body ptr { m with ptr := ptr }
        if m.matched then exec prog t fuel tail m.ptr m else { m with ptr := ptr, matched := false }
      | .assert false back body tail =>
        if ptr < back then m.fail
        else
          let m := exec prog t fuel body (ptr - back) { m with ptr := ptr - back }
          if m.matched then exec prog t fuel tail ptr m else m.fail
      | .assert true back body tail =>
        if ptr < back then exec prog t fuel tail ptr m
        else
          let lastmark := m.lastmark
          let saved := m.loopSlots
          let m := exec prog t fuel body (ptr - back) { m with ptr := ptr - back }
          if m.matched then m.fail
          else exec prog t fuel tail ptr { m.restoreSlots saved with lastmark := lastmark }
      | .groupref g f =>
        match m.span? (2 * g) with
        | some (a, b) =>
          if b < a then m.fail
          else if ptr + (b - a) ≤ t.size && repeatsSpan f t a b ptr then
            exec prog t fuel (pc + 1) (ptr + (b - a)) m
          else m.fail
        | none => m.fail
      | .grouprefExists g no =>
        match m.span? (2 * g) with
        | some (a, b) => if b < a then exec prog t fuel no ptr m else exec prog t fuel (pc + 1) ptr m
        | none => exec prog t fuel no ptr m

/-- Tries the alternatives in order; after each failure the `saved` slots and `lastmark`
are put back. -/
def tryBranches (prog : Array Op) (t : Array Nat) :
    Nat → List Nat → Nat → Int → Array Int → Machine → Machine
  | 0, _, _, _, _, m => m.fail
  | _ + 1, [], _, _, _, m => m.fail
  | fuel + 1, a :: rest, ptr, lastmark, saved, m =>
    let m := exec prog t fuel a ptr { m with ptr := ptr }
    if m.matched then m
    else tryBranches prog t fuel rest ptr lastmark saved { m.restoreSlots saved with lastmark := lastmark }

/-- The counting instruction of a greedy loop, at `pc`. -/
def greedyCount (prog : Array Op) (t : Array Nat) : Nat → Nat → Nat → Machine → Machine
  | 0, _, _, m => m.fail
  | fuel + 1, pc, ptr, m =>
    match m.loop with
    | none => m.fail
    | some id =>
      let fr := m.frame id
      let m := { m with ptr := ptr }
      let count : Int := m.count id + 1
      if count < fr.min then
        let m := exec prog t fuel fr.body ptr (m.setCount id count)
        if m.matched then m else { m.setCount id (count - 1) with ptr := ptr, matched := false }
      else
        let prevStart : Int := m.lastStart id
        let more := (match fr.max with
          | some mx => count < mx
          | none => true) && prevStart != ptr
        let m :=
          if more then
            let lastmark := m.lastmark
            let saved := m.savedSlots
            let m := exec prog t fuel fr.body ptr ((m.setCount id count).setLastStart id ptr)
            let m := m.setLastStart id prevStart
            if m.matched then m
            else
              { (m.restoreSlots saved).setCount id (count - 1) with
                lastmark := lastmark, ptr := ptr, matched := false }
          else m.fail
        if m.matched then m
        else
          let m := exec prog t fuel (pc + 1) ptr { m with loop := fr.outer }
          let m := { m with loop := some id }
          if m.matched then m else { m with ptr := ptr, matched := false }

/-- The counting instruction of a lazy loop, at `pc`. -/
def lazyCount (prog : Array Op) (t : Array Nat) : Nat → Nat → Nat → Machine → Machine
  | 0, _, _, m => m.fail
  | fuel + 1, pc, ptr, m =>
    match m.loop with
    | none => m.fail
    | some id =>
      let fr := m.frame id
      let m := { m with ptr := ptr }
      let count : Int := m.count id + 1
      if count < fr.min then
        let m := exec prog t fuel fr.body ptr (m.setCount id count)
        if m.matched then m else { m.setCount id (count - 1) with ptr := ptr, matched := false }
      else
        let m := { m with loop := fr.outer }
        let lastmark := m.lastmark
        let saved := m.loopSlots
        let m := exec prog t fuel (pc + 1) ptr m
        let tailLoop := m.loop
        let m := { m with loop := some id }
        if m.matched then m
        else
          let m := if tailLoop.isSome then m.restoreSlots saved else m
          let m := { m with lastmark := lastmark, ptr := ptr, matched := false }
          let prevStart : Int := m.lastStart id
          let atMax := match fr.max with
            | some mx => count ≥ mx
            | none => false
          if atMax || prevStart == ptr then m
          else
            let m := exec prog t fuel fr.body ptr ((m.setCount id count).setLastStart id ptr)
            let m := m.setLastStart id prevStart
            if m.matched then m else { m.setCount id (count - 1) with ptr := ptr, matched := false }

/-- What follows a greedy repetition of one character, tried after `n` repetitions, then after
one fewer, down to `least`; after each failure the `saved` slots and `lastmark` are put
back. -/
def greedyTail (prog : Array Op) (t : Array Nat) :
    Nat → Nat → Nat → Nat → Nat → Int → Array Int → Machine → Machine
  | 0, _, _, _, _, _, _, m => m.fail
  | fuel + 1, tail, start, least, n, lastmark, saved, m =>
    let m := exec prog t fuel tail (start + n) { m with ptr := start + n }
    if m.matched then m
    else if n ≤ least then { m.restoreSlots saved with lastmark := lastmark, matched := false }
    else
      greedyTail prog t fuel tail start least (n - 1) lastmark saved
        { m.restoreSlots saved with lastmark := lastmark }

/-- What follows a lazy repetition of one character, tried at `ptr` after `count` repetitions,
then after one more, up to the maximum. -/
def lazyTail (prog : Array Op) (t : Array Nat) :
    Nat → Nat → CharTest → Option Nat → Nat → Nat → Int → Array Int → Machine → Machine
  | 0, _, _, _, _, _, _, _, m => m.fail
  | fuel + 1, tail, ct, mx, ptr, count, lastmark, saved, m =>
    if (match mx with
        | some x => decide (count > x)
        | none => false) then m.fail
    else
      let m := exec prog t fuel tail ptr { m with ptr := ptr }
      if m.matched then m
      else
        let m := { m.restoreSlots saved with lastmark := lastmark, ptr := ptr, matched := false }
        if (at? t ptr).any ct.holds then lazyTail prog t fuel tail ct mx (ptr + 1) (count + 1) lastmark saved m
        else m

/-- The required repetitions of a possessive loop: `count` done so far. -/
def possessiveFirst (prog : Array Op) (t : Array Nat) :
    Nat → Nat → Option Nat → Nat → Nat → Nat → Nat → Machine → Machine
  | 0, _, _, _, _, _, _, m => m.fail
  | fuel + 1, mn, mx, body, tail, start, count, m =>
    if count < mn then
      let m := exec prog t fuel body m.ptr m
      if m.matched then possessiveFirst prog t fuel mn mx body tail start (count + 1) m
      else { m with ptr := start, matched := false }
    else possessiveMore prog t fuel mx body tail count none m

/-- Further repetitions of a possessive loop, while they match and move on; then what follows. -/
def possessiveMore (prog : Array Op) (t : Array Nat) :
    Nat → Option Nat → Nat → Nat → Nat → Option Nat → Machine → Machine
  | 0, _, _, _, _, _, m => m.fail
  | fuel + 1, mx, body, tail, count, prevStart, m =>
    let more := (match mx with
      | some x => count < x
      | none => true) && prevStart != some m.ptr
    if more then
      let lastmark := m.lastmark
      let saved := m.savedSlots
      let start := m.ptr
      let m := exec prog t fuel body start m
      if m.matched then possessiveMore prog t fuel mx body tail (count + 1) (some start) m
      else exec prog t fuel tail start { m.restoreSlots saved with lastmark := lastmark, ptr := start }
    else exec prog t fuel tail m.ptr m
end

def maxDepth : Nat := 1000000000

/-- How a match attempt ends. -/
inductive Attempt where
  | noMatch
  | found
  | brokenSpan
  deriving DecidableEq, Repr

/-- Runs the program at position `start`. -/
def attemptAt (prog : Array Op) (groups : Nat) (t : Array Nat) (start : Nat) : Attempt :=
  let m := exec prog t maxDepth 0 start (Machine.init start groups)
  if !m.matched then .noMatch
  else if (List.range groups).any fun g => match m.span? (2 * g) with
      | some (a, b) => b < a
      | none => false
  then .brokenSpan else .found

/-- The first attempt, at the given starts in order, that is not `noMatch`; later starts are not
tried. -/
def firstAttempt (attempt : Nat → Attempt) : List Nat → Attempt
  | [] => .noMatch
  | i :: rest =>
    match attempt i with
    | .noMatch => firstAttempt attempt rest
    | a => a

/-- Does the pattern match somewhere in the text? A broken span is an error. -/
def Pattern.search (p : Pattern) (s : List Nat) : Except String Bool :=
  let t := s.toArray
  if t.size < p.minWidth then .ok false
  else
    match firstAttempt (attemptAt (program p.root) p.groups t) (List.range (t.size + 1)) with
    | .brokenSpan => .error brokenSpanMessage
    | .found => .ok true
    | .noMatch => .ok false

/-- Does the pattern match at the start of the text? A broken span is an error. -/
def Pattern.matchStart (p : Pattern) (s : List Nat) : Except String Bool :=
  let t := s.toArray
  if t.size < p.minWidth then .ok false
  else
    match attemptAt (program p.root) p.groups t 0 with
    | .brokenSpan => .error brokenSpanMessage
    | .found => .ok true
    | .noMatch => .ok false

end Tabula.Regex
