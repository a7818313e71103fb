import JsxOutline.Lexicon.Machine
import Std.Data.HashSet

/-!
# How tokens overlap

Whether two tokens can match the same text, or one of them a longer text than the other, decides
which tokens may be looked for at the same time.  The answers are read off the product of the two
machines.
-/

namespace JsxOutline.Lexicon

/-- How one token relates to another one. -/
structure Overlap where
  /-- It may be complete where the other one would go on, and is taken. -/
  shorter : Bool := false
  /-- It may go on where the other one is complete, and is taken. -/
  longer : Bool := false
  /-- The same, with a character that may really follow the other one. -/
  longerInContext : Bool := false
  /-- It may be complete where a blank could still follow. -/
  overBlanks : Bool := false
  /-- It is taken for a text that both match. -/
  sameText : Bool := false
  /-- It matches a text that the other one does not. -/
  ownText : Bool := false
deriving BEq, Inhabited

namespace Machines

variable (m : Machines)

/-- Whether to go on with a token of rank `rank` by a character where token `done` is complete.  A
token that has to pass a blank first is not preferred, nor is any token while blanks may follow. -/
def goesOn (rank : Int) (blank : Bool) (done : Nat) (blanksFollow : Bool) : Bool :=
  let doneRank := m.ranks[done]!
  if rank < doneRank then false
  else if rank == doneRank then !blank && !blanksFollow
  else true

/-- A pair of states, of which one may be gone. -/
abbrev Pair := Option Nat × Option Nat

/-- What one pair of states says about two tokens, and the pairs that follow it. -/
def inspect (following : Array Nat) (i j : Nat) (p : Pair) (r : Overlap × Overlap) :
    (Overlap × Overlap) × List Pair := Id.run do
  match p with
  | (none, none) => return (r, [])
  | (some _, none) => return (({ r.1 with ownText := true }, r.2), [])
  | (none, some _) => return ((r.1, { r.2 with ownText := true }), [])
  | (some a, some b) =>
    let sa := m.states[a]!
    let sb := m.states[b]!
    let blanksFollow := sa.blanks || sb.blanks
    let mut x := r.1
    let mut y := r.2
    if blanksFollow then
      if sa.accepts then x := { x with overBlanks := true }
      if sb.accepts then y := { y with overBlanks := true }
    if sa.accepts && sb.accepts then
      if m.prefers i j then x := { x with sameText := true } else y := { y with sameText := true }
    let iDone := sa.accepts && (!sb.accepts || m.prefers i j)
    let jDone := sb.accepts && !iDone
    let mut next : List Pair := []
    for letter in [0:m.alphabet.size] do
      let ma := sa.moves[letter]!
      let mb := sb.moves[letter]!
      match ma, mb with
      | none, none => pure ()
      | some u, none =>
        if jDone then
          if m.goesOn m.ranks[i]! u.blank j blanksFollow then
            x := { x with longer := true }
            if following[j]!.testBit letter then x := { x with longerInContext := true }
          else y := { y with shorter := true }
        next := (some u.target, none) :: next
      | none, some v =>
        if iDone then
          if m.goesOn m.ranks[j]! v.blank i blanksFollow then
            y := { y with longer := true }
            if following[i]!.testBit letter then y := { y with longerInContext := true }
          else x := { x with shorter := true }
        next := (none, some v.target) :: next
      | some u, some v => next := (some u.target, some v.target) :: next
    return ((x, y), next)

def overlapOf (following : Array Nat) (i j : Nat) : Overlap × Overlap := Id.run do
  let start : Pair := (some m.starts[i]!, some m.starts[j]!)
  let mut todo : List Pair := [start]
  let mut seen : Std.HashSet Pair := {}
  let mut r : Overlap × Overlap := ({}, {})
  for _ in [0:1000000] do
    match todo with
    | [] => break
    | p :: rest =>
      let (r', next) := m.inspect following i j p r
      r := r'
      todo := rest
      for q in next do
        unless seen.contains q do
          seen := seen.insert q
          todo := q :: todo
  return r

def startLetters : Array Nat :=
  m.starts.map fun s =>
    (List.range m.alphabet.size).foldl
      (fun acc l => if (m.states[s]!.moves[l]!).isSome then acc ||| (1 <<< l) else acc) 0

end Machines

/-- The overlaps of all pairs of tokens. -/
structure Overlaps where
  count : Nat
  table : Array Overlap
deriving Inhabited

namespace Overlaps

def get (o : Overlaps) (i j : Nat) : Overlap := o.table[i * o.count + j]!

/-- The overlaps of the tokens of a lexicon, of which `followers` may stand after each. -/
def ofMachines (m : Machines) (followers : Array Nat) : Overlaps := Id.run do
  let n := m.starts.size
  let startLetters := m.startLetters
  let following := followers.map fun set =>
    (List.range n).foldl (fun acc t => if set.testBit t then acc ||| startLetters[t]! else acc) 0
  let mut table : Array Overlap := Array.replicate (n * n) {}
  for i in [0:n] do
    for j in [0:i] do
      let (x, y) := m.overlapOf following i j
      table := (table.set! (i * n + j) x).set! (j * n + i) y
  return { count := n, table }

/-- Looking for `i` besides `j` could change what is found for `j`. -/
def conflicts (o : Overlaps) (i j : Nat) : Bool :=
  let s := o.get i j
  s.longerInContext || s.overBlanks || s.sameText

/-- A text of one token is also the beginning or the whole of a text of the other one. -/
def touches (o : Overlaps) (i j : Nat) : Bool :=
  let s := o.get i j
  s.overBlanks || s.shorter || s.sameText || s.longer

/-- Token `i` may take more or less of the text than token `j` does. -/
def differsInLength (o : Overlaps) (i j : Nat) : Bool :=
  let s := o.get i j
  (s.longerInContext || s.overBlanks) && !(o.get j i).overBlanks

/-- The tokens `j` for which a relation of `i` and `j` holds, as bits, for each `i`. -/
def masks (o : Overlaps) (rel : Nat → Nat → Bool) : Array Nat :=
  (Array.range o.count).map fun i =>
    (List.range o.count).foldl (fun acc j => if rel i j then acc ||| (1 <<< j) else acc) 0

end Overlaps

end JsxOutline.Lexicon
