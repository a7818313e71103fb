import JsxOutline.Automaton.Vocabulary

/-!
# Merging states

States with the same items are merged as long as no token means something different in them and no
token of one of them could be mistaken for a token of the other.  Then states that only put one
variable in the place of another one are skipped, and the states are sorted by size.
-/

namespace JsxOutline.Automaton

open JsxOutline.Grammar JsxOutline.Lexicon

/-! ### Groups -/

/-- A partition of the states: the group of each state and the states of each group. -/
structure Groups where
  groupOf : Array Nat
  members : Array (List Nat)
deriving Inhabited

namespace Groups

def ofCores (states : Array State) : Groups := Id.run do
  let count := states.foldl (fun n s => max n (s.core + 1)) 0
  let mut members : Array (List Nat) := Array.replicate count []
  for i in [0:states.size] do
    members := members.modify (states[i]!).core (i :: ·)
  return { groupOf := states.map (·.core), members := members.map List.reverse }

/-- Separates the members of one group that differ from an earlier member; both halves keep their
order. -/
def separate (differ : Nat → Nat → Bool) : Nat → List Nat → List Nat × List Nat
  | 0, ms => (ms, [])
  | _, [] => ([], [])
  | fuel + 1, m :: ms =>
    let (out, stay) := ms.partition (differ m)
    let (kept, more) := separate differ fuel stay
    (m :: kept, out ++ more)

/-- Splits every group once, new groups included; tells whether any group was split.  What is
needed to compare the members of a group is prepared once per group. -/
def split {α : Type} (g : Groups) (bound : Nat) (prepare : Groups → List Nat → α)
    (differ : α → Nat → Nat → Bool) : Groups × Bool := Id.run do
  let mut g := g
  let mut changed := false
  for i in [0:bound] do
    if i < g.members.size then
      let ms := g.members[i]!
      match ms with
      | [] | [_] => pure ()
      | _ =>
        let table := prepare g ms
        let (kept, out) := separate (differ table) ms.length ms
        unless out.isEmpty do
          changed := true
          let fresh := g.members.size
          let mut groupOf := g.groupOf
          for m in out do
            groupOf := groupOf.set! m fresh
          g := { groupOf, members := (g.members.set! i kept).push out }
    else break
  return (g, changed)

end Groups

/-! ### Compatible states -/

/-- Whether two lists of actions differ, up to the group of the states that they lead to. -/
def actionsDiffer (groupOf : Array Nat) : List Action → List Action → Bool
  | [], [] => false
  | .shift s a :: as, .shift t b :: bs =>
    groupOf[s]! != groupOf[t]! || a != b || actionsDiffer groupOf as bs
  | a :: as, b :: bs => a != b || actionsDiffer groupOf as bs
  | _, _ => true

/-- Per token of the lexicon, the tokens that it must not join. -/
def enemies (v : Vocabulary) : Array Nat :=
  (Array.range v.layout.lexemeCount).map fun i =>
    (List.range v.layout.lexemeCount).foldl
      (fun acc j =>
        let keywordAndWord := (j == v.word && v.keywords.testBit i)
          || (i == v.word && v.keywords.testBit j)
        if !keywordAndWord && v.overlaps.conflicts i j then acc ||| (1 <<< j) else acc) 0

/-- What merging needs to know about the states. -/
structure Merging where
  layout : Layout
  states : Array State
  /-- The tokens of each state. -/
  tokens : Array TokenSet
  /-- The tokens that must never be added: those found outside of the lexicon, and those of the
  lexicon that also have an outside form. -/
  fixed : TokenSet
  enemies : Array Nat
deriving Inhabited

namespace Merging

variable (m : Merging)

/-- Whether any of the tokens `new` must not be added to a set of tokens. -/
def clashes (existing new : TokenSet) : Bool :=
  (new &&& m.fixed) != 0 ||
  let here := Vocabulary.lexemesOf m.layout existing
  let added := Vocabulary.lexemesOf m.layout new
  added != 0 && (List.range m.layout.lexemeCount).any fun i =>
    added.testBit i && (m.enemies[i]! &&& here) != 0

/-- Whether two states must not be merged on account of their tokens. -/
def tokensClash (g : Groups) (a b : Nat) : Bool :=
  let ta := m.tokens[a]!
  let tb := m.tokens[b]!
  let both := ta &&& tb
  let sa := m.states[a]!
  let sb := m.states[b]!
  m.clashes tb (ta ^^^ both) || m.clashes ta (tb ^^^ both)
  || (List.range m.layout.tokenCount).any fun t =>
    both.testBit t && actionsDiffer g.groupOf sa.actions[t]! sb.actions[t]!

def shiftTarget : List Action → Option Nat
  | [] => none
  | [.shift s _] => some s
  | _ :: as => shiftTarget as

/-- The groups that a state leads to, by symbol: 0 for nothing, or a group and one. -/
def successorGroups (g : Groups) (i : Nat) : Array Nat :=
  let s := m.states[i]!
  (s.actions.map fun as => match shiftTarget as with
    | some t => g.groupOf[t]! + 1
    | none => 0)
  ++ s.gotos.map fun t => if t == 0 then 0 else g.groupOf[t]! + 1

/-- Whether two such rows lead to different groups by the same symbol. -/
def rowsDiffer (a b : Array Nat) : Bool :=
  (List.range a.size).any fun i => a[i]! != 0 && b[i]! != 0 && a[i]! != b[i]!

/-- The distinct rows among the members of a group, and the row of each member. -/
structure Rows where
  rows : Array (Array Nat)
  rowOf : Std.HashMap Nat Nat

def rowsOf (g : Groups) (members : List Nat) : Rows := Id.run do
  let mut classes : Std.HashMap (Array Nat) Nat := {}
  let mut rows : Array (Array Nat) := #[]
  let mut rowOf : Std.HashMap Nat Nat := {}
  for i in members do
    let row := m.successorGroups g i
    match classes[row]? with
    | some c => rowOf := rowOf.insert i c
    | none =>
      classes := classes.insert row rows.size
      rowOf := rowOf.insert i rows.size
      rows := rows.push row
  return { rows, rowOf }

def successorsDiffer (t : Rows) (a b : Nat) : Bool :=
  let ra := t.rowOf[a]!
  let rb := t.rowOf[b]!
  ra != rb && rowsDiffer t.rows[ra]! t.rows[rb]!

end Merging

/-- Merges the states that may be merged.  States 0 and 1 keep their numbers. -/
def mergeStates (src : Source) (v : Vocabulary) (states : Array State) : Array State := Id.run do
  let lay := v.layout
  let fixed := src.productions.resolved.outside.foldl
    (fun acc o => match o.inner with | some s => acc ||| (1 <<< s) | none => acc)
    ((1 <<< lay.outsideCount) - 1)
  let m : Merging := { layout := lay, states, tokens := states.map State.tokens, fixed,
                       enemies := enemies v }
  let bound := states.size + 1
  let mut g := ((Groups.ofCores states).split bound (fun g _ => g) m.tokensClash).1
  for _ in [0:bound] do
    let (g', changed) := g.split bound m.rowsOf Merging.successorsDiffer
    g := g'
    unless changed do break
  -- the groups of states 0 and 1 come first
  let swap (g : Groups) (state position : Nat) : Groups := Id.run do
    let old := g.groupOf[state]!
    if old == position then return g
    let a := g.members[old]!
    let b := g.members[position]!
    let mut groupOf := g.groupOf
    for i in a do
      groupOf := groupOf.set! i position
    for i in b do
      groupOf := groupOf.set! i old
    return { groupOf, members := (g.members.set! old b).set! position a }
  g := swap (swap g 0 0) 1 1
  let mut out : Array State := #[]
  for ms in g.members do
    match ms with
    | [] => out := out.push default
    | first :: others =>
      let mut s := states[first]!
      for i in others do
        let o := states[i]!
        s := { s with
          actions := Array.zipWith (fun a b => if b.isEmpty then a else b) s.actions o.actions
          gotos := Array.zipWith (fun a b => if b == 0 then a else b) s.gotos o.gotos
          reserved := s.reserved ||| o.reserved }
        let tokens := s.tokens
        s := { s with reserved := s.reserved ^^^ (s.reserved &&& tokens) }
      out := out.push (s.retarget fun _ i => g.groupOf[i]!)
  return out

/-! ### Skipping states -/

/-- The variable that a state puts in the place of a single node, if that is all it does and the
variable leaves no trace in a tree. -/
def unitReduction? (src : Source) (aliased : Symbol → Bool) (s : State) : Option Symbol :=
  let lay := src.productions.resolved.layout
  let plain (v : Symbol) : Bool :=
    (src.productions.standing[v]!).isNone
      && !src.productions.resolved.supertypes.contains v
      && !src.productions.resolved.extras.contains v
      && !aliased v
      && match lay.variableIndex? v with
        | some i => src.productions.visibility[i]! != .named
        | none => false
  let all := s.actions.toList.flatten
  let reduces := all.filterMap fun a => match a with
    | .reduce v 1 0 0 => if plain v then some v else none
    | _ => none
  let passes := all.filter fun a => a == .pass
  match reduces with
  | v :: vs => if reduces.length + passes.length == all.length && vs.all (· == v) then some v else none
  | [] => none

/-- Leads past the states that only put one variable in the place of another. -/
def skipUnits (src : Source) (states : Array State) : Array State := Id.run do
  let mut aliased : Array Bool := Array.replicate src.productions.standing.size false
  for ps in src.productions.declared do
    for p in ps do
      for s in p.steps do
        if s.shownAs.isSome then aliased := aliased.set! s.symbol true
  let aliasedFinal := aliased
  let units := states.map (unitReduction? src fun s => aliasedFinal[s]!)
  let past (s : State) (t : Nat) : Nat := Id.run do
    let mut t := t
    for _ in [0:states.size] do
      match units[t]! with
      | some v =>
        let u := match src.productions.resolved.layout.variableIndex? v with
          | some i => s.gotos[i]!
          | none => 0
        if u == 0 then break else t := u
      | none => break
    return t
  return states.map (State.retarget past)

/-- Drops the states that nothing leads to, and sorts the others by size, largest first. -/
def arrange (states : Array State) : Array State := Id.run do
  let mut used : Array Bool := Array.replicate states.size false
  used := (used.set! 0 true).set! 1 true
  for s in states do
    for t in s.targets do
      used := used.set! t true
  let kept := (List.range states.size).filter fun i => used[i]!
  let sizes := states.map State.size
  let sorted := kept.take 2 ++ (kept.drop 2).mergeSort fun a b => sizes[b]! ≤ sizes[a]!
  let mut number : Array Nat := Array.replicate states.size 0
  let mut n := 0
  for i in sorted do
    number := number.set! i n
    n := n + 1
  let final := number
  return (sorted.map fun i => (states[i]!).retarget fun _ t => final[t]!).toArray

end JsxOutline.Automaton
