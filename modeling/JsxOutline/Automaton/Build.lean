import JsxOutline.Automaton.State
import Std.Data.HashSet

/-!
# Building the states

From the item that expects the whole text, each state is expanded in the order in which it was
found: what it takes leads to further states, what is complete in it is reduced.
-/

namespace JsxOutline.Automaton

open JsxOutline.Grammar

structure Source where
  productions : Productions
  items : Items
  firsts : Firsts
  rankings : List (List Ranking)
deriving Inhabited

/-- A conflict that the levels do not settle: where the state was reached, the token, and the
variables that could go on. -/
structure Conflict where
  state : Nat
  token : Symbol
  vars : List Nat
deriving Inhabited

structure Found where
  states : Array State
  kernels : Array Kernel
  index : Std.HashMap Kernel Nat
  cores : Std.HashMap (Array Nat) Nat
  conflicts : Array Conflict
deriving Inhabited

namespace Found

def add (f : Found) (k : Kernel) : Nat × Found :=
  match f.index[k]? with
  | some i => (i, f)
  | none =>
    let i := f.states.size
    let items := k.map (·.item)
    let core := match f.cores[items]? with
      | some c => c
      | none => f.cores.size
    (i, { f with
      states := f.states.push { actions := #[], gotos := #[], reserved := 0, core }
      kernels := f.kernels.push k
      index := f.index.insert k i
      cores := f.cores.insert items core })

end Found

def joinEntries (es : Array Entry) : Kernel :=
  if es.size ≤ 1 then es
  else
    let sorted := es.toList.mergeSort fun a b => a.item ≤ b.item
    sorted.foldl (fun acc e =>
      match acc.back? with
      | some l =>
        if l.item == e.item then
          acc.pop.push ⟨l.item, l.followers ||| e.followers, max l.reserved e.reserved⟩
        else acc.push e
      | none => acc.push e) (#[] : Kernel)

/-- The entries of a state: those of its kernel and those of the variables that they expect. -/
def closeKernel (src : Source) (k : Kernel) : Array Entry := Id.run do
  let lay := src.productions.resolved.layout
  let word := src.productions.resolved.word
  let n := src.productions.productions.size
  let mut followers : Array TokenSet := Array.replicate n 0
  let mut reserved : Array Nat := Array.replicate n 0
  let mut present : Array Nat := #[]
  let mut isPresent : Array Bool := Array.replicate n false
  for e in k do
    let item := src.items.items[e.item]!
    match item.next.bind lay.variableIndex? with
    | none => pure ()
    | some v =>
      let (after, afterReserved) := match item.afterNext with
        | some s => (src.firsts.first[s]!, src.firsts.reserved[s]!)
        | none => (e.followers, e.reserved)
      for x in src.firsts.expansions[v]! do
        unless isPresent[x.var]! do
          isPresent := isPresent.set! x.var true
          present := present.push x.var
        followers := followers.modify x.var (· ||| x.followers)
        if x.followers.testBit word then
          reserved := reserved.modify x.var (max · x.reserved)
        if x.last then
          followers := followers.modify x.var (· ||| after)
          if after.testBit word then
            reserved := reserved.modify x.var (max · afterReserved)
  let mut out : Array Entry := #[]
  for v in present do
    for i in src.items.initial[v]! do
      out := out.push ⟨i, followers[v]!, reserved[v]!⟩
  return out ++ k

/-- The actions that the complete items of a state ask for, for each token. -/
def reductionsOf (src : Source) (entries : Array Entry) :
    Array (List Action × Reductions) := Id.run do
  let lay := src.productions.resolved.layout
  let n := src.productions.productions.size
  let done := (entries.filter fun e => (src.items.items[e.item]!).next.isNone).toList.mergeSort
    fun a b => a.item ≤ b.item
  let mut table : Array (List Action × Reductions) := Array.replicate lay.tokenCount ([], {})
  for e in done do
    let item := src.items.items[e.item]!
    let line := src.items.lines[item.line]!
    let action := if item.var == n then Action.accept
      else .reduce (lay.var item.var) item.index line.weight line.shape
    for t in [0:lay.tokenCount] do
      if e.followers.testBit t then
        table := table.modify t
          (addReduction src.productions.names src.rankings action item.var item.level item.side)
  return table

/-- Settles one token at which reductions and possibly a shift are wanted. -/
def settle (src : Source) (kernel : Kernel) (token : Symbol) (reduces : List Action)
    (r : Reductions) (target : Option Nat) : List Action × Option (List Nat) :=
  let n := src.productions.productions.size
  -- the items of the kernel that can take the token
  let taking := kernel.toList.filterMap fun e =>
    let item := src.items.items[e.item]!
    match item.next with
    | some s =>
      if item.index > 0 && (src.firsts.first[s]!).testBit token then some (item.level, item.var)
      else none
    | none => none
  let complete := kernel.toList.filterMap fun e =>
    let item := src.items.items[e.item]!
    if item.next.isNone && e.followers.testBit token && item.var != n then some item.var
    else none
  let involved := (taking.map (·.2)).filter (· != n) ++ complete
  match target with
  | none => if reduces.length ≤ 1 then (reduces, none) else (reduces, some complete)
  | some t =>
    match involved with
    | v :: vs =>
      if src.productions.visibility[v]! == .auxiliary && vs.all (· == v) then
        (reduces ++ [.shift t true], none)
      else
        let actions := decide src.productions.names src.rankings r taking reduces t
        (actions, if actions.length ≤ 1 then none else some involved)
    | [] => (reduces ++ [.shift t false], none)

/-- Expands one state: finds the states that it leads to and settles its actions. -/
def expand (src : Source) (f : Found) (i : Nat) : Found := Id.run do
  let lay := src.productions.resolved.layout
  let word := src.productions.resolved.word
  let symbolCount := lay.tokenCount + src.productions.productions.size
  let kernel := f.kernels[i]!
  let entries := closeKernel src kernel
  let mut f := f
  -- what each symbol leads to
  let mut buckets : Array (Array Entry) := Array.replicate symbolCount #[]
  let mut wordSets : Option Nat := none
  for e in entries do
    let item := src.items.items[e.item]!
    match item.next with
    | some s =>
      buckets := buckets.modify s (·.push ⟨item.successor, e.followers, e.reserved⟩)
      if s == word then wordSets := some (max (wordSets.getD 0) item.reserved)
    | none =>
      if e.followers.testBit word then wordSets := some (max (wordSets.getD 0) e.reserved)
  let mut shifts : Array (Option Nat) := #[]
  for s in [0:lay.tokenCount] do
    if (buckets[s]!).isEmpty then shifts := shifts.push none
    else
      let (t, f') := f.add (joinEntries buckets[s]!)
      f := f'
      shifts := shifts.push (some t)
  let mut gotos : Array Nat := #[]
  for s in [lay.tokenCount:symbolCount] do
    if (buckets[s]!).isEmpty then gotos := gotos.push 0
    else
      let (t, f') := f.add (joinEntries buckets[s]!)
      f := f'
      gotos := gotos.push t
  -- actions
  let reductions := reductionsOf src entries
  let mut actions : Array (List Action) := #[]
  for t in [0:lay.tokenCount] do
    let (rs, r) := reductions[t]!
    match rs, shifts[t]! with
    | [], none =>
      actions := actions.push (if src.productions.resolved.extras.contains t then [.pass] else [])
    | [], some s => actions := actions.push [.shift s false]
    | [a], none => actions := actions.push [a]
    | _, target =>
      let (as, conflict) := settle src kernel t rs r target
      match conflict with
      | some vs => f := { f with conflicts := f.conflicts.push ⟨i, t, vs⟩ }
      | none => pure ()
      actions := actions.push as
  let reservedSets := src.productions.resolved.reserved
  let reserved := match wordSets with
    | some k => ((reservedSets[k]?).getD []).foldl (fun acc s => acc ||| (1 <<< s)) 0
    | none => 0
  return { f with states := f.states.modify i fun s => { s with actions, gotos, reserved } }

/-- Builds the states of a grammar.  State 0 is the state in which tokens are left out, state 1 the
one at the beginning of the text.  `bound` limits the number of states. -/
def buildStates (src : Source) (bound : Nat) : Found := Id.run do
  let empty : Found := { states := #[], kernels := #[], index := {}, cores := {}, conflicts := #[] }
  let (_, f) := empty.add #[]
  let (_, f) := f.add #[⟨src.items.start, 1 <<< src.productions.resolved.layout.eof, 0⟩]
  let mut f := f
  for i in [0:bound] do
    if i < f.states.size then f := expand src f i else break
  return f

end JsxOutline.Automaton
