import JsxOutline.Automaton.Items

/-!
# First symbols and expansions

Which tokens a symbol may begin and end with, and which variables come into play where a variable
is expected, together with the tokens that may follow them there.  Sets of tokens are bits of a
number.
-/

namespace JsxOutline.Automaton

open JsxOutline.Grammar

abbrev TokenSet := Nat

/-- One variable that comes into play where another one is expected. -/
structure Expansion where
  var : Nat
  /-- The tokens that may follow it in any case. -/
  followers : TokenSet
  /-- The strictest set of reserved words among those followers. -/
  reserved : Nat
  /-- Whether it may be last, so that what follows the expected variable may follow it as well. -/
  last : Bool
deriving Inhabited

/-- What the automaton needs to know about the symbols of a grammar. -/
structure Firsts where
  /-- The tokens that each symbol may begin with. -/
  first : Array TokenSet
  /-- The tokens that each symbol may end with. -/
  final : Array TokenSet
  /-- The widest set of reserved words at the beginning of each symbol. -/
  reserved : Array Nat
  /-- The variables that come into play where each variable is expected. -/
  expansions : Array (Array Expansion)
deriving Inhabited

/-- The variables that a variable may begin (or end) with, itself included. -/
def reachable (edges : Array (List Nat)) (v : Nat) : List Nat := Id.run do
  let mut seen : Array Bool := (Array.replicate edges.size false).set! v true
  let mut todo : List Nat := [v]
  let mut out : List Nat := []
  for _ in [0:edges.size + 1] do
    match todo with
    | [] => break
    | u :: rest =>
      out := u :: out
      todo := rest
      for w in edges[u]! do
        unless seen[w]! do
          seen := seen.set! w true
          todo := w :: todo
  return out

def expansionsOf (lay : Layout) (productions : Array (Array Production)) (first : Array TokenSet)
    (reserved : Array Nat) (v : Nat) : Array Expansion := Id.run do
  let mut info : Array (Option Expansion) := Array.replicate productions.size none
  let mut todo : List Expansion := [⟨v, 0, 0, true⟩]
  for _ in [0:1000000] do
    match todo with
    | [] => break
    | e :: rest =>
      todo := rest
      let old := (info[e.var]!).getD ⟨e.var, 0, 0, false⟩
      let new : Expansion :=
        ⟨e.var, old.followers ||| e.followers, max old.reserved e.reserved, old.last || e.last⟩
      let changed := new.followers != old.followers || new.reserved != old.reserved
        || new.last != old.last
      if changed then
        info := info.set! e.var (some new)
        for p in productions[e.var]! do
          match p.steps with
          | s :: t :: _ =>
            match lay.variableIndex? s.symbol with
            | some u => todo := ⟨u, first[t.symbol]!, reserved[t.symbol]!, false⟩ :: todo
            | none => pure ()
          | [s] =>
            match lay.variableIndex? s.symbol with
            | some u => todo := { e with var := u } :: todo
            | none => pure ()
          | [] => pure ()
  return info.filterMap id

/-- Computes the first and last tokens of all symbols and the expansions of all variables. -/
def Firsts.ofProductions (g : Productions) : Firsts := Id.run do
  let lay := g.resolved.layout
  let ps := g.declared
  let starts := ps.map fun ps => ps.toList.filterMap fun p => p.steps.head?
  let ends := ps.map fun ps => ps.toList.filterMap fun p => p.steps.getLast?
  let edgesOf (xs : Array (List Step)) : Array (List Nat) :=
    xs.map fun ss => ss.filterMap fun s => lay.variableIndex? s.symbol
  let tokensOf (xs : Array (List Step)) : Array TokenSet :=
    xs.map fun ss => ss.foldl
      (fun acc s => if (lay.variableIndex? s.symbol).isNone then acc ||| (1 <<< s.symbol) else acc) 0
  let startEdges := edgesOf starts
  let endEdges := edgesOf ends
  let startTokens := tokensOf starts
  let endTokens := tokensOf ends
  let mut first : Array TokenSet := (Array.range lay.tokenCount).map (1 <<< ·)
  let mut final : Array TokenSet := first
  let mut reserved : Array Nat := Array.replicate lay.tokenCount 0
  for v in [0:ps.size] do
    let near := reachable startEdges v
    first := first.push (near.foldl (fun acc u => acc ||| startTokens[u]!) 0)
    reserved := reserved.push
      (near.foldl (fun acc u => (starts[u]!).foldl (fun a s => max a s.reserved) acc) 0)
    let far := reachable endEdges v
    final := final.push (far.foldl (fun acc u => acc ||| endTokens[u]!) 0)
  let mut expansions : Array (Array Expansion) := #[]
  for v in [0:ps.size] do
    expansions := expansions.push
      ((expansionsOf lay g.productions first reserved v).filter fun e => !g.inlined[e.var]!)
  return { first, final, reserved, expansions }

/-- The tokens that may follow each token of the lexicon, as bits over the lexicon. -/
def followersOfTokens (g : Productions) (f : Firsts) : Array Nat := Id.run do
  let lay := g.resolved.layout
  let base := lay.lexeme 0
  let mut out : Array Nat := Array.replicate lay.lexemeCount 0
  let reservedSets := g.resolved.reserved.map fun ws => ws.foldl (fun acc s => acc ||| (1 <<< s)) 0
  for v in [0:g.declared.size] do
    for p in (g.declared[v]! ++ g.productions[v]!) do
      let steps := p.steps.toArray
      for i in [1:steps.size] do
        let left := f.final[steps[i - 1]!.symbol]!
        let symbol := steps[i]!.symbol
        let words := (reservedSets[f.reserved[symbol]!]?).getD 0
        let right := ((f.first[symbol]! ||| words) >>> base)
        for t in [0:lay.lexemeCount] do
          if left.testBit (base + t) then out := out.modify t (· ||| right)
  for s in g.resolved.extras do
    match lay.lexemeIndex? s with
    | some x =>
      out := out.map (· ||| (1 <<< x))
      out := out.set! x ((1 <<< lay.lexemeCount) - 1)
    | none => pure ()
  return out

end JsxOutline.Automaton
