import JsxOutline.Grammar.Symbols

/-!
# Productions

The rules of a grammar as sequences of symbols.  Repetition becomes an auxiliary variable, a choice
becomes several productions, and what a rule says about binding, names and fields moves onto the
steps of its productions.
-/

namespace JsxOutline.Grammar

/-- A name under which a symbol shows instead of its own. -/
structure Alias where
  name : String
  named : Bool
deriving BEq, Hashable, Repr, Inhabited

structure Step where
  symbol : Symbol
  level : Level := .unset
  side : Option Side := none
  shownAs : Option Alias := none
  field : Option String := none
  /-- The set of words that an identifier at this place may not be. -/
  reserved : Nat := 0
deriving BEq, Hashable, Repr, Inhabited

/-- A sequence of symbols that a variable may stand for. -/
structure Production where
  steps : List Step
  /-- What this reading of an ambiguous text counts. -/
  weight : Int := 0
deriving BEq, Hashable, Repr, Inhabited

/-! ### Repetition -/

/-- The auxiliary variables made so far, each with the rule that it repeats. -/
structure Repeats where
  first : Symbol
  made : Array (String × Rule Symbol)

namespace Repeats

def find (r : Repeats) (owner : String) (inner : Rule Symbol) : Symbol × Repeats :=
  match r.made.findIdx? (·.2 == inner) with
  | some i => (r.first + i, r)
  | none => (r.first + r.made.size, { r with made := r.made.push (owner ++ "_repeat", inner) })

def expand (owner : String) : Rule Symbol → Repeats → Rule Symbol × Repeats
  | .blank, r => (.blank, r)
  | .leaf s, r => (.leaf s, r)
  | .seq a b, r =>
    let (a, r) := expand owner a r
    let (b, r) := expand owner b r
    (.seq a b, r)
  | .alt a b, r =>
    let (a, r) := expand owner a r
    let (b, r) := expand owner b r
    (.alt a b, r)
  | .repeat1 a, r =>
    let (a, r) := expand owner a r
    let (s, r) := r.find owner a
    (.leaf s, r)
  | .bind l s a, r => let (a, r) := expand owner a r; (.bind l s a, r)
  | .weigh n a, r => let (a, r) := expand owner a r; (.weigh n a, r)
  | .rename n b a, r => let (a, r) := expand owner a r; (.rename n b a, r)
  | .field f a, r => let (a, r) := expand owner a r; (.field f a, r)
  | .reserve w a, r => let (a, r) := expand owner a r; (.reserve w a, r)

/-- The auxiliary variables: a repetition is two repetitions or one of what is repeated. -/
def vars (r : Repeats) : Array Variable :=
  r.made.mapIdx fun i (name, inner) =>
    let self := .leaf (r.first + i)
    { name, visibility := .auxiliary, rule := .alt (.seq self self) inner }

end Repeats

/-! ### Choice -/

/-- The rules without choice that a rule stands for, in the order of its alternatives. -/
def Rule.choices : Rule Symbol → List (Rule Symbol)
  | .blank => [.blank]
  | .leaf s => [.leaf s]
  | .seq a b => a.choices.flatMap fun x => b.choices.map fun y => .seq x y
  | .alt a b => a.choices ++ b.choices
  | .repeat1 a => [.repeat1 a]
  | .bind l s a => a.choices.map (.bind l s ·)
  | .weigh n a => a.choices.map (.weigh n ·)
  | .rename n b a => a.choices.map (.rename n b ·)
  | .field f a => a.choices.map (.field f ·)
  | .reserve w a => a.choices.map (.reserve w ·)

/-! ### Steps -/

structure Context where
  level : Level := .unset
  side : Option Side := none
  shownAs : Option Alias := none
  field : Option String := none
  reserved : Nat := 0

def Context.step (c : Context) (s : Symbol) : Step :=
  { symbol := s, level := c.level, side := c.side, shownAs := c.shownAs, field := c.field,
    reserved := c.reserved }

/-- Of two weights the one that is further from zero; the first of two equally far. -/
def heavier (a b : Int) : Int := if b.natAbs > a.natAbs then b else a

/-- Lays out a rule without choice.  A construct binds between its symbols and not after its last
one, unless that is the last symbol of the whole production: so the last step of an inner construct
takes the level and side of what is around it. -/
def Rule.layOut : Rule Symbol → Context → Bool → Production
  | .blank, _, _ => ⟨[], 0⟩
  | .leaf s, c, _ => ⟨[c.step s], 0⟩
  | .seq a b, c, last =>
    let x := a.layOut c false
    let y := b.layOut c last
    ⟨x.steps ++ y.steps, heavier x.weight y.weight⟩
  | .alt a _, c, last => a.layOut c last
  | .repeat1 a, c, last => a.layOut c last
  | .bind l s a, c, last =>
    let set := match l with | .unset => false | _ => true
    let x := a.layOut
      { c with level := if set then l else c.level, side := if s.isSome then s else c.side } last
    if last then x
    else
      let relax (t : Step) : Step :=
        { t with level := if set then c.level else t.level
                 side := if s.isSome then c.side else t.side }
      { x with steps := x.steps.dropLast ++ x.steps.getLast?.toList.map relax }
  | .weigh n a, c, last =>
    let x := a.layOut c last
    { x with weight := heavier n x.weight }
  | .rename n b a, c, last => a.layOut { c with shownAs := some ⟨n, b⟩ } last
  | .field f a, c, last => a.layOut { c with field := some f } last
  | .reserve w a, c, last => a.layOut { c with reserved := w } last

def Rule.productions (r : Rule Symbol) : Array Production :=
  (r.choices.map fun x => x.layOut {} true).foldl
    (fun acc p => if acc.contains p then acc else acc.push p) #[]

/-! ### Aliases that always apply

A symbol that never stands without an alias shows under the most frequent one everywhere, and the
places that ask for just that one need not say so. -/

/-- How a symbol is used: without an alias at all, and with which aliases how often. -/
structure AliasUse where
  bare : Bool := false
  counts : List (Alias × Nat) := []
deriving Inhabited

def AliasUse.add (u : AliasUse) : Option Alias → AliasUse
  | none => { u with bare := true }
  | some a =>
    if u.counts.any (·.1 == a) then
      { u with counts := u.counts.map fun (b, n) => if b == a then (b, n + 1) else (b, n) }
    else { u with counts := u.counts ++ [(a, 1)] }

/-- The most frequent alias, the first of several, of a symbol that never stands without one. -/
def AliasUse.standing (u : AliasUse) : Option Alias :=
  if u.bare then none
  else (u.counts.foldl
    (fun best (a, n) => match best with
      | some (_, m) => if n > m then some (a, n) else best
      | none => some (a, n)) none).map (·.1)

/-- For each symbol the alias under which it shows everywhere. -/
def standingAliases (symbolCount : Nat) (isInlined : Symbol → Bool) (extras : List Symbol)
    (vars : Array (Array Production)) : Array (Option Alias) := Id.run do
  let mut uses : Array AliasUse := Array.replicate symbolCount {}
  for ps in vars do
    for p in ps do
      for s in p.steps do
        unless isInlined s.symbol do
          uses := uses.modify s.symbol (·.add s.shownAs)
  for s in extras do
    uses := uses.modify s (·.add none)
  return uses.map AliasUse.standing

/-- Drops the aliases that always apply from the productions of one variable.  An alias stays where
another production has the same one at the same place for a symbol that needs it. -/
def dropStanding (standing : Array (Option Alias)) (ps : Array Production) : Array Production :=
  let needed (i j : Nat) (a : Alias) : Bool :=
    (List.range ps.size).any fun k => k != i &&
      match ps[k]!.steps[j]? with
      | some t => t.shownAs == some a && standing[t.symbol]! != some a
      | none => false
  ps.mapIdx fun i p => { p with steps := p.steps.mapIdx fun j s =>
    match s.shownAs with
    | some a => if standing[s.symbol]! == some a && !needed i j a then { s with shownAs := none } else s
    | none => s }

/-! ### Expansion in place -/

/-- Puts the steps of a production in the place of one step.  An alias or a field of the step goes
to all of them, its level and side to the last one if that has none. -/
def substitute (before : List Step) (s : Step) (after : List Step) (weight : Int) (p : Production) :
    Production :=
  let named := p.steps.map fun t =>
    { t with shownAs := s.shownAs.or t.shownAs, field := s.field.or t.field }
  let bound (t : Step) : Step :=
    { t with level := (match t.level with | .unset => s.level | l => l)
             side := t.side.or s.side }
  ⟨before ++ named.dropLast ++ named.getLast?.toList.map bound ++ after, heavier weight p.weight⟩

/-- Expands the inlined variables of a production, leftmost first; `fuel` bounds the number of
expansions. -/
def inlineSteps (productionsOf : Symbol → Option (Array Production)) :
    Nat → Production → List Production
  | 0, p => [p]
  | fuel + 1, p =>
    match p.steps.findIdx? fun s => (productionsOf s.symbol).isSome with
    | none => [p]
    | some i =>
      match p.steps[i]? with
      | none => [p]
      | some s =>
        ((productionsOf s.symbol).getD #[]).toList.flatMap fun q =>
          inlineSteps productionsOf fuel
            (substitute (p.steps.take i) s (p.steps.drop (i + 1)) p.weight q)

/-! ### The grammar of productions -/

structure Productions where
  resolved : Resolved
  names : Array String
  visibility : Array Visibility
  /-- The productions of each variable as declared, before expansion in place. -/
  declared : Array (Array Production)
  /-- The productions of each variable; an inlined variable is in none of them. -/
  productions : Array (Array Production)
  inlined : Array Bool
  standing : Array (Option Alias)
deriving Inhabited

def Resolved.toProductions (g : Resolved) : Productions := Id.run do
  let lay := g.layout
  let mut repeats : Repeats := ⟨lay.var g.vars.size, #[]⟩
  let mut own : Array Variable := #[]
  for v in g.vars do
    let (rule, r) := Repeats.expand v.name v.rule repeats
    repeats := r
    own := own.push { v with rule }
  let vars := own ++ repeats.vars
  let symbolCount := lay.tokenCount + vars.size
  let inlined := g.inlined ++ Array.replicate (vars.size - g.inlined.size) false
  let isInlined (s : Symbol) : Bool := match lay.variableIndex? s with
    | some i => inlined[i]!
    | none => false
  let raw := vars.map (·.rule.productions)
  let standing := standingAliases symbolCount isInlined g.extras raw
  let declared := raw.map (dropStanding standing)
  let productionsOf (s : Symbol) : Option (Array Production) := match lay.variableIndex? s with
    | some i => if inlined[i]! then declared[i]? else none
    | none => none
  let productions := declared.map fun ps =>
    (ps.toList.flatMap (inlineSteps productionsOf 100)).foldl
      (fun acc p => if acc.contains p then acc else acc.push p) #[]
  return {
    resolved := g
    names := vars.map (·.name)
    visibility := vars.map (·.visibility)
    declared, productions, inlined, standing }

end JsxOutline.Grammar
