import JsxOutline.Automaton.Closure

/-!
# States and actions

The states of an automaton that reads a text with one token in advance, and how a state decides
between the actions that its items ask for.
-/

namespace JsxOutline.Automaton

open JsxOutline.Grammar

inductive Action where
  /-- Take the token and go on in a state; `again` marks the second reading of a repetition. -/
  | shift (state : Nat) (again : Bool)
  /-- Take the token, which may stand anywhere, and stay. -/
  | pass
  /-- Put a variable in the place of the last `count` nodes. -/
  | reduce (symbol count : Nat) (weight : Int) (shape : Nat)
  | accept
  /-- Begin to leave out tokens. -/
  | recover
deriving BEq, Repr, Inhabited

structure State where
  /-- The actions at each token; none where the token is not expected. -/
  actions : Array (List Action)
  /-- The next state after each variable, by the index of the variable; 0 where there is none. -/
  gotos : Array Nat
  /-- The words that are no identifiers here. -/
  reserved : TokenSet
  /-- States with the same items share a core. -/
  core : Nat
deriving Inhabited

namespace State

def actionsAt (s : State) (t : Symbol) : List Action := s.actions.getD t []

def tokens (s : State) : TokenSet := Id.run do
  let mut acc := 0
  for t in [0:s.actions.size] do
    unless (s.actions[t]!).isEmpty do acc := acc ||| (1 <<< t)
  return acc

def size (s : State) : Nat :=
  s.actions.countP (fun as => !as.isEmpty) + s.gotos.countP (· != 0)

def retarget (f : State → Nat → Nat) (s : State) : State :=
  let action : Action → Action
    | .shift t again => .shift (f s t) again
    | a => a
  { s with
    actions := s.actions.map fun as => as.map action
    gotos := s.gotos.map fun t => if t == 0 then 0 else f s t }

def targets (s : State) : List Nat :=
  (s.actions.toList.flatMap fun as => as.filterMap fun a => match a with
    | .shift t _ => some t
    | _ => none)
  ++ s.gotos.toList.filter (· != 0)

end State

/-- An item together with the tokens that may follow it, and with the set of reserved words that
holds where an identifier follows it. -/
structure Entry where
  item : Nat
  followers : TokenSet
  reserved : Nat
deriving BEq, Inhabited

def hashTokens (s : TokenSet) : UInt64 :=
  mixHash s.toUInt64 (mixHash (s >>> 64).toUInt64 (s >>> 128).toUInt64)

instance : Hashable Entry where
  hash e := mixHash e.item.toUInt64 (mixHash (hashTokens e.followers) e.reserved.toUInt64)

/-- The items that a state consists of, in their order. -/
abbrev Kernel := Array Entry

/-! ### Levels -/

/-- Whether an entry of a ranking is the level, or names one of the variables. -/
def Ranking.fits (names : Array String) (level : Level) (vars : List Nat) : Ranking → Bool
  | .level s => level == .name s
  | .rule s => vars.any fun v => (names[v]?).getD "" == s

def compareInRanking (fitsLeft fitsRight : Ranking → Bool) : Bool → Bool → List Ranking → Ordering
  | _, _, [] => .eq
  | sawLeft, sawRight, r :: rs =>
    if fitsLeft r then
      if sawRight then .lt else compareInRanking fitsLeft fitsRight true sawRight rs
    else if fitsRight r then
      if sawLeft then .gt else compareInRanking fitsLeft fitsRight sawLeft true rs
    else compareInRanking fitsLeft fitsRight sawLeft sawRight rs

/-- Compares two levels, each with the variables that it belongs to.  Numbers other than zero
compare as numbers, with no level as zero; for the rest the first ranking with both decides. -/
def compareLevels (names : Array String) (rankings : List (List Ranking))
    (a : Level) (as : List Nat) (b : Level) (bs : List Nat) : Ordering :=
  let byRanking := (rankings.map
    (compareInRanking (Ranking.fits names a as) (Ranking.fits names b bs) false false)).find?
      (· != .eq) |>.getD .eq
  match a, b with
  | .number l, .number r => if l != 0 || r != 0 then compare l r else byRanking
  | .number l, .unset => if l != 0 then compare l 0 else byRanking
  | .unset, .number r => if r != 0 then compare 0 r else byRanking
  | _, _ => byRanking

/-! ### Deciding -/

/-- What the reductions at one token have in common. -/
structure Reductions where
  level : Level := .unset
  vars : List Nat := []
  left : Bool := false
  right : Bool := false
  neither : Bool := false
deriving Inhabited

def addReduction (names : Array String) (rankings : List (List Ranking)) (action : Action)
    (var : Nat) (level : Level) (side : Option Side)
    (old : List Action × Reductions) : List Action × Reductions :=
  let note (r : Reductions) : Reductions :=
    { r with
      level
      vars := if r.vars.contains var then r.vars else r.vars ++ [var]
      left := r.left || side == some .left
      right := r.right || side == some .right
      neither := r.neither || side == none }
  if old.1.isEmpty then ([action], note old.2)
  else match compareLevels names rankings level [var] old.2.level old.2.vars with
    | .gt => ([action], note {})
    | .eq => (old.1 ++ [action], note old.2)
    | .lt => old

/-- Decides between taking a token and the reductions at it.  `pending` holds the level and the
variable of each item that takes the token. -/
def decide (names : Array String) (rankings : List (List Ranking)) (reductions : Reductions)
    (pending : List (Level × Nat)) (reduces : List Action) (target : Nat) : List Action :=
  let shift := Action.shift target false
  let orders := pending.map fun p =>
    compareLevels names rankings p.1 [p.2] reductions.level reductions.vars
  let stronger := orders.contains .gt
  let weaker := orders.contains .lt
  if stronger && !weaker then [shift]
  else if weaker && !stronger then reduces
  else if !weaker && !stronger then
    match reductions.left, reductions.neither, reductions.right with
    | true, false, false => reduces
    | false, false, true => [shift]
    | _, _, _ => reduces ++ [shift]
  else reduces ++ [shift]

end JsxOutline.Automaton
