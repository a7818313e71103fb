import JsxOutline.Grammar.Production
import Std.Data.HashMap

/-!
# Items

An item is a production with a place in it.  Two items are one and the same where what is still to
come and what counts of the past agree; the numbers of items follow their order, in which shorter
pasts come first and then the order of the variables.
-/

namespace JsxOutline.Automaton

open JsxOutline.Grammar

/-! ### What a production does with the nodes under it -/

/-- The names that a production gives to the nodes under it: an alias for each, and the fields. -/
structure Shape where
  aliases : List (Option Alias)
  /-- Field name, index of the node, and whether the node only passes its own field on. -/
  fields : List (String × Nat × Bool)
deriving BEq, Hashable, Repr, Inhabited

namespace Shape

/-- The shape that changes nothing. -/
def plain : Shape := ⟨[], []⟩

end Shape

/-- Drops what is `none` at the end of a list. -/
def dropTrailingNone {α : Type} (xs : List (Option α)) : List (Option α) :=
  (xs.reverse.dropWhile Option.isNone).reverse

/-! ### Items -/

/-- A production of a variable as the automaton uses it. -/
structure Line where
  var : Nat
  steps : Array Step
  weight : Int
  shape : Nat
deriving Inhabited

/-- What an item is compared by. -/
structure ItemKey where
  index : Nat
  var : Nat
  weight : Int
  length : Nat
  level : Level
  side : Option Side
  passesFields : Bool
  past : List (Option Alias × Option String × Option Symbol)
  future : List Step
deriving BEq, Hashable, Inhabited

structure Item where
  line : Nat
  var : Nat
  index : Nat
  /-- The symbol that is expected next. -/
  next : Option Symbol
  /-- The symbol that is expected after that one. -/
  afterNext : Option Symbol
  /-- The set of reserved words at the next symbol. -/
  reserved : Nat
  /-- The item after the next symbol. -/
  successor : Nat
  /-- The level and side of the last symbol. -/
  level : Level
  side : Option Side
deriving Inhabited

structure Items where
  lines : Array Line
  shapes : Array Shape
  items : Array Item
  /-- The items at the beginning of the productions of each variable. -/
  initial : Array (Array Nat)
  /-- The item that expects the whole text. -/
  start : Nat
deriving Inhabited

/-! ### Order -/

def compareLevel : Level → Level → Ordering
  | .unset, .unset => .eq
  | .unset, _ => .lt
  | .number _, .unset => .gt
  | .number a, .number b => compare a b
  | .number _, .name _ => .lt
  | .name a, .name b => compare a b
  | .name _, _ => .gt

/-- Orders options, with nothing first. -/
def compareOption {α : Type} (f : α → α → Ordering) : Option α → Option α → Ordering
  | none, none => .eq
  | none, some _ => .lt
  | some _, none => .gt
  | some a, some b => f a b

def compareSide : Side → Side → Ordering
  | .left, .right => .lt
  | .right, .left => .gt
  | _, _ => .eq

def compareAlias (a b : Alias) : Ordering := (compare a.name b.name).then (compare a.named b.named)

/-- Orders the steps that are still to come. -/
def compareStep (a b : Step) : Ordering :=
  (compare a.symbol b.symbol).then <| (compareLevel a.level b.level).then <|
  (compareOption compareSide a.side b.side).then <|
  (compareOption compareAlias a.shownAs b.shownAs).then <|
  (compareOption compare a.field b.field).then (compare a.reserved b.reserved)

/-- Orders lists of equal length by their first difference. -/
def compareLists {α : Type} (f : α → α → Ordering) : List α → List α → Ordering
  | a :: as, b :: bs => (f a b).then (compareLists f as bs)
  | [], [] => .eq
  | [], _ => .lt
  | _, [] => .gt

def compareKey (a b : ItemKey) : Ordering :=
  (compare a.index b.index).then <| (compare a.var b.var).then <|
  (compare a.weight b.weight).then <| (compare a.length b.length).then <|
  (compareLevel a.level b.level).then <| (compareOption compareSide a.side b.side).then <|
  (compare a.passesFields b.passesFields).then <|
  (compareLists
    (fun x y => (compareOption compareAlias x.1 y.1).then <|
      (compareOption compare x.2.1 y.2.1).then (compareOption compare x.2.2 y.2.2))
    a.past b.past).then
  (compareLists compareStep a.future b.future)

/-! ### Construction -/

/-- The fields that each variable passes on when it is hidden. -/
def fieldsOfVariables (g : Productions) : Array (List String) := Id.run do
  let lay := g.resolved.layout
  let mut fields : Array (List String) := Array.replicate g.productions.size []
  -- each round adds at least one field or is the last one
  for _ in [0:100] do
    let mut changed := false
    for v in [0:g.declared.size] do
      for p in g.declared[v]! do
        for s in p.steps do
          let mut found := s.field.toList
          let shown := s.shownAs.isSome || (g.standing[s.symbol]!).isSome
          match lay.variableIndex? s.symbol with
          | some u =>
            if !shown && !(g.visibility[u]!).isVisible
                && !g.resolved.supertypes.contains s.symbol then
              found := found ++ fields[u]!
          | none => pure ()
          for f in found do
            unless (fields[v]!).contains f do
              fields := fields.modify v (· ++ [f])
              changed := true
    unless changed do break
  return fields

def shapeOf (g : Productions) (fields : Array (List String)) (p : Production) : Shape :=
  let lay := g.resolved.layout
  let aliases := dropTrailingNone (p.steps.map (·.shownAs))
  let named := p.steps.zipIdx.flatMap fun (s, i) =>
    let own := s.field.toList.map fun f => (f, i, false)
    let passed := match lay.variableIndex? s.symbol with
      | some u => if (g.visibility[u]!).isVisible then [] else (fields[u]!).map fun f => (f, i, true)
      | none => []
    own ++ passed
  ⟨aliases, named.mergeSort fun a b =>
    ((compare a.1 b.1).then <| (compare a.2.1 b.2.1).then (compare a.2.2 b.2.2)) != .gt⟩

def Items.ofProductions (g : Productions) : Items := Id.run do
  let lay := g.resolved.layout
  let fields := fieldsOfVariables g
  let mut shapes : Array Shape := #[.plain]
  let mut lines : Array Line := #[]
  for v in [0:g.productions.size] do
    unless g.inlined[v]! do
      for p in g.productions[v]! do
        let shape := shapeOf g fields p
        let id := match shapes.findIdx? (· == shape) with
          | some i => i
          | none => shapes.size
        if id == shapes.size then shapes := shapes.push shape
        lines := lines.push { var := v, steps := p.steps.toArray, weight := p.weight, shape := id }
  -- the line that stands for the whole text
  lines := lines.push { var := g.productions.size, steps := #[{ symbol := lay.var 0 }],
                        weight := 0, shape := 0 }
  let passes (s : Step) : Bool := match lay.variableIndex? s.symbol with
    | some u => !(g.visibility[u]!).isVisible && !(fields[u]!).isEmpty
    | none => false
  let keyOf (l : Line) (k : Nat) : ItemKey :=
    let steps := l.steps.toList
    let past := steps.take k
    let passesFields := past.any passes
    let last := past.getLast?
    { index := k, var := l.var, weight := l.weight, length := steps.length
      level := (last.map (·.level)).getD .unset, side := last.bind (·.side)
      passesFields
      past := past.map fun s => (s.shownAs, s.field, if passesFields then some s.symbol else none)
      future := steps.drop k }
  let mut seen : Std.HashMap ItemKey (Nat × Nat) := {}
  let mut keys : Array (ItemKey × Nat × Nat) := #[]
  for i in [0:lines.size] do
    let l := lines[i]!
    for k in [0:l.steps.size + 1] do
      let key := keyOf l k
      unless seen.contains key do
        seen := seen.insert key (i, k)
        keys := keys.push (key, i, k)
  let sorted := (keys.toList.mergeSort fun a b => compareKey a.1 b.1 != .gt).toArray
  let mut number : Std.HashMap ItemKey Nat := {}
  for i in [0:sorted.size] do
    number := number.insert sorted[i]!.1 i
  let items := sorted.map fun (key, i, k) =>
    let l := lines[i]!
    { line := i, var := l.var, index := k
      next := l.steps[k]?.map (·.symbol), afterNext := l.steps[k + 1]?.map (·.symbol)
      reserved := (l.steps[k]?.map (·.reserved)).getD 0
      successor := if k < l.steps.size then (number[keyOf l (k + 1)]?).getD 0 else 0
      level := key.level, side := key.side : Item }
  let mut initial : Array (Array Nat) := Array.replicate g.productions.size #[]
  for i in [0:lines.size - 1] do
    let l := lines[i]!
    let n := (number[keyOf l 0]?).getD 0
    unless (initial[l.var]!).contains n do
      initial := initial.modify l.var (·.push n)
  let start := (number[keyOf lines[lines.size - 1]! 0]?).getD 0
  return { lines, shapes, items, initial, start }

end JsxOutline.Automaton
