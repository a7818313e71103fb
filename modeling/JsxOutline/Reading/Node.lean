import JsxOutline.Automaton.Tables
import JsxOutline.Text.Lines

/-!
# Nodes

The nodes that a reading of a text is made of, with the cost of the faults in them.  A cheaper
reading is preferred.
-/

namespace JsxOutline.Reading

open JsxOutline.Grammar JsxOutline.Automaton JsxOutline.Text

/-! ### Costs of faults -/

/-- What it costs to leave the grammar at all. -/
def costPerRecovery : Nat := 500

def costPerMissing : Nat := 110

def costPerNode : Nat := 100

def costPerByte : Nat := 1

def costPerLine : Nat := 30

/-! ### Nodes -/

inductive Kind where
  | symbol (s : Symbol)
  /-- Text that does not fit the grammar. -/
  | fault
  /-- A part of such text, before all of it is known. -/
  | faultPart
deriving BEq, Repr, Inhabited

/-- A node.  Positions are indices of code points. -/
structure Node where
  kind : Kind
  /-- Where the blanks before the node begin. -/
  before : Nat
  /-- Where the text of the node begins. -/
  start : Nat
  /-- Where the text of the node ends. -/
  stop : Nat
  /-- Whether the node is part of the tree. -/
  visible : Bool
  /-- Whether the node may stand anywhere, as comments do. -/
  extra : Bool := false
  /-- Whether the node is not in the text but has to be thought of. -/
  missing : Bool := false
  /-- Whether the node is a keyword that was read as a word first. -/
  keyword : Bool := false
  /-- What the node says about its children. -/
  shape : Nat := 0
  /-- The cost of the faults in a node that is in the text. -/
  ownCost : Nat := 0
  /-- How much the rules prefer the node. -/
  weight : Int := 0
  /-- How many nodes of the tree are its children. -/
  visibleChildren : Nat := 0
  /-- How many nodes of the tree lie below it. -/
  visibleBelow : Nat := 0
  /-- The kind of its first leaf. -/
  leafKind : Kind
  /-- The state in which its first leaf was read. -/
  leafState : Nat := 0
  children : List Node := []
deriving Inhabited

namespace Node

def cost (n : Node) : Nat := if n.missing then costPerMissing + costPerRecovery else n.ownCost

def isFault (n : Node) : Bool := n.kind == .fault

def symbol? (n : Node) : Option Symbol := match n.kind with | .symbol s => some s | _ => none

def addWeight (d : Int) (n : Node) : Node := { n with weight := n.weight + d }

def withSymbol (a : Tables) (sym : Symbol) (n : Node) : Node :=
  { n with kind := .symbol sym, visible := (a.looks[sym]!).visible, leafKind := .symbol sym }

def kindVisible (a : Tables) : Kind → Bool
  | .symbol s => (a.looks[s]!).visible
  | .fault => true
  | .faultPart => false

def leaf (a : Tables) (kind : Kind) (before start stop state : Nat) (keyword : Bool) : Node where
  kind
  before
  start
  stop
  visible := kindVisible a kind
  extra := kind == .symbol a.layout.eof
  keyword
  leafKind := kind
  leafState := state

/-- A token that is not in the text but has to be thought of at a position. -/
def absent (a : Tables) (s : Symbol) (position : Nat) : Node where
  kind := .symbol s
  before := position
  start := position
  stop := position
  visible := kindVisible a (.symbol s)
  missing := true
  leafKind := .symbol s

/-- What the children of a node add up to. -/
structure Sum where
  cost : Nat := 0
  weight : Int := 0
  visibleChildren : Nat := 0
  visibleBelow : Nat := 0
  /-- How many children that are not extra have been seen. -/
  index : Nat := 0

/-- Adds a child.  Inside of a fault each visible child that is not extra costs, and a hidden one
costs what shows of it. -/
def Sum.add (inFault : Bool) (aliases : Array (Option Alias)) (s : Sum) (c : Node) : Sum :=
  let own := if c.kind == .faultPart then 0 else c.cost
  let isLeaf := c.children.isEmpty
  let leftOut :=
    if inFault && !c.extra && !(c.isFault && isLeaf) then
      if c.visible then costPerNode
      else if isLeaf then 0
      else costPerNode * c.visibleChildren
    else 0
  let aliased := !c.extra && ((aliases[s.index]?).getD none).isSome
  let shown := if aliased || c.visible then 1 else 0
  { cost := s.cost + own + leftOut
    weight := s.weight + c.weight
    visibleChildren := s.visibleChildren + (if shown == 1 then 1 else c.visibleChildren)
    visibleBelow := s.visibleBelow + c.visibleBelow + shown
    index := s.index + (if c.extra then 0 else 1) }

/-- A node with children; `position` is where it stands when it has none. -/
def parent (a : Tables) (t : Lines) (kind : Kind) (shape position : Nat) (children : List Node) :
    Node :=
  let inFault := kind == .fault || kind == .faultPart
  let aliases := ((a.shapes[shape]?).getD .plain).aliases.toArray
  let sum := children.foldl (Sum.add inFault aliases) {}
  let before := (children.head?.map (·.before)).getD position
  let start := (children.head?.map (·.start)).getD position
  let stop := (children.getLast?.map (·.stop)).getD position
  let faultCost :=
    if inFault then
      costPerRecovery + costPerByte * (t.byte stop - t.byte start)
        + costPerLine * ((t.place stop).line - (t.place start).line)
    else 0
  { kind, before, start, stop, shape, children
    visible := kindVisible a kind
    ownCost := sum.cost + faultCost
    weight := sum.weight
    visibleChildren := sum.visibleChildren
    visibleBelow := sum.visibleBelow
    leafKind := (children.head?.map (·.leafKind)).getD (.symbol a.layout.eof)
    leafState := (children.head?.map (·.leafState)).getD 0 }

def progress (n : Node) : Nat :=
  n.visibleBelow + (if n.visible then 1 else 0) + (if n.kind == .faultPart then 1 else 0)

def kindRank (a : Tables) : Kind → Nat
  | .symbol s => a.ranks[s]!
  | .faultPart => 1000000
  | .fault => 1000001

/-- Compares lists of nodes that stand for the same text, by kind and number of children, parents
before their children; `fuel` bounds the number of nodes. -/
def compareAll (a : Tables) : Nat → List (Node × Node) → Ordering
  | 0, _ => .eq
  | _, [] => .eq
  | fuel + 1, (l, r) :: rest =>
    match compare (kindRank a l.kind) (kindRank a r.kind) with
    | .eq => match compare l.children.length r.children.length with
      | .eq => compareAll a fuel ((l.children.zip r.children) ++ rest)
      | o => o
    | o => o

/-- The last children that may stand anywhere, split off. -/
def splitTrailing (ns : List Node) : List Node × List Node :=
  let trailing := (ns.reverse.takeWhile (·.extra)).reverse
  (ns.take (ns.length - trailing.length), trailing)

end Node

end JsxOutline.Reading
