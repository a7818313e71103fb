import JsxOutline.Reading.Node

/-!
# Stacks that share their lower parts

Where a text can be read in several ways, each reading has a version of the stack.  Versions share
what they have in common: a stack is a graph in which a place may lie upon several others.  A place
is made of a state of the automaton and a position of the text; the node between two places hangs on
the link between them.
-/

namespace JsxOutline.Reading

open JsxOutline.Grammar JsxOutline.Automaton JsxOutline.Text

/-! ### The graph -/

/-- A link from a place down to the one below it; no node hangs on the link into a recovery. -/
structure Link where
  below : Nat
  node : Option Node
deriving Inhabited

structure Spot where
  state : Nat
  position : Nat
  cost : Nat
  weight : Int
  /-- How much progress lies below. -/
  progress : Nat
  links : Array Link
deriving Inhabited

/-- A state that can be gone back to: how deep it lies and where in the text. -/
structure Memory where
  state : Nat
  depth : Nat
  position : Nat
deriving Inhabited

inductive Status where
  | active
  /-- Waiting at a token that does not fit. -/
  | paused (lookahead : Node)
  | halted
deriving Inhabited

structure Version where
  spot : Nat
  progressAtFault : Nat
  status : Status := .active
  memory : Option (Array Memory) := none
deriving Inhabited

structure Stack where
  spots : Array Spot
  versions : Array Version
deriving Inhabited

/-- A way down from a version: the nodes passed, in the order of the text, and the version that
stands at its lower end. -/
structure Slice where
  nodes : List Node
  version : Nat
deriving Inhabited

/-- The most links that a place keeps. -/
def maxLinks : Nat := 8

/-- The most ways down that are followed at the same time. -/
def maxWays : Nat := 64

namespace Stack

def initial : Stack :=
  { spots := #[{ state := 1, position := 0, cost := 0, weight := 0, progress := 0, links := #[] }]
    versions := #[{ spot := 0, progressAtFault := 0 }] }

variable (s : Stack)

def version (v : Nat) : Version := s.versions[v]!

def top (v : Nat) : Spot := s.spots[(s.version v).spot]!

def state (v : Nat) : Nat := (s.top v).state

def position (v : Nat) : Nat := (s.top v).position

def count : Nat := s.versions.size

def isActive (v : Nat) : Bool := match (s.version v).status with | .active => true | _ => false

def isPaused (v : Nat) : Bool := match (s.version v).status with | .paused _ => true | _ => false

def isHalted (v : Nat) : Bool := match (s.version v).status with | .halted => true | _ => false

/-- The cost of a version; a recovery that has not begun is counted already. -/
def cost (v : Nat) : Nat :=
  let top := s.top v
  let pending := s.isPaused v
    || (top.state == 0 && match top.links[0]? with | some l => l.node.isNone | none => true)
  top.cost + if pending then costPerRecovery else 0

/-! ### Changing versions -/

def modifyVersion (v : Nat) (f : Version → Version) : Stack :=
  { s with versions := s.versions.modify v f }

/-- The progress of a version since its last fault.  A version that has gone back behind its fault
counts from where it is now. -/
def progressSinceFault (v : Nat) : Nat × Stack :=
  let progress := (s.top v).progress
  let atFault := (s.version v).progressAtFault
  if progress < atFault then (0, s.modifyVersion v ({ · with progressAtFault := progress }))
  else (progress - atFault, s)

/-- Takes a version out; those after it move up. -/
def removeVersion (v : Nat) : Stack := { s with versions := s.versions.eraseIdxIfInBounds v }

/-- Puts a later version in the place of an earlier one, which passes its memory on. -/
def renumber (source target : Nat) : Stack :=
  if source == target then s
  else
    let src := s.version source
    let old := s.version target
    let src := if src.memory.isNone then { src with memory := old.memory } else src
    { s with versions := (s.versions.set! target src).eraseIdxIfInBounds source }

def swap (a b : Nat) : Stack :=
  let va := s.version a
  let vb := s.version b
  { s with versions := (s.versions.set! a vb).set! b va }

def copyVersion (v : Nat) : Nat × Stack :=
  (s.versions.size, { s with versions := s.versions.push { s.version v with memory := none } })

def halt (v : Nat) : Stack := s.modifyVersion v ({ · with status := .halted })

def pause (v : Nat) (lookahead : Node) : Stack :=
  let progress := (s.top v).progress
  s.modifyVersion v ({ · with status := .paused lookahead, progressAtFault := progress })

def resume (v : Nat) : Stack := s.modifyVersion v ({ · with status := .active })

/-- Puts a node and a state on a version.  Without a node the version begins a recovery. -/
def push (v : Nat) (node : Option Node) (state : Nat) : Stack :=
  let below := (s.version v).spot
  let b := s.spots[below]!
  let spot : Spot := match node with
    | some n => { state, position := n.stop, cost := b.cost + n.cost, weight := b.weight + n.weight
                  progress := b.progress + n.progress, links := #[⟨below, node⟩] }
    | none => { state, position := b.position, cost := b.cost, weight := b.weight
                progress := b.progress, links := #[⟨below, none⟩] }
  let top := s.spots.size
  { spots := s.spots.push spot
    versions := s.versions.modify v fun h =>
      { h with spot := top
               progressAtFault := if node.isNone then spot.progress else h.progressAtFault } }

/-! ### Merging versions -/

/-- Whether two links carry the same text in the same form. -/
def sameNode : Option Node → Option Node → Bool
  | none, none => true
  | some l, some r =>
    l.kind == r.kind &&
      ((l.cost > 0 && r.cost > 0) ||
        (l.before == r.before && l.start == r.start && l.stop == r.stop
          && l.children.length == r.children.length && l.extra == r.extra))
  | _, _ => false

def linkWeight (l : Link) : Int :=
  (s.spots[l.below]!).weight + ((l.node.map (·.weight)).getD 0)

/-- Adds a link to a place.  A link that carries the same as another one is joined with it: of two
nodes between the same places the heavier one stays, and places of the same kind under the same node
are merged in turn.  `fuel` bounds the depth. -/
def addLink : Nat → Nat → Link → Stack → Stack
  | 0, _, _, s => s
  | fuel + 1, spot, link, s =>
    if link.below == spot then s
    else
      let here := s.spots[spot]!
      let below := s.spots[link.below]!
      let fits (l : Link) : Bool :=
        sameNode l.node link.node &&
          (l.below == link.below ||
            (let other := s.spots[l.below]!
             other.state == below.state && other.position == below.position
               && other.cost == below.cost))
      match here.links.findIdx? fits with
      | some i =>
        let old := here.links[i]!
        if old.below == link.below then
          let oldWeight := (old.node.map (·.weight)).getD 0
          let newWeight := (link.node.map (·.weight)).getD 0
          if newWeight > oldWeight then
            let links := here.links.set! i { old with node := link.node }
            let new : Spot := { here with links, weight := below.weight + newWeight }
            { s with spots := s.spots.set! spot new }
          else s
        else
          let s := below.links.foldl (fun s l => addLink fuel old.below l s) s
          let weight := s.linkWeight link
          { s with spots := s.spots.modify spot fun h => { h with weight := max h.weight weight } }
      | none =>
        if here.links.size ≥ maxLinks then s
        else
          let progress := below.progress + ((link.node.map (·.progress)).getD 0)
          let weight := s.linkWeight link
          let new : Spot :=
            { here with
              links := here.links.push link
              progress := max here.progress progress
              weight := max here.weight weight }
          { s with spots := s.spots.set! spot new }

/-- Whether two versions stand at the same place at the same cost. -/
def canMerge (a b : Nat) : Bool :=
  s.isActive a && s.isActive b &&
    (let x := s.top a
     let y := s.top b
     x.state == y.state && x.position == y.position && x.cost == y.cost)

/-- Merges the second version into the first one, if they can be merged. -/
def merge? (a b : Nat) : Option Stack :=
  if s.canMerge a b then
    let spot := (s.version a).spot
    let s' := (s.top b).links.foldl (fun s' l => addLink (s.spots.size + 1) spot l s') s
    let s' := if (s'.top a).state == 0 then
        let progress := (s'.top a).progress
        s'.modifyVersion a ({ · with progressAtFault := progress })
      else s'
    some (s'.removeVersion b)
  else none

/-! ### Ways down -/

/-- A way down that is being followed, with the nodes passed in the order of the text. -/
structure Way where
  spot : Nat
  nodes : List Node
  depth : Nat
deriving Inhabited

/-- What to do at the place that a way has reached. -/
structure Verdict where
  take : Bool
  stop : Bool

/-- Notes a way that was taken: a version that stands at the place already is used again. -/
def addSlice (base : Nat) (spot : Nat) (nodes : List Node) (acc : Stack × Array Slice) :
    Stack × Array Slice :=
  let (s, slices) := acc
  let known := (List.range slices.size).reverse.find? fun i =>
    (s.version (slices[i]!).version).spot == spot
  match known with
  | some i =>
    let slice : Slice := ⟨nodes, (slices[i]!).version⟩
    (s, slices.extract 0 (i + 1) ++ #[slice] ++ slices.extract (i + 1) slices.size)
  | none =>
    let v := s.versions.size
    let head : Version := { spot, progressAtFault := (s.version base).progressAtFault }
    ({ s with versions := s.versions.push head }, slices.push ⟨nodes, v⟩)

/-- The next step of a way by a link. -/
def Way.follow (w : Way) (l : Link) : Way :=
  match l.node with
  | some n => { spot := l.below, nodes := n :: w.nodes, depth := w.depth + if n.extra then 0 else 1 }
  | none => { spot := l.below, nodes := w.nodes, depth := w.depth + 1 }

/-- Follows all ways down from a version at once, one step per round.  `judge` says what to do at
each place and may keep notes `σ`; `fuel` bounds the rounds. -/
def descend {σ : Type} (judge : σ → Stack → Way → Verdict × σ) (base : Nat) :
    Nat → List Way → σ → Stack → Array Slice → Stack × Array Slice × σ
  | 0, _, notes, s, slices => (s, slices, notes)
  | _, [], notes, s, slices => (s, slices, notes)
  | fuel + 1, ways, notes, s, slices =>
    -- `stay` are the ways that go on, `fork` the further ones that begin in this round
    let (stay, fork, notes, s, slices, _) := ways.foldl
      (fun (stay, fork, notes, s, slices, left) w =>
        let spot := s.spots[w.spot]!
        let (verdict, notes) := judge notes s w
        let stop := verdict.stop || spot.links.isEmpty
        let (s, slices) := if verdict.take then
            addSlice base w.spot w.nodes (s, slices)
          else (s, slices)
        if stop then (stay, fork, notes, s, slices, left - 1)
        else
          let further := ((spot.links.toList.drop 1).map w.follow).take (maxWays - left)
          match spot.links[0]? with
          | some l => (w.follow l :: stay, fork ++ further, notes, s, slices, left + further.length)
          | none => (stay, fork, notes, s, slices, left))
      ([], [], notes, s, slices, ways.length)
    descend judge base fuel (stay.reverse ++ fork) notes s slices

def walk {σ : Type} (v : Nat) (notes : σ) (judge : σ → Stack → Way → Verdict × σ) :
    Stack × Array Slice × σ :=
  descend judge v (s.spots.size + 2) [⟨(s.version v).spot, [], 0⟩] notes s #[]

/-- Takes a number of nodes off a version; extra nodes come along without being counted. -/
def popCount (v count : Nat) : Stack × Array Slice :=
  let (s, slices, _) := s.walk v () fun _ _ w =>
    (if w.depth == count then ⟨true, true⟩ else ⟨false, false⟩, ())
  (s, slices)

def popAll (v : Nat) : Stack × Array Slice :=
  let (s, slices, _) := s.walk v () fun _ s w =>
    (⟨(s.spots[w.spot]!).links.isEmpty, false⟩, ())
  (s, slices)

/-- Takes a fault off the top of a version, if there is one. -/
def popFault (v : Nat) : Stack × Option (List Node) :=
  let isFault (l : Link) : Bool := match l.node with | some n => n.isFault | none => false
  if (s.top v).links.any isFault then
    let (s', slices, _) := s.walk v false fun found _ w =>
      match w.nodes with
      | [] => (⟨false, false⟩, found)
      | n :: _ => if !found && n.isFault then (⟨true, true⟩, true) else (⟨false, true⟩, found)
    match slices[0]? with
    | some slice => (s'.renumber slice.version v, some slice.nodes)
    | none => (s', none)
  else (s, none)

/-- The states that a version can go back to, the nearest ones first. -/
def remember (v maxDepth : Nat) : Stack :=
  let (_, _, memory) := s.walk v (#[] : Array Memory) fun memory s w =>
    let spot := s.spots[w.spot]!
    if w.depth > maxDepth then (⟨false, true⟩, memory)
    else
      let near := memory.toList.reverse.takeWhile fun m => m.depth ≥ w.depth
      let known := near.any fun m => m.depth == w.depth && m.state == spot.state
      (⟨false, false⟩, if known then memory else memory.push ⟨spot.state, w.depth, spot.position⟩)
  s.modifyVersion v ({ · with memory := some memory })

/-- Whether a version has taken any text since its last fault. -/
def hasAdvanced (v : Nat) : Bool :=
  let progressAtFault := (s.version v).progressAtFault
  let rec go : Nat → Nat → Bool
    | 0, _ => false
    | fuel + 1, spot =>
      let here := s.spots[spot]!
      match here.links[0]? with
      | some link =>
        match link.node with
        | some n =>
          if n.stop > n.before then true
          else if here.progress > progressAtFault && n.cost == 0 then go fuel link.below
          else false
        | none => false
      | none => false
  (s.top v).cost == 0 || go (s.spots.size + 1) (s.version v).spot

end Stack

end JsxOutline.Reading
