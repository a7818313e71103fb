import JsxOutline.Reading.Token

/-!
# Reading a text

All versions of the stack are moved on token by token.  A version at a token that does not fit waits
until it is known whether another one fares better; if none does, it recovers: it goes back to a
state in which the token fits, or leaves the token out.
-/

namespace JsxOutline.Reading

open JsxOutline.Grammar JsxOutline.Automaton JsxOutline.Text

/-! ### Limits -/

/-- How many versions are kept. -/
def maxVersions : Nat := 6

/-- How many more there may be for a short while. -/
def maxExtraVersions : Nat := 4

/-- How deep a recovery goes back. -/
def maxMemory : Nat := 16

/-- How much dearer a version may be that has made no progress. -/
def maxCostDifference : Nat := 18 * costPerNode

structure Session where
  stack : Stack
  /-- The best complete reading so far. -/
  finished : Option Node := none
  accepted : Nat := 0
  /-- The last token found, and the position it was looked for at. -/
  recent : Option (Nat × Node) := none
deriving Inhabited

/-! ### Comparing versions -/

structure Standing where
  cost : Nat
  progress : Nat
  weight : Int
  inFault : Bool

inductive Choice where
  | takeLeft
  | preferLeft
  | neither
  | preferRight
  | takeRight
deriving BEq

/-- Compares two versions.  A much cheaper one is taken, a cheaper or heavier one preferred. -/
def Standing.compare (a b : Standing) : Choice :=
  if !a.inFault && b.inFault then
    if a.cost < b.cost then .takeLeft else .preferLeft
  else if a.inFault && !b.inFault then
    if b.cost < a.cost then .takeRight else .preferRight
  else if a.cost < b.cost then
    if (b.cost - a.cost) * (1 + a.progress) > maxCostDifference then .takeLeft else .preferLeft
  else if b.cost < a.cost then
    if (a.cost - b.cost) * (1 + b.progress) > maxCostDifference then .takeRight else .preferRight
  else if a.weight > b.weight then .preferLeft
  else if b.weight > a.weight then .preferRight
  else .neither

def standing (s : Stack) (v : Nat) : Standing × Stack :=
  let paused := s.isPaused v
  let (progress, s) := s.progressSinceFault v
  ({ cost := s.cost v + if paused then costPerNode else 0
     progress
     weight := (s.top v).weight
     inFault := paused || s.state v == 0 }, s)

def betterExists (finished : Option Node) (s : Stack) (v : Nat) (inFault : Bool) (cost : Nat) :
    Bool × Stack :=
  if finished.any (decide <| ·.cost ≤ cost) then (true, s)
  else
    let position := s.position v
    let (progress, s) := s.progressSinceFault v
    let mine : Standing := { cost, progress, weight := (s.top v).weight, inFault }
    (List.range s.count).foldl
      (fun (found, s) i =>
        if found || i == v || !s.isActive i || s.position i < position then (found, s)
        else
          let (theirs, s) := standing s i
          match mine.compare theirs with
          | .takeRight => (true, s)
          | .preferRight => (s.canMerge i v, s)
          | _ => (false, s))
      (false, s)

/-- Whether the second of two readings of the same text is better. -/
def secondBetter (a : Tables) (l r : Node) : Bool :=
  if r.cost < l.cost then true
  else if l.cost < r.cost then false
  else if r.weight > l.weight then true
  else if l.weight > r.weight then false
  else if l.cost > 0 then true
  else Node.compareAll a 1000000 [(l, r)] == .gt

/-! ### Reducing -/

/-- Groups slices that end at the same version. -/
def groupSlices : List Slice → List (Nat × List (List Node)) :=
  fun slices => (slices.foldl
    (fun acc sl => match acc with
      | (v, ns) :: rest => if v == sl.version then (v, ns ++ [sl.nodes]) :: rest
        else (sl.version, [sl.nodes]) :: acc
      | [] => [(sl.version, [sl.nodes])]) []).reverse

/-- Merges a version into the first of the versions before it that it can be merged into, `but`
apart. -/
def mergeIntoEarlier (s : Stack) (v but : Nat) : Option Stack :=
  (List.range v).findSome? fun j => if j == but then none else s.merge? j v

/-- The better one of several lists of children, and the trailing nodes that do not belong to it. -/
def chooseChildren (a : Tables) (t : Lines) (kind : Kind) (shape position : Nat)
    (first : List Node) (others : List (List Node)) : Node × List Node :=
  let (cs, trailing) := Node.splitTrailing first
  others.foldl
    (fun (node, trailing) next =>
      let (cs, trailing') := Node.splitTrailing next
      if secondBetter a node (Node.parent a t kind 0 position cs) then
        (Node.parent a t kind shape position cs, trailing')
      else (node, trailing))
    (Node.parent a t kind shape position cs, trailing)

/-- Puts a variable in the place of the top nodes of a version.  Every way down gives a version of
its own; the first new one is returned. -/
def reduce (a : Tables) (t : Lines) (s : Stack) (v : Nat) (symbol count : Nat) (weight : Int)
    (shape : Nat) : Option Nat × Stack :=
  let initial := s.count
  let position := s.position v
  let (s, slices) := s.popCount v count
  let halted := (List.range s.count).countP s.isHalted
  let (s, _) := (groupSlices slices.toList).foldl
    (fun (s, removed) (version, lists) =>
      let version := version - removed
      if version > maxVersions + maxExtraVersions + halted then
        (s.removeVersion version, removed + 1)
      else match lists with
        | [] => (s, removed)
        | first :: others =>
          let (node, trailing) := chooseChildren a t (.symbol symbol) shape position first others
          let next := a.next (s.state version) symbol
          let s := s.push version (some (node.addWeight weight)) next
          let s := trailing.foldl (fun s n => s.push version (some n) next) s
          match mergeIntoEarlier s version v with
          | some s => (s, removed + 1)
          | none => (s, removed))
    (s, 0)
  (if s.count > initial then some initial else none, s)

/-! ### Accepting -/

def accept (a : Tables) (t : Lines) (x : Session) (v : Nat) (eof : Node) : Session :=
  let s := x.stack.push v (some eof) 1
  let (s, slices) := s.popAll v
  let roots := slices.toList.filterMap fun sl =>
    let (nodes, trailing) := Node.splitTrailing sl.nodes
    nodes.getLast?.map fun n =>
      Node.parent a t n.kind n.shape 0 (nodes.dropLast ++ n.children ++ trailing)
  let (finished, accepted) := roots.foldl
    (fun (best, k) root =>
      let best := match best with
        | some b => if secondBetter a b root then some root else some b
        | none => some root
      (best, k + 1))
    (x.finished, x.accepted)
  let s := match slices[0]? with | some sl => s.removeVersion sl.version | none => s
  { x with stack := s.halt v, finished, accepted }

/-! ### Recovering -/

/-- The reductions that some token would lead to in a state, and whether some token could be
taken. -/
def possibleReductions (a : Tables) (state : Nat) (tokens : List Symbol) :
    List Action × Bool :=
  tokens.foldl
    (fun acc t => (a.actions state t).foldl
      (fun (reductions, takes) action => match action with
        | .shift _ false | .recover => (reductions, true)
        | .reduce s n _ _ =>
          let known := reductions.any fun r => match r with
            | .reduce s' n' _ _ => s == s' && n == n'
            | _ => false
          (if n == 0 || known then reductions else reductions ++ [action], takes)
        | _ => (reductions, takes)) acc)
    ([], false)

/-- Makes all reductions that are possible before a token, or before any token.  Tells whether the
token can be taken afterwards. -/
def reduceAll (a : Tables) (t : Lines) (initial start : Nat) (lookahead : Option Symbol) :
    Nat → Nat → Nat → Bool → Stack → Bool × Stack
  | 0, _, _, takes, s => (takes, s)
  | fuel + 1, round, v, takes, s =>
    let count := s.count
    if v ≥ count then (takes, s)
    else
      let merged := (List.range v).findSome? fun j => if j < initial then none else s.merge? j v
      match merged with
      | some s => reduceAll a t initial start lookahead fuel (round + 1) v takes s
      | none =>
        let tokens := match lookahead with
          | some t => [t]
          | none => a.tokenOrder.toList
        let (reductions, canTake) := possibleReductions a (s.state v) tokens
        let (made, s) := reductions.foldl
          (fun (made, s) action => match action with
            | .reduce symbol n weight shape =>
              let (r, s) := reduce a t s v symbol n weight shape
              (r, s)
            | _ => (made, s))
          (none, s)
        let next := if v == start then count else v + 1
        if canTake then reduceAll a t initial start lookahead fuel (round + 1) next true s
        else match made with
          | some r =>
            if round < maxVersions then
              reduceAll a t initial start lookahead fuel (round + 1) v takes (s.renumber r v)
            else
              let s := if lookahead.isSome then s.removeVersion v else s
              reduceAll a t initial start lookahead fuel (round + 1) next takes s
          | none =>
            let s := if lookahead.isSome then s.removeVersion v else s
            reduceAll a t initial start lookahead fuel (round + 1) next takes s

/-- Makes all reductions of a version that are possible before a token, or before any token. -/
def reduceVersion (a : Tables) (t : Lines) (s : Stack) (v : Nat) (lookahead : Option Symbol) :
    Bool × Stack :=
  reduceAll a t s.count v lookahead 10000 0 v false s

/-- Goes back to a state that lies `depth` nodes down; what is taken off becomes a fault. -/
def returnTo (a : Tables) (t : Lines) (s : Stack) (v depth goal : Nat) : Bool × Stack :=
  let (s, slices) := s.popCount v depth
  let (s, last) := slices.foldl
    (fun (s, last) sl =>
      if last == some sl.version then (s, last)
      else if s.state sl.version != goal then (s.halt sl.version, last)
      else
        let (s, earlier) := s.popFault sl.version
        let before := match earlier with
          | some (n :: _) => n.children
          | _ => []
        let (nodes, trailing) := Node.splitTrailing (before ++ sl.nodes)
        let s := if nodes.isEmpty then s
          else s.push sl.version
            (some { Node.parent a t .fault 0 (s.position sl.version) nodes with extra := true }) goal
        let s := trailing.foldl (fun s n => s.push sl.version (some n) goal) s
        (s, some sl.version))
    (s, (none : Option Nat))
  (last.isSome, s)

def removeInactive (s : Stack) (first : Nat) : Stack :=
  { s with versions := s.versions.extract 0 first ++
      (s.versions.extract first s.versions.size).filter fun h =>
        match h.status with | .active => true | _ => false }

/-- Looks for a state to go back to in which the token fits. -/
def tryReturn (a : Tables) (t : Lines) (finished : Option Node) (v : Nat) (lookahead : Symbol)
    (versions position progress cost : Nat) : List Memory → Stack → Bool × Stack
  | [], s => (false, s)
  | m :: ms, s =>
    let depth := if progress > 0 then m.depth + 1 else m.depth
    let taken := (List.range versions).any fun j =>
      s.state j == m.state && s.position j == position
    if m.state == 0 || m.position == position || taken then
      tryReturn a t finished v lookahead versions position progress cost ms s
    else
      let newCost := cost + m.depth * costPerNode
        + (t.byte position - t.byte m.position) * costPerByte
        + ((t.place position).line - (t.place m.position).line) * costPerLine
      let (better, s) := betterExists finished s v false newCost
      if better then (false, s)
      else if (a.actions m.state lookahead).isEmpty then
        tryReturn a t finished v lookahead versions position progress cost ms s
      else
        let (done, s) := returnTo a t s v depth m.state
        if done then (true, s)
        else tryReturn a t finished v lookahead versions position progress cost ms s

/-- Leaves a token out, joining it with what was left out just before. -/
def leaveOut (a : Tables) (t : Lines) (s : Stack) (v : Nat) (lookahead : Node) (progress : Nat) :
    Stack :=
  let isExtra := lookahead.symbol?.any fun sym => (a.actions 1 sym).getLast? == some .pass
  let lookahead := if isExtra then { lookahead with extra := true } else lookahead
  let part := Node.parent a t .faultPart 0 lookahead.start [lookahead]
  if progress > 0 then
    let (s, slices) := s.popCount v 1
    match slices[0]? with
    | some sl =>
      let s := if slices.size > 1 then
          { s with versions := s.versions.extract 0 (sl.version + 1) } else s
      let s := s.renumber sl.version v
      s.push v (some (Node.parent a t .faultPart 0 lookahead.start (sl.nodes ++ [part]))) 0
    | none => s.push v (some part) 0
  else s.push v (some part) 0

def recover (a : Tables) (t : Lines) (x : Session) (v : Nat) (lookahead : Node) : Session :=
  let s := x.stack
  let versions := s.count
  let position := s.position v
  let (progress, s) := s.progressSinceFault v
  let cost := s.cost v
  let (returned, s) := match (s.version v).memory, lookahead.symbol? with
    | some memory, some symbol =>
      tryReturn a t x.finished v symbol versions position progress cost memory.toList s
    | _, _ => (false, s)
  let s := removeInactive s versions
  if lookahead.kind == .symbol a.layout.eof then
    let s := s.push v (some (Node.parent a t .fault 0 position [])) 1
    accept a t { x with stack := s } v lookahead
  else if returned && s.count > maxVersions then { x with stack := s.halt v }
  else
    let newCost := cost + costPerNode
      + (t.byte lookahead.stop - t.byte lookahead.before) * costPerByte
      + ((t.place lookahead.stop).line - (t.place lookahead.before).line) * costPerLine
    let (better, s) := betterExists x.finished s v false newCost
    if better then { x with stack := s.halt v }
    else { x with stack := leaveOut a t s v lookahead progress }

/-- Supposes that a token is missing at the top of a version, if it could be followed by the token
that is there. -/
def supposeMissing (a : Tables) (t : Lines) (v position : Nat) (lookahead : Symbol) :
    List Symbol → Stack → Bool × Stack
  | [], s => (false, s)
  | m :: ms, s =>
    let state := s.state v
    let after := a.next state m
    if after == 0 || after == state || !a.reducesAt after lookahead then
      supposeMissing a t v position lookahead ms s
    else
      let (w, s') := s.copyVersion v
      let s' := s'.push w (some (Node.absent a m position)) after
      -- at the end of the text any token counts
      let (takes, s') := reduceVersion a t s' w
        (if lookahead == a.layout.eof then none else some lookahead)
      if takes then (true, s') else supposeMissing a t v position lookahead ms s'

def beginRecovery (a : Tables) (t : Lines) (x : Session) (v : Nat) (lookahead : Node) : Session :=
  let s := x.stack
  let previous := s.count
  let (_, s) := reduceVersion a t s v none
  let count := s.count
  let position := s.position v
  let leaf := match lookahead.leafKind with | .symbol s => some s | _ => none
  let (s, _) := (v :: (List.range count).drop previous).foldl
    (fun (s, supposed) w =>
      let (supposed, s) := match supposed, leaf with
        | false, some symbol => supposeMissing a t w position symbol a.tokenOrder.toList s
        | _, _ => (supposed, s)
      (s.push w none 0, supposed))
    (s, false)
  let s := (List.range (count - previous)).foldl
    (fun s _ => (s.merge? v previous).getD s) s
  let s := s.remember v maxMemory
  recover a t { x with stack := s } v lookahead

/-! ### Moving on -/

inductive Outcome where
  /-- The version has moved on. -/
  | moved (x : Session)
  /-- Some reductions were made; the first version that the last of them gave. -/
  | reduced (x : Session) (version : Option Nat)
  /-- Nothing was done. -/
  | stuck

def act (a : Tables) (t : Lines) (v state : Nat) (lookahead : Node) :
    List Action → Session → Bool → Option Nat → Outcome
  | [], x, did, last => if did then .reduced x last else .stuck
  | .shift _ true :: as, x, did, last => act a t v state lookahead as x did last
  | .shift next false :: _, x, _, _ =>
    .moved { x with stack := x.stack.push v (some { lookahead with extra := false }) next }
  | .pass :: _, x, _, _ =>
    .moved { x with stack := x.stack.push v (some { lookahead with extra := true }) state }
  | .accept :: _, x, _, _ => .moved (accept a t x v lookahead)
  | .recover :: _, x, _, _ => .moved (recover a t x v lookahead)
  | .reduce symbol n weight shape :: as, x, _, last =>
    let (r, s) := reduce a t x.stack v symbol n weight shape
    act a t v state lookahead as { x with stack := s } true (r.or last)

/-- Moves a version on by a token that was found; `fuel` bounds the reductions before it. -/
def advanceWith (a : Tables) (t : Lines) (v : Nat) :
    Nat → Session → Nat → Node → List Action → Session
  | 0, x, _, _, _ => { x with stack := x.stack.halt v }
  | fuel + 1, x, state, lookahead, actions =>
    match act a t v state lookahead actions x false none with
    | .moved x => x
    | .reduced x (some r) =>
      let s := x.stack.renumber r v
      let state := s.state v
      let actions := match lookahead.leafKind with
        | .symbol sym => a.actions state sym
        | _ => []
      advanceWith a t v fuel { x with stack := s } state lookahead actions
    | .reduced x none => { x with stack := x.stack.halt v }
    | .stuck =>
      let asWord := match lookahead.symbol? with
        | some sym =>
          if lookahead.keyword && sym != a.word && !isReserved a state sym then
            a.actions state a.word
          else []
        | none => []
      if !asWord.isEmpty then
        advanceWith a t v fuel x state (lookahead.withSymbol a a.word) asWord
      else if state == 0 then recover a t x v lookahead
      else { x with stack := x.stack.pause v lookahead }

def advance (l : Language) (t : Lines) (x : Session) (v : Nat) : Session :=
  let a := l.tables
  let state := x.stack.state v
  let position := x.stack.position v
  let cached := match x.recent with
    | some (p, n) => if p == position && canReuse a state n then some n else none
    | none => none
  let (x, lookahead) := match cached with
    | some n => (x, n)
    | none =>
      let n := findToken l t state position (x.stack.hasAdvanced v)
      ({ x with recent := some (position, n) }, n)
  let actions := match lookahead.symbol? with
    | some sym => a.actions state sym
    | none => []
  advanceWith a t v 100000 x state lookahead actions

/-! ### Sorting out versions -/

/-- Compares version `i` with the earlier ones from `j` on; `mine` is how it fared at first.  The
result is the index to go on after. -/
def compareEarlier (mine : Standing) : Nat → Nat → Nat → Stack → Nat × Stack
  | 0, i, _, s => (i, s)
  | fuel + 1, i, j, s =>
    if j ≥ i then (i + 1, s)
    else
      let (theirs, s) := standing s j
      match theirs.compare mine with
      | .takeLeft => (i, s.removeVersion i)
      | .preferLeft | .neither =>
        match s.merge? j i with
        | some s => (i, s)
        | none => compareEarlier mine fuel i (j + 1) s
      | .preferRight =>
        match s.merge? j i with
        | some s => (i, s)
        | none => compareEarlier mine fuel i (j + 1) (s.swap i j)
      | .takeRight => compareEarlier mine fuel (i - 1) j (s.removeVersion j)

/-- Compares all versions with each other, dropping those that are clearly worse.  The result has
the least cost of a version that is not in a fault. -/
def sortOut : Nat → Nat → Option Nat → Stack → Option Nat × Stack
  | 0, _, least, s => (least, s)
  | fuel + 1, i, least, s =>
    if i ≥ s.count then (least, s)
    else if s.isHalted i then sortOut fuel i least (s.removeVersion i)
    else
      let (mine, s) := standing s i
      let least := if mine.inFault then least
        else match least with
          | some c => some (min c mine.cost)
          | none => some mine.cost
      let (next, s) := compareEarlier mine (2 * s.count + 2) i 0 s
      sortOut fuel next least s

/-- Resumes the first waiting version if none is active before it, and drops the other waiting
ones. -/
def resumeWaiting (a : Tables) (t : Lines) :
    Nat → Nat → Nat → Bool → Option Nat → Session → Option Nat × Session
  | 0, _, _, _, least, x => (least, x)
  | fuel + 1, i, n, going, least, x =>
    if i ≥ n then (least, x)
    else match (x.stack.version i).status with
      | .paused lookahead =>
        if !going && x.accepted < maxVersions then
          let least := some (x.stack.cost i)
          let x := beginRecovery a t { x with stack := x.stack.resume i } i lookahead
          resumeWaiting a t fuel (i + 1) n true least x
        else
          resumeWaiting a t fuel i (n - 1) going least { x with stack := x.stack.removeVersion i }
      | _ => resumeWaiting a t fuel (i + 1) n true least x

/-- Sorts out the versions and lets one that waits recover if there is no better one. -/
def condense (a : Tables) (t : Lines) (x : Session) : Option Nat × Session :=
  let (least, s) := sortOut 10000 0 none x.stack
  let s := { s with versions := s.versions.extract 0 maxVersions }
  resumeWaiting a t 100 0 s.count false least { x with stack := s }

/-! ### The whole text -/

/-- Moves one version on until it gets past the position that others have reached. -/
def advanceVersion (l : Language) (t : Lines) (v : Nat) :
    Nat → Nat → Session → Nat × Session
  | 0, reached, x => (reached, x)
  | fuel + 1, reached, x =>
    if !x.stack.isActive v then (reached, x)
    else
      let x := advance l t x v
      let position := x.stack.position v
      if position > reached || (v > 0 && position == reached) then (position, x)
      else advanceVersion l t v fuel reached x

def advanceAll (l : Language) (t : Lines) : Nat → Nat → Nat → Session → Nat × Session
  | 0, _, reached, x => (reached, x)
  | fuel + 1, v, reached, x =>
    if v ≥ x.stack.count then (reached, x)
    else
      let (reached, x) := advanceVersion l t v 100000 reached x
      advanceAll l t fuel (v + 1) reached x

/-- Reads on until the best reading is known; `fuel` bounds the rounds. -/
def readLoop (l : Language) (t : Lines) : Nat → Nat → Session → Session
  | 0, _, x => x
  | fuel + 1, reached, x =>
    let (reached, x) := advanceAll l t 1000 0 reached x
    let count := x.stack.count
    let (least, x) := condense l.tables t x
    let settled := match x.finished, least with
      | some n, some c => n.cost < c
      | some _, none => true
      | none, _ => false
    if settled || count == 0 then x else readLoop l t fuel reached x

/-- Reads a text; the whole of it is a fault if no reading was found. -/
def read (l : Language) (t : Lines) : Node :=
  let x := readLoop l t (100 * t.size + 1000) 0 { stack := .initial }
  match x.finished with
  | some n => n
  | none => Node.parent l.tables t .fault 0 0 [Node.leaf l.tables .fault 0 0 t.size 0 false]

end JsxOutline.Reading
