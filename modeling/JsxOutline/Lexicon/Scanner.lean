import JsxOutline.Lexicon.Machine

/-!
# Scanning for several tokens at once

A scanner runs the machines of a set of tokens side by side and stops where no move is left that is
worth more than the token found so far.
-/

namespace JsxOutline.Lexicon

/-- What a scanner looks for: some tokens, as bits, and possibly the end of the text. -/
structure Wanted where
  tokens : Nat
  endOfText : Bool
deriving BEq, Hashable, Inhabited

structure ScanState where
  /-- The token that is complete here. -/
  found : Option Nat
  /-- Whether the text may end here. -/
  endOfText : Bool
  moves : Array (Option Move)
deriving Inhabited

/-- A scanner for several sets of tokens. -/
structure Scanner where
  alphabet : Alphabet
  states : Array ScanState
  /-- The start state for each set of tokens. -/
  starts : Array Nat
deriving Inhabited

namespace Scanner

def members (count set : Nat) : List Nat := (List.range count).filter set.testBit

/-- The state of a scanner that is made of some states of the machines. -/
def stateOf (m : Machines) (here : List Nat) (endOfText : Bool) :
    Option Nat × Array (Option (List Nat × Bool)) := Id.run do
  let states := here.map fun s => m.states[s]!
  let found : Option Nat := states.foldl
    (fun best s =>
      if s.accepts then
        match best with
        | some t => if m.prefers t s.token then best else some s.token
        | none => some s.token
      else best) none
  let blanksFollow := states.any (·.blanks)
  let mut moves : Array (Option (List Nat × Bool)) := #[]
  for letter in [0:m.alphabet.size] do
    let hits := states.filterMap fun s => (s.moves[letter]!).map fun u => (s.token, u)
    if hits.isEmpty then moves := moves.push none
    else
      let blank := hits.all (·.2.blank)
      let rank := hits.foldl (fun r h => max r m.ranks[h.1]!) (m.ranks[hits.head!.1]!)
      let worthIt := match found with
        | none => true
        | some t =>
          let doneRank := m.ranks[t]!
          if rank < doneRank then false
          else if rank == doneRank then
            !blank && (!blanksFollow || hits.any (·.1 == t))
          else true
      if worthIt then
        moves := moves.push (some ((hits.map (·.2.target)).mergeSort (· ≤ ·), endOfText && blank))
      else moves := moves.push none
  return (found, moves.map fun x => x.map fun (t, e) => (t, e))

def build (m : Machines) (wanted : Array Wanted) : Scanner := Id.run do
  let mut index : Std.HashMap (List Nat × Bool) Nat := {}
  let mut queue : Array (List Nat × Bool) := #[]
  let mut starts : Array Nat := #[]
  for w in wanted do
    let key := (((members m.starts.size w.tokens).map fun t => m.starts[t]!).mergeSort (· ≤ ·),
      w.endOfText)
    match index[key]? with
    | some i => starts := starts.push i
    | none =>
      index := index.insert key queue.size
      starts := starts.push queue.size
      queue := queue.push key
  let mut states : Array ScanState := #[]
  for i in [0:1000000] do
    if h : i < queue.size then
      let (here, endOfText) := queue[i]
      let (found, next) := stateOf m here endOfText
      let mut moves : Array (Option Move) := #[]
      for letter in [0:next.size] do
        match next[letter]! with
        | none => moves := moves.push none
        | some key =>
          -- the machines in `here` agree on whether the character is a blank
          let blank := here.all fun s => match (m.states[s]!).moves[letter]! with
            | some u => u.blank
            | none => true
          match index[key]? with
          | some t => moves := moves.push (some ⟨t, blank⟩)
          | none =>
            index := index.insert key queue.size
            moves := moves.push (some ⟨queue.size, blank⟩)
            queue := queue.push key
      states := states.push { found, endOfText, moves }
    else break
  return { alphabet := m.alphabet, states, starts }

/-! ### Running a scanner -/

structure Run where
  /-- Where the token begins, after the blanks. -/
  start : Nat
  /-- Where the run stands. -/
  position : Nat
  /-- The token found so far, `none` for the end of the text, and where it ends. -/
  found : Option (Option Nat × Nat)
deriving Inhabited

/-- Runs a scanner from one of its states.  `text` holds code points; `fuel` bounds the number of
characters. -/
def run (s : Scanner) (text : Array Nat) : Nat → Nat → Run → Run
  | 0, _, r => r
  | fuel + 1, state, r =>
    let st := s.states[state]!
    let r := match st.found with
      | some t => { r with found := some (some t, r.position) }
      | none => r
    if h : r.position < text.size then
      match st.moves[s.alphabet.letterOf text[r.position]]! with
      | some u =>
        s.run text fuel u.target
          { r with position := r.position + 1, start := if u.blank then r.position + 1 else r.start }
      | none => r
    else if st.endOfText then { r with found := some (none, r.position) } else r

def scan (s : Scanner) (text : Array Nat) (mode : Nat) (position : Nat) : Run :=
  s.run text (text.size - position + 1) (s.starts[mode]!)
    { start := position, position, found := none }

end Scanner

end JsxOutline.Lexicon
