import JsxOutline.Automaton.Merge
import JsxOutline.Lexicon.Scanner

/-!
# The finished automaton

The states of a grammar together with a scanner for each of them, as it is used to read a text.
-/

namespace JsxOutline.Automaton

open JsxOutline.Grammar JsxOutline.Lexicon

/-- How tokens are looked for in a state. -/
structure Mode where
  /-- Which set of tokens the scanner looks for. -/
  scan : Nat
  /-- The tokens to be found outside of the lexicon, by their index, as bits. -/
  outside : Nat
  /-- The words that are no identifiers. -/
  reserved : TokenSet
deriving BEq, Inhabited

/-- How a symbol shows in a tree. -/
structure Look where
  name : String
  visible : Bool
  named : Bool
deriving Inhabited

/-- An automaton that reads texts of one grammar. -/
structure Tables where
  layout : Layout
  states : Array State
  modes : Array Mode
  scanner : Scanner
  /-- Finds which keyword a word is. -/
  keywordScanner : Scanner
  word : Symbol
  looks : Array Look
  shapes : Array Shape
  /-- The tokens in the order in which a missing one is tried. -/
  tokenOrder : Array Symbol
  /-- The place of each symbol in the order of symbols. -/
  ranks : Array Nat
  /-- For each state the tokens that are found alike wherever they are expected. -/
  reusable : Array TokenSet
deriving Inhabited

/-! ### Modes -/

def rivals (v : Vocabulary) : Array Nat :=
  v.overlaps.masks fun i j =>
    v.overlaps.conflicts i j || (v.overlaps.get i j).shorter
      || (!v.coincide i j && (v.overlaps.touches i j || v.overlaps.touches j i))

/-- Whether two sets of tokens may be looked for at the same time. -/
def agree (count : Nat) (rivals : Array Nat) (a b : Nat) : Bool :=
  let differing := a ^^^ b
  (List.range count).all fun i =>
    !differing.testBit i || (rivals[i]! &&& (if a.testBit i then b else a)) == 0

/-- What the scanner looks for in a state: the word token stands for all keywords. -/
def wantedIn (v : Vocabulary) (s : State) : Wanted :=
  let here := Vocabulary.lexemesOf v.layout (s.tokens ||| s.reserved)
  let keywords := here &&& v.keywords
  let others := here ^^^ keywords
  { tokens := if keywords == 0 then others else others ||| (1 <<< v.word)
    endOfText := s.tokens.testBit v.layout.eof }

/-- Puts the states into as few modes as a single pass finds. -/
def scanModes (v : Vocabulary) (states : Array State) : Array Wanted × Array Nat := Id.run do
  let rivals := rivals v
  let n := v.layout.lexemeCount
  let mut modes : Array Wanted := #[]
  let mut modeOf : Array Nat := #[]
  for s in states do
    let w := wantedIn v s
    match modes.findIdx? fun m => agree n rivals m.tokens w.tokens with
    | some i =>
      modes := modes.modify i fun m => ⟨m.tokens ||| w.tokens, m.endOfText || w.endOfText⟩
      modeOf := modeOf.push i
    | none =>
      modeOf := modeOf.push modes.size
      modes := modes.push w
  return (modes, modeOf)

/-- The tokens to be found outside of the lexicon in a state. -/
def outsideIn (src : Source) (s : State) : Nat := Id.run do
  let outside := src.productions.resolved.outside
  let tokens := s.tokens
  let mut acc := 0
  for i in [0:outside.size] do
    let symbol := ((outside[i]!).inner).getD (src.productions.resolved.layout.outside i)
    if tokens.testBit symbol then acc := acc ||| (1 <<< i)
  return acc

def reusableIn (v : Vocabulary) (touching : Array Nat) (s : State) : TokenSet := Id.run do
  let lay := v.layout
  let tokens := s.tokens
  let here := Vocabulary.lexemesOf lay tokens
  let mut acc := tokens
  for i in [0:lay.lexemeCount] do
    if here.testBit i && (touching[i]! &&& here) != 0 then acc := acc ^^^ (1 <<< lay.lexeme i)
  return acc

/-! ### Symbols -/

def looksOf (src : Source) : Array Look := Id.run do
  let g := src.productions.resolved
  let plain (name : String) (v : Visibility) : Look := ⟨name, v.isVisible, v == .named⟩
  let own := g.outside.map (fun o => plain o.name o.visibility)
    ++ #[⟨"end", false, true⟩] ++ g.tokens.map (fun t => plain t.name t.visibility)
    ++ Array.zipWith plain src.productions.names src.productions.visibility
  let mut out : Array Look := #[]
  for s in [0:own.size] do
    match src.productions.standing[s]! with
    | some a => out := out.push ⟨a.name, true, a.named⟩
    | none => out := out.push own[s]!
  return out

/-- The tokens with the word token first and those found outside of the lexicon last. -/
def orderTokens (src : Source) : Array Symbol :=
  let g := src.productions.resolved
  let lexemes := (List.range g.layout.lexemeCount).map g.layout.lexeme
  let outside := (List.range g.layout.outsideCount).filter fun i => (g.outside[i]!).inner.isNone
  (g.word :: lexemes.filter (· != g.word) ++ outside.map g.layout.outside).toArray

def Tables.build (d : Declaration) : Tables := Id.run do
  let resolved := d.resolve
  let productions := resolved.toProductions
  let items := Items.ofProductions productions
  let firsts := Firsts.ofProductions productions
  let src : Source := ⟨productions, items, firsts, d.rankings⟩
  let found := buildStates src 1000000
  let machines := Machines.ofLexemes d.blanks (resolved.tokens.map (·.lexeme))
  let v := Vocabulary.ofStates src machines found.states
  let start := (found.states[0]!).actions
  let withRecovery := found.states.modify 0 fun s => { s with actions := recoveryActions src v start }
  let states := arrange (skipUnits src (mergeStates src v withRecovery))
  let (wanted, modeOf) := scanModes v states
  let modes := Array.zipWith
    (fun s scan => { scan, outside := outsideIn src s, reserved := s.reserved : Mode }) states modeOf
  let tokenOrder := orderTokens src
  let lay := resolved.layout
  let symbolCount := lay.tokenCount + productions.names.size
  let mut ranks : Array Nat := (Array.range symbolCount).map (· + symbolCount)
  ranks := ranks.set! lay.eof 0
  for i in [0:tokenOrder.size] do
    ranks := ranks.set! tokenOrder[i]! (i + 1)
  let touching := v.overlaps.masks fun i j => v.overlaps.touches j i
  return {
    layout := lay, states, modes
    scanner := Scanner.build machines wanted
    keywordScanner := Scanner.build machines #[⟨v.keywords, false⟩]
    word := resolved.word
    looks := looksOf src
    shapes := items.shapes
    tokenOrder, ranks
    reusable := states.map (reusableIn v touching) }

/-! ### Queries -/

namespace Tables

variable (a : Tables)

def actions (state : Nat) (t : Symbol) : List Action := (a.states[state]!).actionsAt t

/-- The state after a symbol; 0 where there is none. -/
def next (state : Nat) (s : Symbol) : Nat :=
  match a.layout.variableIndex? s with
  | some i => (a.states[state]!).gotos.getD i 0
  | none => match (a.actions state s).getLast? with
    | some (.shift t _) => t
    | some .pass => state
    | _ => 0

/-- Whether the first thing to do at a token is to reduce. -/
def reducesAt (state : Nat) (t : Symbol) : Bool :=
  match a.actions state t with
  | .reduce .. :: _ => true
  | _ => false

end Tables

end JsxOutline.Automaton
