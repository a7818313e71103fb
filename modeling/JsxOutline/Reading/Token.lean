import JsxOutline.Reading.Stack

/-!
# Finding the next token

A token is looked for outside of the lexicon first and then in it.  Where nothing that the state
expects is found, everything that can be recognised at all is looked for, and characters that belong
to no token make up a fault.
-/

namespace JsxOutline.Reading

open JsxOutline.Grammar JsxOutline.Automaton JsxOutline.Text JsxOutline.Lexicon

/-- A token found outside of the lexicon: its index, where it starts after blanks, and where it
ends. -/
structure OutsideFind where
  token : Nat
  start : Nat
  stop : Nat
deriving Inhabited

/-- A language: its automaton, and how to find a token outside of the lexicon.  The scanner is given
the text, the tokens wanted as bits, and a position. -/
structure Language where
  tables : Tables
  outside : Lines → Nat → Nat → Option OutsideFind

def Language.outsideSymbol (_ : Language) (i : Nat) : Symbol := i

/-- A byte order mark at the very beginning is passed over. -/
def tokenPosition (t : Lines) (position : Nat) : Nat :=
  if position = 0 ∧ t.code 0 = 0xFEFF then 1 else position

/-- Finds a token outside of the lexicon.  An empty one counts only if the version has taken some
text since its last fault and if the token leads to another state. -/
def findOutside (l : Language) (t : Lines) (state : Nat) (mode : Mode) (recovering advanced : Bool)
    (position : Nat) : Option (Symbol × Nat × Nat) :=
  if mode.outside == 0 then none
  else match l.outside t mode.outside (tokenPosition t position) with
    | none => none
    | some f =>
      let symbol := l.outsideSymbol f.token
      if f.stop ≤ position && (recovering || !advanced || l.tables.next state symbol == state) then
        none
      else some (symbol, f.start, f.stop)

def isReserved (a : Tables) (state : Nat) (s : Symbol) : Bool :=
  ((a.modes[state]!).reserved).testBit s

/-- The symbol of a word, and whether it begins with a keyword: a keyword that is expected or
reserved in the state stands for itself. -/
def wordSymbol (a : Tables) (t : Lines) (state start stop : Nat) : Symbol × Bool :=
  let run := a.keywordScanner.scan t.codes 0 start
  match run.found with
  | some (some k, e) =>
    let symbol := a.layout.lexeme k
    if e == stop && (!(a.actions state symbol).isEmpty || isReserved a state symbol) then
      (symbol, true)
    else (a.word, true)
  | _ => (a.word, false)

structure Search where
  position : Nat
  /-- Whether everything that can be recognised is looked for. -/
  anything : Bool
  /-- The characters left out so far. -/
  skipped : Option (Nat × Nat)

/-- Looks for the next token of a version in a state; `before` is where the blanks begin, `fuel`
bounds the number of attempts. -/
def findTokenLoop (l : Language) (t : Lines) (state before : Nat) (advanced : Bool) :
    Nat → Search → Node
  | 0, s => Node.leaf l.tables .fault before s.position s.position state false
  | fuel + 1, s =>
    let a := l.tables
    let mode := a.modes[if s.anything then 0 else state]!
    let fault (range : Nat × Nat) : Node := Node.leaf a .fault before range.1 range.2 state false
    match findOutside l t state mode s.anything advanced s.position with
    | some (symbol, start, stop) =>
      match s.skipped with
      | some range => fault range
      | none => Node.leaf a (.symbol symbol) before start stop state false
    | none =>
      let run := a.scanner.scan t.codes mode.scan (tokenPosition t s.position)
      match run.found, s.skipped with
      | some _, some range => fault range
      | some (none, stop), none => Node.leaf a (.symbol a.layout.eof) before run.start stop state false
      | some (some k, stop), none =>
        let symbol := a.layout.lexeme k
        if symbol == a.word then
          let (symbol, keyword) := wordSymbol a t state run.start stop
          Node.leaf a (.symbol symbol) before run.start stop state keyword
        else Node.leaf a (.symbol symbol) before run.start stop state false
      | none, _ =>
        if !s.anything then
          findTokenLoop l t state before advanced fuel { s with anything := true, position := before }
        else
          let (first, last) := s.skipped.getD (run.start, run.start)
          if run.position == last && last ≥ t.size then fault (first, last)
          else
            let position := if run.position == last then run.position + 1 else run.position
            findTokenLoop l t state before advanced fuel
              { s with position, skipped := some (first, position) }

def findToken (l : Language) (t : Lines) (state before : Nat) (advanced : Bool) : Node :=
  findTokenLoop l t state before advanced (t.size - before + 4)
    { position := before, anything := state == 0, skipped := none }

/-- Whether a token that was found in one state may be taken in another one. -/
def canReuse (a : Tables) (state : Nat) (n : Node) : Bool :=
  match n.symbol? with
  | none => false
  | some s =>
    let here := a.modes[state]!
    let there := a.modes[n.leafState]!
    let expected := !(a.actions state s).isEmpty
    if expected && here == there && (s != a.word || (!n.keyword && n.leafState == state)) then true
    else if n.start == n.stop && s != a.layout.eof then false
    else here.outside == 0 && (a.reusable[state]!).testBit s && expected

end JsxOutline.Reading
