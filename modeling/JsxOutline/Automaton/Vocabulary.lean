import JsxOutline.Automaton.Build
import JsxOutline.Lexicon.Overlap

/-!
# Which tokens are looked for where

Two tokens coincide if some state expects both.  A keyword is a fixed word that the word token also
matches; a scanner looks for the word token only and compares the word afterwards.
-/

namespace JsxOutline.Automaton

open JsxOutline.Grammar JsxOutline.Lexicon

/-- What is known about the tokens of a lexicon.  Tokens stand for their index in the lexicon. -/
structure Vocabulary where
  layout : Layout
  machines : Machines
  overlaps : Overlaps
  /-- For each token those that some state expects besides it, as bits. -/
  coincident : Array Nat
  /-- The keywords, as bits. -/
  keywords : Nat
  /-- The word token. -/
  word : Nat
deriving Inhabited

namespace Vocabulary

def lexemesOf (lay : Layout) (s : TokenSet) : Nat := s >>> (lay.outsideCount + 1)

/-- Whether some state expects both tokens. -/
def coincide (v : Vocabulary) (i j : Nat) : Bool := (v.coincident[i]!).testBit j

/-- Adds a set of tokens to the entries of its members. -/
def addTogether (count : Nat) (acc : Array Nat) (set : Nat) : Array Nat :=
  (List.range count).foldl (fun acc i => if set.testBit i then acc.modify i (· ||| set) else acc) acc

/-- For each token those that some state expects besides it.  A reserved word coincides with the
word token wherever it is reserved. -/
def coincidences (lay : Layout) (word : Nat) (states : Array State) : Array Nat :=
  let sets := (states.map fun s => (lexemesOf lay s.tokens, lexemesOf lay s.reserved)).toList.eraseDups
  sets.foldl
    (fun acc (here, reserved) =>
      (addTogether lay.lexemeCount acc here).modify word (· ||| reserved))
    (Array.replicate lay.lexemeCount 0)

def beginsWithLetter (m : Machines) (i : Nat) : Bool :=
  let start := m.states[m.starts[i]!]!
  (List.range m.alphabet.size).all fun l =>
    match start.moves[l]! with
    | some u => u.blank || (let c := Char.ofNat m.alphabet.samples[l]!; c.isAlpha || c == '_')
    | none => true

/-- The keywords of a lexicon: fixed words that match a text of the word token and nothing else,
that no other such word matches, and that relate to all other tokens just like the word token
does, as far as a state expects them together and does not expect the word token anyway. -/
def findKeywords (lay : Layout) (m : Machines) (o : Overlaps) (word : Nat) (states : Array State) :
    Nat := Id.run do
  let n := m.starts.size
  let candidates := (List.range n).filter fun i =>
    i != word && beginsWithLetter m i && (o.get i word).sameText && !(o.get i word).ownText
  let unshadowed := candidates.filter fun i =>
    !candidates.any fun j => j != i && (o.get j i).sameText
  -- tokens that a state expects besides each token, where it does not expect the word token
  let apart := ((states.map fun s => lexemesOf lay s.tokens).toList.eraseDups.filter
    fun here => !here.testBit word).foldl (addTogether n) (Array.replicate n 0)
  let keywords := unshadowed.filter fun i =>
    (List.range n).all fun j =>
      candidates.contains j || !(apart[i]!).testBit j || o.get i j == o.get word j
  return keywords.foldl (fun acc i => acc ||| (1 <<< i)) 0

def ofStates (src : Source) (machines : Machines) (states : Array State) : Vocabulary :=
  let lay := src.productions.resolved.layout
  let overlaps := Overlaps.ofMachines machines (followersOfTokens src.productions src.firsts)
  let word := (lay.lexemeIndex? src.productions.resolved.word).getD 0
  { layout := lay, machines, overlaps, word
    coincident := coincidences lay word states
    keywords := findKeywords lay machines overlaps word states }

end Vocabulary

/-! ### The state in which tokens are left out -/

/-- The tokens that are looked for while tokens are left out: all but those that could hide a
token which nothing else can be mistaken for. -/
def recoveryTokens (v : Vocabulary) : List Nat :=
  let all := List.range v.layout.lexemeCount
  let free := all.filter fun i =>
    !all.any fun j => j != i && !v.coincide i j && v.overlaps.differsInLength i j
  all.filter fun i =>
    free.contains i || v.keywords.testBit i || i == v.word
      || !free.any fun t => !v.coincide i t && v.overlaps.conflicts i t

def recoveryActions (src : Source) (v : Vocabulary) (own : Array (List Action)) :
    Array (List Action) :=
  let lay := v.layout
  let lexemes := (recoveryTokens v).map lay.lexeme
  let outside := (List.range src.productions.resolved.outside.size).filter fun i =>
    (src.productions.resolved.outside[i]!).inner.isNone
  let sought := outside.map lay.outside ++ lexemes
  own.mapIdx fun t as =>
    if t == lay.eof || (as.isEmpty && sought.contains t) then [.recover] else as

end JsxOutline.Automaton
