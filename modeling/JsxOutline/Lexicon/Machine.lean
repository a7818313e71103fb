import JsxOutline.Lexicon.Alphabet
import Std.Data.HashMap

/-!
# One machine per token

Each token has a deterministic machine over the letters of the alphabet.  A machine first passes
the blanks that may stand before its token; such moves are marked, so that a scanner knows where
the token proper begins.
-/

namespace JsxOutline.Lexicon

/-! ### Machines with free choice -/

/-- A state of a machine with free choice. -/
inductive Place where
  | accept
  | move (set : CharSet) (next : Nat) (blank : Bool)
  | fork (a b : Nat)
deriving Inhabited

abbrev Places := Array Place

namespace Places

def addText (blank : Bool) (next : Nat) : List Char → Places → Nat × Places
  | [], ps => (next, ps)
  | c :: cs, ps =>
    let (n, ps) := addText blank next cs ps
    (ps.size, ps.push (.move (.one c) n blank))

def add (blank : Bool) : Pattern → Nat → Places → Nat × Places
  | .empty, next, ps => (next, ps)
  | .chars s, next, ps => (ps.size, ps.push (.move s next blank))
  | .text s, next, ps => addText blank next s.toList ps
  | .seq p q, next, ps =>
    let (n, ps) := add blank q next ps
    add blank p n ps
  | .alt p q, next, ps =>
    let (a, ps) := add blank p next ps
    let (b, ps) := add blank q next ps
    (ps.size, ps.push (.fork a b))
  | .many1 p, next, ps =>
    let again := ps.size
    let (a, ps) := add blank p again (ps.push .accept)
    (a, ps.set! again (.fork a next))

/-- The places of a token after its possible blanks; the first component is where it starts. -/
def ofLexeme (blanks : CharSet) (l : Lexeme) : Nat × Places :=
  let (start, ps) := add false l.pattern 0 #[.accept]
  if l.immediate then (start, ps)
  else
    let loop := ps.size
    (loop, (ps.push (.fork start (loop + 1))).push (.move blanks loop true))

/-- The places other than forks that a list of places leads to; `fuel` bounds the steps. -/
def close (ps : Places) : Nat → List Nat → List Nat → List Nat → List Nat
  | 0, _, _, acc => acc
  | _, [], _, acc => acc
  | fuel + 1, i :: todo, seen, acc =>
    if seen.contains i then close ps fuel todo seen acc
    else match ps[i]! with
      | .fork a b => close ps fuel (a :: b :: todo) (i :: seen) acc
      | _ => close ps fuel todo (i :: seen) (i :: acc)

/-- The set of places that some places lead to without a character, in ascending order. -/
def closure (ps : Places) (start : List Nat) : List Nat :=
  (ps.close (3 * ps.size + start.length + 1) start [] []).mergeSort (· ≤ ·)

end Places

/-! ### Deterministic machines -/

structure Move where
  target : Nat
  /-- Whether the character is a blank before the token. -/
  blank : Bool
deriving BEq, Inhabited

structure TokenState where
  token : Nat
  accepts : Bool
  /-- Whether a blank may still follow. -/
  blanks : Bool
  /-- The moves by letter. -/
  moves : Array (Option Move)
deriving Inhabited

/-- The machines of all tokens, in one array of states. -/
structure Machines where
  alphabet : Alphabet
  states : Array TokenState
  /-- The start state of each token. -/
  starts : Array Nat
  /-- The declared rank of each token. -/
  ranks : Array Int
  /-- The innate rank of each token. -/
  innate : Array Nat
deriving Inhabited

namespace Machines

def addToken (m : Machines) (blanks : CharSet) (token : Nat) (l : Lexeme) : Machines := Id.run do
  let (start, ps) := Places.ofLexeme blanks l
  let first := ps.closure [start]
  let base := m.states.size
  let mut index : Std.HashMap (List Nat) Nat := ({} : Std.HashMap (List Nat) Nat).insert first 0
  let mut queue : Array (List Nat) := #[first]
  let mut states := m.states
  for i in [0:100000] do
    if h : i < queue.size then
      let places := queue[i]
      let accepts := places.any fun p => match ps[p]! with | .accept => true | _ => false
      let hasBlank := places.any fun p => match ps[p]! with | .move _ _ b => b | _ => false
      let mut moves : Array (Option Move) := #[]
      for letter in [0:m.alphabet.size] do
        let c := m.alphabet.samples[letter]!
        let hits := places.filterMap fun p => match ps[p]! with
          | .move s next b => if s.contains c then some (next, b) else none
          | _ => none
        if hits.isEmpty then moves := moves.push none
        else
          let target := ps.closure (hits.map (·.1))
          let blank := hits.all (·.2)
          match index[target]? with
          | some t => moves := moves.push (some ⟨base + t, blank⟩)
          | none =>
            index := index.insert target queue.size
            moves := moves.push (some ⟨base + queue.size, blank⟩)
            queue := queue.push target
      states := states.push { token, accepts, blanks := hasBlank, moves }
    else break
  return { m with states, starts := m.starts.push base, ranks := m.ranks.push l.rank,
                  innate := m.innate.push l.innateRank }

def ofLexemes (blanks : CharSet) (ls : Array Lexeme) : Machines :=
  let sets := blanks :: ls.toList.flatMap fun l => l.pattern.sets
  let empty : Machines := { alphabet := .ofSets sets, states := #[], starts := #[], ranks := #[],
                            innate := #[] }
  (ls.foldl (fun (acc : Machines × Nat) l => (acc.1.addToken blanks acc.2 l, acc.2 + 1))
    (empty, 0)).1

/-- Whether the first of two tokens that match the same text is taken. -/
def prefers (m : Machines) (a b : Nat) : Bool :=
  if m.ranks[a]! != m.ranks[b]! then m.ranks[a]! > m.ranks[b]!
  else if m.innate[a]! != m.innate[b]! then m.innate[a]! > m.innate[b]!
  else a < b

end Machines

end JsxOutline.Lexicon
