import JsxOutline.Lexicon.CharSet

/-!
# Token patterns

The regular language of one token, and the combinators that the grammar writes it with.
-/

namespace JsxOutline.Lexicon

/-- A regular language over code points. -/
inductive Pattern where
  | empty
  | chars (set : CharSet)
  | text (s : String)
  | seq (p q : Pattern)
  | alt (p q : Pattern)
  | many1 (p : Pattern)
deriving BEq, Hashable, Repr, Inhabited

namespace Pattern

def seqs : List Pattern → Pattern
  | [] => empty
  | [p] => p
  | p :: ps => seq p (seqs ps)

def alts : List Pattern → Pattern
  | [] => empty
  | [p] => p
  | p :: ps => alt p (alts ps)

def opt (p : Pattern) : Pattern := alt p empty

def many (p : Pattern) : Pattern := opt (many1 p)

def times (p : Pattern) (n : Nat) : Pattern := seqs (List.replicate n p)

def timesUpTo (p : Pattern) (lo hi : Nat) : Pattern :=
  alts ((List.range (hi + 1 - lo)).map fun k => times p (lo + k))

def oneOf (ranges : List (Nat × Nat)) : Pattern := chars (.inside ranges)

def noneOf (ranges : List (Nat × Nat)) : Pattern := chars (.outside ranges)

def sets : Pattern → List CharSet
  | empty => []
  | chars s => [s]
  | text s => s.toList.map CharSet.one
  | seq p q => p.sets ++ q.sets
  | alt p q => p.sets ++ q.sets
  | many1 p => p.sets

end Pattern

/-- How a token is recognised: its pattern, whether blanks may stand before it, and its rank among
tokens that match the same text. -/
structure Lexeme where
  pattern : Pattern
  /-- An immediate token admits no blank before it. -/
  immediate : Bool := false
  rank : Int := 0
deriving BEq, Hashable, Repr, Inhabited

namespace Lexeme

def literal? (l : Lexeme) : Option String :=
  match l.pattern with
  | .text s => some s
  | _ => none

/-- A fixed text outranks a pattern that matches it, and an immediate token outranks one that is
not, as long as the declared ranks are equal. -/
def innateRank (l : Lexeme) : Nat :=
  (if l.literal?.isSome then 2 else 0) + (if l.immediate then 1 else 0)

end Lexeme

end JsxOutline.Lexicon
