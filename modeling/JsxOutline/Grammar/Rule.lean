import JsxOutline.Lexicon.Pattern

/-!
# Grammar rules

The notation in which a grammar is declared.  Rules are generic in their leaves: a grammar is
written over `Leaf` (names and token patterns) and used over symbols.
-/

namespace JsxOutline.Grammar

open JsxOutline.Lexicon (Lexeme Pattern)

inductive Level where
  | unset
  | number (n : Int)
  | name (s : String)
deriving BEq, Hashable, Repr, Inhabited

inductive Side where
  | left
  | right
deriving BEq, Hashable, Repr, Inhabited

/-- A rule over leaves `σ`. -/
inductive Rule (σ : Type) where
  | blank
  | leaf (s : σ)
  | seq (a b : Rule σ)
  | alt (a b : Rule σ)
  | repeat1 (a : Rule σ)
  /-- Binds at a level, grouping to a side. -/
  | bind (level : Level) (side : Option Side) (a : Rule σ)
  /-- Counts for (or, when negative, against) a reading of an ambiguous text. -/
  | weigh (n : Int) (a : Rule σ)
  /-- Shows its symbols under another name. -/
  | rename (name : String) (named : Bool) (a : Rule σ)
  | field (name : String) (a : Rule σ)
  /-- The set of words that no identifier of this rule may be. -/
  | reserve (words : Nat) (a : Rule σ)
deriving BEq, Hashable, Repr, Inhabited

namespace Rule

variable {σ τ : Type}

def map (f : σ → τ) : Rule σ → Rule τ
  | blank => blank
  | leaf s => leaf (f s)
  | seq a b => seq (a.map f) (b.map f)
  | alt a b => alt (a.map f) (b.map f)
  | repeat1 a => repeat1 (a.map f)
  | bind l s a => bind l s (a.map f)
  | weigh n a => weigh n (a.map f)
  | rename s b a => rename s b (a.map f)
  | field s a => field s (a.map f)
  | reserve w a => reserve w (a.map f)

def leaves : Rule σ → List σ
  | blank => []
  | leaf s => [s]
  | seq a b => a.leaves ++ b.leaves
  | alt a b => a.leaves ++ b.leaves
  | repeat1 a | bind _ _ a | weigh _ a | rename _ _ a | field _ a | reserve _ a => a.leaves

def seqs : List (Rule σ) → Rule σ
  | [] => blank
  | [r] => r
  | r :: rs => seq r (seqs rs)

def alts : List (Rule σ) → Rule σ
  | [] => blank
  | [r] => r
  | r :: rs => alt r (alts rs)

def opt (r : Rule σ) : Rule σ := alt r blank

def many (r : Rule σ) : Rule σ := alt (repeat1 r) blank

end Rule

/-- A leaf of a declared grammar: the name of another rule, or a token. -/
inductive Leaf where
  | name (s : String)
  | token (l : Lexeme)
deriving BEq, Hashable, Repr, Inhabited

/-- An entry of a list that ranks levels against each other: a level, or a rule by its name. -/
inductive Ranking where
  | level (s : String)
  | rule (s : String)
deriving BEq, Repr, Inhabited

structure Declaration where
  /-- The rules by name; the first one is the whole text. -/
  rules : List (String × Rule Leaf)
  /-- The tokens that a scanner outside of the lexicon finds, by name or as a fixed text. -/
  outside : List Leaf
  /-- The symbols that may stand anywhere, by name. -/
  extras : List String
  /-- The characters that may stand before a token. -/
  blanks : Lexicon.CharSet
  /-- The rules that are hidden although their names are not. -/
  supertypes : List String
  /-- The rules that are expanded where they are used. -/
  inlined : List String
  /-- Lists of levels, from the strongest to the weakest. -/
  rankings : List (List Ranking)
  /-- The sets of rules that may stay ambiguous. -/
  ambiguous : List (List String)
  /-- The token that keywords are drawn from. -/
  word : String
  /-- The sets of reserved words; the first one holds where no rule names another. -/
  reserved : List (List String)

end JsxOutline.Grammar
