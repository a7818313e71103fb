import JsxOutline.Grammar.Rule

/-!
# Symbols

A symbol is a number.  The numbers of one grammar lie in four runs: the tokens that are found
outside of the lexicon, the end of the text, the tokens of the lexicon, and the variables.
-/

namespace JsxOutline.Grammar

open JsxOutline.Lexicon (Lexeme)

inductive Visibility where
  | hidden
  | auxiliary
  | anonymous
  | named
deriving BEq, Repr, Inhabited

namespace Visibility

/-- A symbol whose name starts with an underscore is hidden. -/
def ofName (name : String) : Visibility := if name.startsWith "_" then hidden else named

def isVisible : Visibility → Bool
  | anonymous | named => true
  | hidden | auxiliary => false

end Visibility

/-- A symbol, as a number of its grammar's layout. -/
abbrev Symbol := Nat

structure Layout where
  outsideCount : Nat
  lexemeCount : Nat
deriving Repr, Inhabited

namespace Layout

variable (l : Layout)

def eof : Symbol := l.outsideCount

def outside (_ : Layout) (i : Nat) : Symbol := i

def lexeme (i : Nat) : Symbol := l.outsideCount + 1 + i

def tokenCount : Nat := l.outsideCount + 1 + l.lexemeCount

def var (i : Nat) : Symbol := l.tokenCount + i

def lexemeIndex? (s : Symbol) : Option Nat :=
  if l.outsideCount < s ∧ s < l.tokenCount then some (s - l.outsideCount - 1) else none

def variableIndex? (s : Symbol) : Option Nat :=
  if l.tokenCount ≤ s then some (s - l.tokenCount) else none

end Layout

structure Token where
  name : String
  visibility : Visibility
  lexeme : Lexeme
deriving Inhabited

/-- A token that is found outside of the lexicon, and the token of the lexicon that stands for the
same thing if there is one. -/
structure OutsideToken where
  name : String
  visibility : Visibility
  inner : Option Symbol
deriving Inhabited

structure Variable where
  name : String
  visibility : Visibility
  rule : Rule Symbol
deriving Inhabited

/-- A grammar whose leaves are symbols. -/
structure Resolved where
  layout : Layout
  outside : Array OutsideToken
  tokens : Array Token
  vars : Array Variable
  extras : List Symbol
  /-- For each variable whether it is expanded where it is used. -/
  inlined : Array Bool
  supertypes : List Symbol
  word : Symbol
  reserved : Array (List Symbol)
deriving Inhabited

/-! ### From names to symbols -/

/-- The lexemes of a grammar in the order in which the rules first mention them. -/
def Declaration.lexemes (d : Declaration) : Array Lexeme :=
  let leaves := d.rules.flatMap fun r => r.2.leaves
  (leaves ++ d.outside).foldl
    (fun acc leaf => match leaf with
      | .token l => if acc.contains l then acc else acc.push l
      | .name _ => acc) #[]

def Declaration.mentions (d : Declaration) (l : Lexeme) : Nat :=
  let leaves := d.rules.flatMap fun r => r.2.leaves
  (leaves ++ d.outside).countP (· == .token l)

/-- The lexeme that is the whole of a rule and stands nowhere else: such a rule is no variable but
the name of the token. -/
def Declaration.ownToken? (d : Declaration) (r : Rule Leaf) : Option Lexeme :=
  match r with
  | .leaf (.token l) => if d.mentions l == 1 then some l else none
  | _ => none

def Declaration.resolve (d : Declaration) : Resolved := Id.run do
  let lexemes := d.lexemes
  -- rules that only name a token
  let owned := (d.rules.drop 1).filterMap fun r => (d.ownToken? r.2).map fun l => (r.1, l)
  let rules := d.rules.filter fun r => !owned.any fun o => o.1 == r.1
  let tokens := lexemes.map fun l =>
    match owned.find? (·.2 == l) with
    | some (name, _) => { name, visibility := Visibility.ofName name, lexeme := l : Token }
    | none => match l.literal? with
      | some s => { name := s, visibility := .anonymous, lexeme := l }
      | none => { name := "", visibility := .auxiliary, lexeme := l }
  let lay : Layout := ⟨d.outside.length, lexemes.size⟩
  let lexemeOf (l : Lexeme) : Symbol := lay.lexeme (lexemes.idxOf l)
  let outsideNames := d.outside.map fun leaf => match leaf with | .name s => s | .token _ => ""
  let symbolOf (name : String) : Symbol :=
    match owned.find? (·.1 == name) with
    | some (_, l) => lexemeOf l
    | none => match rules.findIdx? (·.1 == name) with
      | some i => lay.var i
      | none => lay.outside (outsideNames.idxOf name)
  let leafOf : Leaf → Symbol
    | .name s => symbolOf s
    | .token l => lexemeOf l
  let vars := rules.toArray.map fun (name, rule) =>
    { name, rule := rule.map leafOf
      visibility := if d.supertypes.contains name then .hidden else Visibility.ofName name : Variable }
  let outside := d.outside.toArray.map fun leaf =>
    let s := leafOf leaf
    match lay.lexemeIndex? s, leaf with
    | some i, _ => { name := tokens[i]!.name, visibility := tokens[i]!.visibility, inner := some s }
    | none, .name n => { name := n, visibility := Visibility.ofName n, inner := none }
    | none, .token _ => { name := "", visibility := .hidden, inner := none : OutsideToken }
  return {
    layout := lay, outside, tokens, vars
    extras := d.extras.map symbolOf
    inlined := rules.toArray.map fun r => d.inlined.contains r.1
    supertypes := d.supertypes.map symbolOf
    word := symbolOf d.word
    reserved := d.reserved.toArray.map fun ws => ws.map fun w => lexemeOf { pattern := .text w } }

end JsxOutline.Grammar
