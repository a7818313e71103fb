import JsxOutline.Reading.Engine
import JsxOutline.Tree

/-!
# From readings to trees

The tree of a reading leaves out the nodes of hidden symbols and puts their children in their place;
it shows nodes under their aliases and notes the fields that they fill.
-/

namespace JsxOutline.Reading

open JsxOutline.Grammar JsxOutline.Automaton JsxOutline.Text

/-- What the parent of a node says about it. -/
structure Role where
  shownAs : Option Alias := none
  fields : List String := []

/-- The role of the node at an index under a parent of some shape. -/
def Shape.role (s : Shape) (i : Nat) : Role :=
  { shownAs := (s.aliases[i]?).getD none
    fields := s.fields.filterMap fun (f, j, passed) => if j == i && !passed then some f else none }

def addFields (fields : List String) : Tree → Tree
  | .node l cs => .node { l with fields := fields ++ l.fields } cs

def dropFields : Tree → Tree
  | .node l cs => .node { l with fields := [] } cs

/-- Lets the first tree of a list fill further fields. -/
def addFieldsToFirst (fields : List String) : List Tree → List Tree
  | [] => []
  | t :: ts => addFields fields t :: ts

def labelOf (a : Tables) (t : Lines) (n : Node) (role : Role) : Label :=
  let look : Look := match n.kind with
    | .symbol s => a.looks[s]!
    | _ => ⟨"ERROR", true, true⟩
  let (kind, named) := match role.shownAs with
    | some x => (x.name, x.named)
    | none => (look.name, look.named)
  { kind, named, missing := n.missing, faulty := n.cost > 0, fields := role.fields
    text := t.slice n.start n.stop, place := t.place n.start }

mutual

/-- The trees that a node gives: one if it shows, else those of its children. -/
def trees (a : Tables) (t : Lines) (role : Role) : Node → List Tree
  | n@{ children, .. } =>
    let inFault := n.kind == .fault || n.kind == .faultPart
    let shape := if inFault then .plain else (a.shapes[n.shape]?).getD .plain
    let below := treesAll a t shape 0 children
    let below := if inFault then below.map dropFields else below
    if n.visible || role.shownAs.isSome then [.node (labelOf a t n role) below]
    else addFieldsToFirst role.fields below

/-- The trees of the children of a node from an index on. -/
def treesAll (a : Tables) (t : Lines) (shape : Shape) (i : Nat) : List Node → List Tree
  | [] => []
  | n :: ns =>
    if n.extra then trees a t {} n ++ treesAll a t shape i ns
    else trees a t (Shape.role shape i) n ++ treesAll a t shape (i + 1) ns

end

/-- The parser of a language. -/
def Language.parse (l : Language) : Parser := fun s =>
  let t := Lines.ofString s
  match trees l.tables t {} (read l t) with
  | root :: _ => root
  | [] => .node { kind := "ERROR", faulty := true } []

end JsxOutline.Reading
