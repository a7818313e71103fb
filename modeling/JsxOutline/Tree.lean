import JsxOutline.Text.Lines
import JsxOutline.Walk

/-!
# Syntax trees

The tree of a parsed module.  A node knows its kind, its text, its place, the fields of its parent
that it fills, and whether any of the text under it does not fit the grammar.  Main statement: the
walk through a tree is its listing with parents before their children.
-/

namespace JsxOutline

open JsxOutline.Text (Place)

structure Label where
  kind : String
  /-- Whether the node is more than punctuation or a keyword. -/
  named : Bool := true
  /-- Whether the node had to be thought of because it is missing in the text. -/
  missing : Bool := false
  /-- Whether some text in the node does not fit the grammar. -/
  faulty : Bool := false
  /-- The fields of the parent that the node fills. -/
  fields : List String := []
  text : String := ""
  place : Place := ⟨0, 0⟩
deriving DecidableEq, Repr, Inhabited

inductive Tree where
  | node (label : Label) (children : List Tree)
deriving Repr, Inhabited

namespace Tree

def label : Tree → Label | node l _ => l

def children : Tree → List Tree | node _ cs => cs

def kind (t : Tree) : String := t.label.kind

def text (t : Tree) : String := t.label.text

/-- The children that are more than punctuation or keywords. -/
def named (t : Tree) : List Tree := t.children.filter (·.label.named)

def field? (t : Tree) (name : String) : Option Tree :=
  t.children.find? fun c => c.label.fields.contains name

mutual

/-- A tree and all trees in it, parents before their children, in the order of the text. -/
def preorder : Tree → List Tree
  | node l cs => node l cs :: preorderAll cs

/-- The trees of a list and all trees in them, in order. -/
def preorderAll : List Tree → List Tree
  | [] => []
  | t :: ts => preorder t ++ preorderAll ts

end

theorem preorderAll_eq_flatMap (ts : List Tree) : preorderAll ts = ts.flatMap preorder := by
  induction ts with
  | nil => rfl
  | cons t ts ih => simp [preorderAll, ih]

theorem preorder_eq (t : Tree) : preorder t = t :: t.children.flatMap preorder := by
  cases t with
  | node l cs => simp [preorder, children, preorderAll_eq_flatMap]

theorem mem_preorder_self (t : Tree) : t ∈ preorder t := by
  rw [preorder_eq]
  exact List.mem_cons_self

mutual

def size : Tree → Nat
  | node _ cs => sizeAll cs + 1

def sizeAll : List Tree → Nat
  | [] => 0
  | t :: ts => size t + sizeAll ts

end

mutual

theorem length_preorder : ∀ t : Tree, t.preorder.length = t.size
  | node _ cs => by simp [preorder, size, length_preorderAll cs]

theorem length_preorderAll : ∀ ts : List Tree, (preorderAll ts).length = sizeAll ts
  | [] => rfl
  | t :: ts => by simp [preorderAll, sizeAll, length_preorder t, length_preorderAll ts]

end

def walk (t : Tree) : List Tree := walkFrom children t.size [t]

theorem walk_eq_preorder (t : Tree) : t.walk = t.preorder := by
  have enough : t.preorder.length ≤ t.size := Nat.le_of_eq (length_preorder t)
  rw [walk, walkFrom_eq_take preorder_eq, List.flatMap_singleton, List.take_of_length_le enough]

end Tree

/-- What reads the text of a module. -/
abbrev Parser := String → Tree

end JsxOutline
