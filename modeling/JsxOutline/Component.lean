import JsxOutline.Walk

/-!
# Components

A component is a node of the tree below a root component.  Main statement: the walk through a tree of
components is its listing with parents before their children.
-/

namespace JsxOutline

/-- What is known about a component, its children apart. -/
structure Component.Info where
  /-- The name at the place of use. -/
  name : String := ""
  /-- The file that backs the component, or the one that was guessed. -/
  file : String := ""
  /-- The distance from the root. -/
  depth : Int := 0
  /-- The specifier that the name comes from. -/
  source : Option String := none
  /-- The text that is shown before the name. -/
  shownSource : Option String := none
  /-- Whether a file backs the component. -/
  resolved : Bool := false
  /-- Whether outlines leave the component out. -/
  hidden : Bool := false
  /-- Whether the only child is what the module wraps. -/
  unwrapped : Bool := false
  /-- Whether the file also backs a component above this one. -/
  recursive : Bool := false
  /-- Why the file could not be parsed. -/
  error : Option String := none
deriving DecidableEq, Repr, Inhabited

inductive Component where
  | node (info : Component.Info) (children : List Component)
deriving Repr, Inhabited

namespace Component

mutual

def decEq : (c d : Component) → Decidable (c = d)
  | node i cs, node j ds =>
    match (inferInstance : Decidable (i = j)), decEqAll cs ds with
    | isTrue hi, isTrue hs => isTrue (by rw [hi, hs])
    | isFalse hi, _ => isFalse fun h => hi (node.inj h).1
    | _, isFalse hs => isFalse fun h => hs (node.inj h).2

def decEqAll : (cs ds : List Component) → Decidable (cs = ds)
  | [], [] => isTrue rfl
  | c :: cs, d :: ds =>
    match decEq c d, decEqAll cs ds with
    | isTrue h, isTrue hs => isTrue (by rw [h, hs])
    | isFalse h, _ => isFalse fun e => h (List.cons.inj e).1
    | _, isFalse hs => isFalse fun e => hs (List.cons.inj e).2
  | [], _ :: _ => isFalse nofun
  | _ :: _, [] => isFalse nofun

end

instance : DecidableEq Component := decEq

def info : Component → Info | node i _ => i

def children : Component → List Component | node _ cs => cs

def name (c : Component) : String := c.info.name

def hidden (c : Component) : Bool := c.info.hidden

def leaf (i : Info) : Component := node i []

def isLeaf (c : Component) : Bool := c.children.isEmpty

theorem ext {c d : Component} (hinfo : c.info = d.info) (hchildren : c.children = d.children) :
    c = d := by
  cases c
  cases d
  exact congr (congrArg node hinfo) hchildren

@[simp] theorem info_node (i : Info) (cs : List Component) : (node i cs).info = i := rfl
@[simp] theorem children_node (i : Info) (cs : List Component) : (node i cs).children = cs := rfl
@[simp] theorem info_leaf (i : Info) : (leaf i).info = i := rfl
@[simp] theorem children_leaf (i : Info) : (leaf i).children = [] := rfl

/-! ### Pre-order -/

mutual

/-- A component and all below it, parents before their children. -/
def preorder : Component → List Component
  | node i cs => node i cs :: preorderAll cs

/-- The components of a list and all below them, in order. -/
def preorderAll : List Component → List Component
  | [] => []
  | c :: cs => preorder c ++ preorderAll cs

end

theorem preorderAll_eq_flatMap (cs : List Component) : preorderAll cs = cs.flatMap preorder := by
  induction cs with
  | nil => rfl
  | cons c cs ih => simp [preorderAll, ih]

theorem preorder_eq (c : Component) : preorder c = c :: c.children.flatMap preorder := by
  cases c with
  | node i cs => simp [preorder, children, preorderAll_eq_flatMap]

@[simp] theorem preorder_leaf (i : Info) : (leaf i).preorder = [leaf i] := rfl

theorem filter_preorder_node (q : Component → Bool) (i : Info) (cs : List Component) :
    (node i cs).preorder.filter q =
      (if q (node i cs) then [node i cs] else []) ++ cs.flatMap fun c => c.preorder.filter q := by
  rw [preorder_eq, List.filter_cons, children_node, List.filter_flatMap]
  split <;> rfl

mutual

def size : Component → Nat
  | node _ cs => sizeAll cs + 1

def sizeAll : List Component → Nat
  | [] => 0
  | c :: cs => size c + sizeAll cs

end

mutual

theorem length_preorder : ∀ c : Component, c.preorder.length = c.size
  | node _ cs => by simp [preorder, size, length_preorderAll cs]

theorem length_preorderAll : ∀ cs : List Component, (preorderAll cs).length = sizeAll cs
  | [] => rfl
  | c :: cs => by simp [preorderAll, sizeAll, length_preorder c, length_preorderAll cs]

end

/-- The components that a walk through a tree meets. -/
def walk (c : Component) : List Component := walkFrom children c.size [c]

theorem walk_eq_preorder (c : Component) : c.walk = c.preorder := by
  have enough : c.preorder.length ≤ c.size := Nat.le_of_eq (length_preorder c)
  rw [walk, walkFrom_eq_take preorder_eq, List.flatMap_singleton, List.take_of_length_le enough]

/-! ### What lies below -/

theorem size_le_of_mem {d : Component} {cs : List Component} (h : d ∈ cs) : d.size ≤ sizeAll cs := by
  induction cs with
  | nil => simp at h
  | cons c cs ih =>
    rw [sizeAll]
    rcases List.mem_cons.1 h with rfl | h
    · exact Nat.le_add_right _ _
    · exact Nat.le_trans (ih h) (Nat.le_add_left _ _)

theorem size_lt_of_mem {c d : Component} (h : d ∈ c.children) : d.size < c.size := by
  cases c with
  | node i cs => exact Nat.lt_succ_of_le (size_le_of_mem h)

end Component

end JsxOutline
