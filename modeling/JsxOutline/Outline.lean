import JsxOutline.Component
import JsxOutline.Path
import JsxOutline.Text.Uppercase

/-!
# Outlines

An outline is a tree of lines, drawn with branches.  The outline of a component shows its children
in the order of their names, without the hidden ones; it may show a component in place of the
containers that wrap it.  Main statement: collapsing a component reaches a component that cannot be
collapsed any further.
-/

namespace JsxOutline

/-! ### Drawing -/

inductive Outline where
  | item (line : String) (below : List Outline)
deriving Repr, Inhabited

namespace Outline

/-- What stands before a line, by whether it is the last of its siblings. -/
def branch (last : Bool) : String := if last then "└── " else "├── "

/-- What stands before the lines below a line, by whether it is the last of its siblings. -/
def stem (last : Bool) : String := if last then "    " else "│   "

mutual

/-- The lines of an item whose siblings are indented. -/
def itemLines (indent : String) (last : Bool) : Outline → List String
  | item line below => (indent ++ branch last ++ line) :: linesBelow (indent ++ stem last) below

def linesBelow (indent : String) : List Outline → List String
  | [] => []
  | o :: os => itemLines indent os.isEmpty o ++ linesBelow indent os

end

def lines : Outline → List String
  | item line below => line :: linesBelow "" below

def text (o : Outline) : String := "\n".intercalate o.lines

mutual

def size : Outline → Nat
  | item _ below => sizeAll below + 1

def sizeAll : List Outline → Nat
  | [] => 0
  | o :: os => size o + sizeAll os

end

end Outline

/-! ### Labels -/

namespace Component

/-- The line of a component: its source and its name, or the source alone if that ends in a
directory of that name. -/
def label (c : Component) : String :=
  match c.info.shownSource with
  | none | some "" => c.name
  | some source =>
    if Path.base (Path.directory c.info.file) = c.name then source else source ++ "/" ++ c.name

/-- What siblings are sorted by. -/
def sortKey (c : Component) : String := Text.upper ((c.info.shownSource.getD "") ++ c.name)

/-! ### Containers -/

/-- What marks a component that is shown in place of its container. -/
def containerMark : String := " (*)"

/-- The component with a mark after its name. -/
def marked : Component → Component
  | node i cs => node { i with name := i.name ++ containerMark } cs

/-- The component that a container wraps, unless that is hidden. -/
def wrapped? : Component → Option Component
  | node i [c] => if i.unwrapped && !c.hidden then some c else none
  | _ => none

theorem wrapped?_mem {c d : Component} (h : c.wrapped? = some d) : d ∈ c.children := by
  unfold wrapped? at h
  split at h
  · simp only [Option.ite_none_right_eq_some, Option.some.injEq] at h
    simp [children, h.2]
  · simp at h

@[simp] theorem children_marked (c : Component) : c.marked.children = c.children := by
  cases c; rfl

@[simp] theorem hidden_marked (c : Component) : c.marked.hidden = c.hidden := by
  cases c; rfl

@[simp] theorem size_marked (c : Component) : c.marked.size = c.size := by
  cases c; simp [marked, size]

theorem wrapped?_marked (c : Component) : c.marked.wrapped? = c.wrapped? := by
  obtain ⟨i, cs⟩ := c
  rcases cs with _ | ⟨d, _ | ⟨e, ds⟩⟩ <;> rfl

/-- The component that is shown in place of a container: the one that it wraps, marked, or what is
shown in place of that.  Any other component is shown itself. -/
def collapse (c : Component) : Component :=
  match _h : c.wrapped? with
  | some d => collapse d.marked
  | none => c
termination_by c.size
decreasing_by
  rw [size_marked]
  exact size_lt_of_mem (wrapped?_mem _h)

def innermost (c : Component) : Component :=
  match _h : c.wrapped? with
  | some d => innermost d
  | none => c
termination_by c.size
decreasing_by exact size_lt_of_mem (wrapped?_mem _h)

theorem collapse_of_some {c d : Component} (h : c.wrapped? = some d) :
    c.collapse = d.marked.collapse := by
  rw [collapse]
  split
  · next e he => rw [h] at he; rw [Option.some.inj he]
  · next he => rw [h] at he; simp at he

theorem collapse_of_none {c : Component} (h : c.wrapped? = none) : c.collapse = c := by
  rw [collapse]
  split
  · next e he => rw [h] at he; simp at he
  · rfl

/-- A collapsed component cannot be collapsed any further. -/
theorem wrapped?_collapse (c : Component) : c.collapse.wrapped? = none := by
  fun_induction collapse c with
  | case1 c d h ih => exact ih
  | case2 c h => exact h

theorem size_collapse_le (c : Component) : c.collapse.size ≤ c.size := by
  fun_induction collapse c with
  | case1 c d h ih =>
    rw [size_marked] at ih
    exact Nat.le_trans ih (Nat.le_of_lt (size_lt_of_mem (wrapped?_mem h)))
  | case2 c => exact Nat.le_refl _

def shown (hideContainers : Bool) (c : Component) : Component :=
  if hideContainers then c.collapse else c

def visible (c : Component) : List Component := c.children.filter (!·.hidden)

theorem size_shown_le (hideContainers : Bool) (c : Component) :
    (c.shown hideContainers).size ≤ c.size := by
  cases hideContainers with
  | false => exact Nat.le_refl _
  | true => exact size_collapse_le c

theorem size_lt_of_mem_visible {hideContainers : Bool} {c d : Component}
    (h : d ∈ (c.shown hideContainers).visible) : d.size < c.size :=
  Nat.lt_of_lt_of_le (size_lt_of_mem (List.mem_filter.1 h).1) (size_shown_le hideContainers c)

/-! ### Outlines of components -/

/-- Sorts values by keys; values with the same key keep their order. -/
def arrange {α : Type} (entries : List (String × α)) : List α :=
  (entries.mergeSort fun a b => a.1 ≤ b.1).map Prod.snd

def outline (hideContainers : Bool) (c : Component) : Outline :=
  let s := c.shown hideContainers
  .item s.label (arrange (s.visible.attach.map fun ⟨d, _⟩ =>
    ((d.shown hideContainers).sortKey, outline hideContainers d)))
termination_by c.size
decreasing_by exact size_lt_of_mem_visible (by assumption)

theorem outline_eq (hideContainers : Bool) (c : Component) :
    c.outline hideContainers = .item (c.shown hideContainers).label
      (arrange ((c.shown hideContainers).visible.map fun d =>
        ((d.shown hideContainers).sortKey, d.outline hideContainers))) := by
  rw [outline]
  simp

def render (hideContainers : Bool) (c : Component) : String := (c.outline hideContainers).text

end Component

end JsxOutline
