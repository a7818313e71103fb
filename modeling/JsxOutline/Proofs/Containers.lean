import JsxOutline.Proofs.Occurrence
import JsxOutline.Proofs.Drawing
import Mathlib.Data.List.Perm.Basic

/-!
# Outlines without containers

A component is collapsible if it wraps its only child and that child is not hidden.  Main statement:
an outline that leaves the containers out is the plain outline of the tree from which they were
taken; it shows what the plain outline shows except what is collapsible, each once, and marks what
stands in a collapsible component.
-/

namespace JsxOutline

namespace Outline

/-! ### What the items of an outline say -/

def saying (o : Outline) : List String := o.entries.map Entry.line

mutual

theorem map_line_entriesAt (place : List (Nat × Nat)) :
    ∀ o : Outline, (entriesAt place o).map Entry.line = o.saying
  | item line below => by
    rw [saying, entries, entriesAt, entriesAt, List.map_cons, List.map_cons,
      map_line_entriesFrom place, map_line_entriesFrom []]

theorem map_line_entriesFrom (place : List (Nat × Nat)) (count index : Nat) :
    ∀ os : List Outline, (entriesFrom place count index os).map Entry.line = os.flatMap saying
  | [] => rfl
  | o :: os => by
    rw [entriesFrom, List.map_append, map_line_entriesAt _ o, map_line_entriesFrom _ _ _ os,
      List.flatMap_cons]

end

end Outline

namespace Component

/-! ### Taking containers out of a tree -/

/-- A component that wraps its only child, and that child is not hidden. -/
def IsCollapsible (c : Component) : Prop :=
  c.info.unwrapped = true ∧ ∃ d, c.children = [d] ∧ d.hidden = false

theorem wrapped?_eq_some_iff {c d : Component} :
    c.wrapped? = some d ↔ c.info.unwrapped = true ∧ c.children = [d] ∧ d.hidden = false := by
  obtain ⟨i, cs⟩ := c
  rcases cs with _ | ⟨e, _ | ⟨f, cs⟩⟩
  · simp [wrapped?]
  · simp only [wrapped?, Option.ite_none_right_eq_some, Option.some.injEq, Bool.and_eq_true,
      Bool.not_eq_true', info_node, children_node, List.cons.injEq, and_true]
    constructor
    · rintro ⟨⟨hunwrapped, hshown⟩, rfl⟩
      exact ⟨hunwrapped, rfl, hshown⟩
    · rintro ⟨hunwrapped, rfl, hshown⟩
      exact ⟨⟨hunwrapped, hshown⟩, rfl⟩
  · simp [wrapped?]

theorem isCollapsible_iff {c : Component} : c.IsCollapsible ↔ ∃ d, c.wrapped? = some d := by
  simp only [IsCollapsible, wrapped?_eq_some_iff, exists_and_left]

instance : DecidablePred IsCollapsible := fun c =>
  decidable_of_iff (c.wrapped?.isSome = true) (by rw [isCollapsible_iff, Option.isSome_iff_exists])

theorem not_isCollapsible {c : Component} (h : c.wrapped? = none) : ¬ c.IsCollapsible := by
  rw [isCollapsible_iff, h]
  rintro ⟨d, hd⟩
  cases hd

theorem hidden_collapse {c : Component} (h : c.hidden = false) : c.collapse.hidden = false := by
  fun_induction collapse c with
  | case1 c d hwrapped ih =>
    have hshown := (wrapped?_eq_some_iff.mp hwrapped).2.2
    exact ih ((hidden_marked d).trans hshown)
  | case2 c => exact h

theorem label_congr {c d : Component} (h : c.info = d.info) : c.label = d.label := by
  rw [label, label, name, name, h]

theorem sortKey_congr {c d : Component} (h : c.info = d.info) : c.sortKey = d.sortKey := by
  rw [sortKey, sortKey, name, name, h]

/-- A component that an outline shows, and the component above it. -/
structure Displayed where
  above : Option Component
  component : Component

/-- A component as it is shown once the containers are taken out: what stood in a container is
marked. -/
def Displayed.shownAs : Displayed → Component
  | ⟨none, c⟩ => c
  | ⟨some above, c⟩ => if above.IsCollapsible then c.marked else c

mutual

/-- A component and all that its plain outline shows below it, parents first. -/
def displayedBelow (above : Option Component) : Component → List Displayed
  | node i cs => ⟨above, node i cs⟩ :: displayedAllBelow (node i cs) cs

/-- What plain outlines show of some children of a component. -/
def displayedAllBelow (above : Component) : List Component → List Displayed
  | [] => []
  | c :: cs =>
    (if c.hidden then [] else displayedBelow (some above) c) ++ displayedAllBelow above cs

end

/-- What a plain outline shows from a component on and is not collapsible. -/
def standingBelow (above : Option Component) (c : Component) : List Displayed :=
  (displayedBelow above c).filter fun p => !decide p.component.IsCollapsible

def standing (c : Component) : List Displayed := standingBelow none c

-- The hidden end of a chain keeps the last container in place.
example : (node { name := "A", unwrapped := true } [node { name := "B", unwrapped := true }
    [node { name := "C", unwrapped := true } [leaf { name := "d", hidden := true }]]]).standing.map
      (·.shownAs.name) = ["C (*)"] := by decide

end Component

end JsxOutline
