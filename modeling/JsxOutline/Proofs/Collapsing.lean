import JsxOutline.Proofs.ContainerLabels

/-!
# Taking a component out of its containers

While the component in hand is a container, what it wraps takes its place, with a mark.  Main
statement: this ends, and in hand is then the end of the chain of containers, with one mark if there
was a chain; it is no container, and doing the same to it changes nothing.
-/

namespace JsxOutline.Component

/-! ### The loop -/

/-- In so many turns the loop comes from one component to another one, at which it stops.  A turn
replaces a container by the component that it wraps, marked. -/
inductive CollapsesIn : Component → Nat → Component → Prop
  | stop {c : Component} : ¬ c.IsCollapsible → CollapsesIn c 0 c
  | turn {c d r : Component} {turns : Nat} : c.info.unwrapped = true → c.children = [d] →
      d.hidden = false → CollapsesIn d.marked turns r → CollapsesIn c (turns + 1) r

/-- Each turn goes one level down, so there are fewer turns than components. -/
theorem collapsesIn_collapse (c : Component) :
    ∃ turns < c.size, c.CollapsesIn turns c.collapse := by
  fun_induction collapse c with
  | case1 c d hwrapped ih =>
    obtain ⟨turns, hlt, hrest⟩ := ih
    obtain ⟨hunwrapped, hchildren, hshown⟩ := wrapped?_eq_some_iff.mp hwrapped
    have hsmaller : d.size < c.size := size_lt_of_mem (wrapped?_mem hwrapped)
    rw [size_marked] at hlt
    exact ⟨turns + 1, by omega, .turn hunwrapped hchildren hshown hrest⟩
  | case2 c hwrapped =>
    have hpos : 0 < c.size := by
      obtain ⟨i, cs⟩ := c
      exact Nat.succ_pos _
    exact ⟨0, hpos, .stop (not_isCollapsible hwrapped)⟩

theorem CollapsesIn.eq_collapse {c r : Component} {turns : Nat} (h : c.CollapsesIn turns r) :
    r = c.collapse := by
  induction h with
  | stop hstands => exact (collapse_of_none (wrapped?_eq_none hstands)).symm
  | turn hunwrapped hchildren hshown _ ih =>
    rw [ih, collapse_of_some (wrapped?_eq_some_iff.mpr ⟨hunwrapped, hchildren, hshown⟩)]

/-! ### What it comes to -/

theorem not_isCollapsible_collapse (c : Component) : ¬ c.collapse.IsCollapsible :=
  not_isCollapsible (wrapped?_collapse c)

theorem collapse_collapse (c : Component) : c.collapse.collapse = c.collapse :=
  collapse_of_none (wrapped?_collapse c)

theorem innermost_of_some {c d : Component} (h : c.wrapped? = some d) :
    c.innermost = d.innermost := by
  rw [innermost]
  split
  · next e he => rw [h] at he; rw [Option.some.inj he]
  · next he => rw [h] at he; cases he

theorem innermost_of_none {c : Component} (h : c.wrapped? = none) : c.innermost = c := by
  rw [innermost]
  split
  · next e he => rw [h] at he; cases he
  · rfl

theorem EndsIn.eq_innermost {c w : Component} (h : c.EndsIn w) : w = c.innermost := by
  induction h with
  | last hstands => exact (innermost_of_none (wrapped?_eq_none hstands)).symm
  | next hunwrapped hchildren hshown _ ih =>
    rw [ih, innermost_of_some (wrapped?_eq_some_iff.mpr ⟨hunwrapped, hchildren, hshown⟩)]

theorem endsIn_iff {c w : Component} : c.EndsIn w ↔ w = c.innermost :=
  ⟨EndsIn.eq_innermost, fun h => h ▸ endsIn_innermost c⟩

theorem collapse_eq (c : Component) :
    c.collapse = if c.IsCollapsible then c.innermost.marked else c.innermost := by
  split
  · next hcontainer => exact (endsIn_innermost c).collapse_eq hcontainer
  · next hstands =>
    have hwrapped := wrapped?_eq_none hstands
    rw [collapse_of_none hwrapped, innermost_of_none hwrapped]

theorem info_marked (c : Component) :
    c.marked.info = { c.info with name := c.name ++ containerMark } := by
  cases c; rfl

theorem info_collapse (c : Component) :
    c.collapse.info = { c.innermost.info with
      name := if c.IsCollapsible then c.innermost.name ++ containerMark
        else c.innermost.name } := by
  rw [collapse_eq]
  split
  · exact info_marked _
  · rfl

theorem children_collapse (c : Component) : c.collapse.children = c.innermost.children := by
  rw [collapse_eq]
  split
  · exact children_marked _
  · rfl

/-- The loop ends, and only with one component.  That is no container, stays as it is when it is
collapsed again, and is hidden only if the loop began with a hidden component.  It is the end of the
chain of containers, but for a mark after the name if there is a container at all. -/
theorem collapse_settles (c : Component) :
    (∃ turns < c.size, c.CollapsesIn turns c.collapse) ∧
      (∀ turns r, c.CollapsesIn turns r → r = c.collapse) ∧
      ¬ c.collapse.IsCollapsible ∧
      c.collapse.collapse = c.collapse ∧
      (c.hidden = false → c.collapse.hidden = false) ∧
      (∀ w, c.EndsIn w ↔ w = c.innermost) ∧
      c.collapse.children = c.innermost.children ∧
      c.collapse.info = { c.innermost.info with
        name := if c.IsCollapsible then c.innermost.name ++ containerMark
          else c.innermost.name } := by
  refine ⟨collapsesIn_collapse c, ?_, not_isCollapsible_collapse c, collapse_collapse c,
    hidden_collapse, ?_, children_collapse c, info_collapse c⟩
  · intro turns r hrun
    exact hrun.eq_collapse
  · intro w
    exact endsIn_iff

end JsxOutline.Component
