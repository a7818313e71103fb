import JsxOutline.Component

/-!
# Occurrences in trees of components

Where a component stands in a tree: below which components, the nearest first.  Main statement: the
components that occur in a tree are those of its listing.
-/

namespace JsxOutline.Component

/-! ### Induction -/

/-- What holds of a component if it holds of its children holds of all components. -/
@[elab_as_elim]
theorem induction {motive : Component → Prop}
    (node : ∀ i cs, (∀ c ∈ cs, motive c) → motive (node i cs)) (c : Component) : motive c := by
  obtain ⟨i, cs⟩ := c
  refine node i cs ?_
  intro d hd
  have hlt : d.size < (Component.node i cs).size := size_lt_of_mem hd
  exact induction node d
termination_by c.size

/-! ### Occurrences -/

/-- A component occurs in the tree of `root` below the components of a list, the nearest first. -/
inductive Occurs (root : Component) : List Component → Component → Prop
  | root : Occurs root [] root
  | child {above : List Component} {d e : Component} :
      Occurs root above d → e ∈ d.children → Occurs root (d :: above) e

namespace Occurs

variable {root d e : Component} {above below : List Component}

theorem trans (outer : Occurs root above d) (inner : Occurs d below e) :
    Occurs root (below ++ above) e := by
  induction inner with
  | root => exact outer
  | child _ he ih => exact ih.child he

/-- The components above an occurrence occur themselves, each below those after it. -/
theorem of_mem_above (h : Occurs root above e) (hd : d ∈ above) :
    ∃ higher, higher <:+ above ∧ Occurs root higher d := by
  induction h with
  | root => simp at hd
  | @child above f e hf _ ih =>
    rcases List.mem_cons.mp hd with rfl | hd
    · exact ⟨above, List.suffix_cons _ _, hf⟩
    · obtain ⟨higher, hsuffix, hocc⟩ := ih hd
      exact ⟨higher, hsuffix.trans (List.suffix_cons _ _), hocc⟩

theorem mem_preorder (h : Occurs root above e) : e ∈ root.preorder := by
  have key : ∀ x ∈ e.preorder, x ∈ root.preorder := by
    induction h with
    | root => exact fun x hx => hx
    | @child above d e _ he ih =>
      intro x hx
      refine ih x ?_
      rw [preorder_eq d]
      exact List.mem_cons_of_mem _ (List.mem_flatMap.mpr ⟨e, he, hx⟩)
  refine key e ?_
  rw [preorder_eq e]
  exact List.mem_cons_self

end Occurs

theorem exists_occurs_of_mem {root e : Component} (h : e ∈ root.preorder) :
    ∃ above, Occurs root above e := by
  induction root using induction with
  | node i cs ih =>
    rw [preorder_eq] at h
    rcases List.mem_cons.mp h with rfl | h
    · exact ⟨[], .root⟩
    · obtain ⟨d, hd, he⟩ := List.mem_flatMap.mp h
      obtain ⟨below, hbelow⟩ := ih d hd he
      exact ⟨below ++ [node i cs], (Occurs.child .root hd).trans hbelow⟩

theorem mem_preorder_iff {root e : Component} : e ∈ root.preorder ↔ ∃ above, Occurs root above e :=
  ⟨exists_occurs_of_mem, fun ⟨_, h⟩ => h.mem_preorder⟩

end JsxOutline.Component
