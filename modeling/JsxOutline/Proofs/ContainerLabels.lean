import JsxOutline.Proofs.Containers

/-!
# Labels of what is shown in place of containers

A component that is shown in place of its containers has a mark at the end of its name, and its label
leaves the name out if the directory of its file has it.  Main statement: this label is the label of
the component followed by the mark, exactly if no source is shown or the directory is named neither
like the component nor like the marked one; a name that the directory already has is said twice.
-/

namespace JsxOutline.Component

/-! ### Chains of containers -/

/-- A chain of containers leads from a component to what the last of them wraps. -/
inductive EndsIn : Component → Component → Prop
  | last {c : Component} : ¬ c.IsCollapsible → EndsIn c c
  | next {c d w : Component} : c.info.unwrapped = true → c.children = [d] → d.hidden = false →
      EndsIn d w → EndsIn c w

theorem endsIn_innermost (c : Component) : c.EndsIn c.innermost := by
  fun_induction innermost c with
  | case1 c d hwrapped ih =>
    obtain ⟨hunwrapped, hchildren, hshown⟩ := wrapped?_eq_some_iff.mp hwrapped
    exact .next hunwrapped hchildren hshown ih
  | case2 c hwrapped => exact .last (not_isCollapsible hwrapped)

theorem wrapped?_eq_none {c : Component} (h : ¬ c.IsCollapsible) : c.wrapped? = none := by
  cases hwrapped : c.wrapped? with
  | none => rfl
  | some d => exact absurd (isCollapsible_iff.mpr ⟨d, hwrapped⟩) h

theorem EndsIn.collapse_marked_eq {c w : Component} (h : c.EndsIn w) :
    c.marked.collapse = w.marked := by
  induction h with
  | last hstands => exact collapse_of_none ((wrapped?_marked _).trans (wrapped?_eq_none hstands))
  | @next c d w hunwrapped hchildren hshown _ ih =>
    have hwrapped : c.wrapped? = some d :=
      wrapped?_eq_some_iff.mpr ⟨hunwrapped, hchildren, hshown⟩
    rw [collapse_of_some ((wrapped?_marked c).trans hwrapped), ih]

/-- A container gives its place to the end of its chain, with one mark however long the chain is. -/
theorem EndsIn.collapse_eq {c w : Component} (h : c.EndsIn w) (hcontainer : c.IsCollapsible) :
    c.collapse = w.marked := by
  cases h with
  | last hstands => exact absurd hcontainer hstands
  | next hunwrapped hchildren hshown hend =>
    rw [collapse_of_some (wrapped?_eq_some_iff.mpr ⟨hunwrapped, hchildren, hshown⟩),
      hend.collapse_marked_eq]

/-! ### Labels -/

/-- The text that is shown before the name, empty if there is none. -/
def shownText (c : Component) : String := c.info.shownSource.getD ""

def directoryName (c : Component) : String := Path.base (Path.directory c.info.file)

theorem label_eq (c : Component) :
    c.label =
      if c.shownText = "" then c.name
      else if c.directoryName = c.name then c.shownText
      else c.shownText ++ "/" ++ c.name := by
  unfold label shownText directoryName
  split
  · next hsource => simp [hsource]
  · next hsource => simp [hsource]
  · next source hne hsource =>
    have hsome : source ≠ "" := hne
    simp [hsource, hsome]

theorem label_marked_eq (c : Component) :
    c.marked.label =
      if c.shownText = "" then c.name ++ containerMark
      else if c.directoryName = c.name ++ containerMark then c.shownText
      else c.shownText ++ "/" ++ (c.name ++ containerMark) := by
  obtain ⟨i, cs⟩ := c
  exact label_eq (node { i with name := i.name ++ containerMark } cs)

theorem ne_append_containerMark (name : String) : name ≠ name ++ containerMark := by
  intro hsame
  have hlength := congrArg String.length hsame
  simp [containerMark] at hlength

theorem label_marked_iff (c : Component) :
    c.marked.label = c.label ++ containerMark ↔
      c.shownText = "" ∨
        c.directoryName ≠ c.name ∧ c.directoryName ≠ c.name ++ containerMark := by
  have hslash : "/".length = 1 := by decide
  have hmark : containerMark.length = 4 := by decide
  rw [label_marked_eq, label_eq]
  by_cases hsource : c.shownText = ""
  · simp [hsource]
  by_cases hname : c.directoryName = c.name
  · -- the name is left out before the mark is set, and not after that
    have hlength : (c.shownText ++ "/" ++ (c.name ++ containerMark)).length ≠
        (c.shownText ++ containerMark).length := by
      simp only [String.length_append]
      omega
    have hne := mt (congrArg String.length) hlength
    simp [hsource, hname, ne_append_containerMark, hne]
  by_cases hmarked : c.directoryName = c.name ++ containerMark
  · have hlength : c.shownText.length ≠
        (c.shownText ++ "/" ++ c.name ++ containerMark).length := by
      simp only [String.length_append]
      omega
    have hne := mt (congrArg String.length) hlength
    simp [hsource, hmarked, hne, (ne_append_containerMark c.name).symm]
  · simp [hsource, hname, hmarked, String.append_assoc]

/-- What is shown in place of a container has the label of the end of the chain and the mark, exactly
if nothing is shown before the name or the directory is named neither like the component nor like the
marked one.  The name that the directory already has is said again with the mark. -/
theorem label_collapse_iff {c w : Component} (hcontainer : c.IsCollapsible) (hend : c.EndsIn w) :
    (c.collapse.label = w.label ++ containerMark ↔
      w.shownText = "" ∨
        w.directoryName ≠ w.name ∧ w.directoryName ≠ w.name ++ containerMark) ∧
    (w.shownText ≠ "" → w.directoryName = w.name →
      c.collapse.label = w.label ++ "/" ++ w.name ++ containerMark) := by
  rw [hend.collapse_eq hcontainer]
  refine ⟨label_marked_iff w, ?_⟩
  intro hsource hname
  rw [label_marked_eq, label_eq]
  simp [hsource, hname, ne_append_containerMark, String.append_assoc]

/-- A component in two containers. -/
def inContainers (c : Component) : Component :=
  node { name := "App", unwrapped := true } [node { name := "PageBox", unwrapped := true } [c]]

theorem endsIn_inContainers {c : Component} (hstands : ¬ c.IsCollapsible)
    (hshown : c.hidden = false) : (inContainers c).EndsIn c :=
  .next rfl rfl rfl (.next rfl rfl hshown (.last hstands))

/-- A component in a directory with another name. -/
def link : Component := leaf { name := "Link", file := "/p/src/Link.js", shownSource := "src" }

theorem label_collapse_link :
    (inContainers link).IsCollapsible ∧ (inContainers link).EndsIn link ∧
      (inContainers link).collapse.label = link.label ++ containerMark ∧
      link.label = "src/Link" := by
  have hcontainer : (inContainers link).IsCollapsible := by decide
  have hend : (inContainers link).EndsIn link := endsIn_inContainers (by decide) rfl
  have hnames : link.directoryName ≠ link.name ∧
      link.directoryName ≠ link.name ++ containerMark := by decide +kernel
  exact ⟨hcontainer, hend, (label_collapse_iff hcontainer hend).1.mpr (.inr hnames),
    by decide +kernel⟩

/-- A component whose directory is named like it. -/
def page : Component :=
  leaf { name := "Home", file := "/p/pages/Home/index.js", shownSource := "pages/Home" }

/-- In place of its containers the component is shown with its name twice. -/
theorem not_label_collapse_page :
    (inContainers page).IsCollapsible ∧ (inContainers page).EndsIn page ∧
      (inContainers page).collapse.label = "pages/Home/Home (*)" ∧
      page.label ++ containerMark = "pages/Home (*)" := by
  have hcontainer : (inContainers page).IsCollapsible := by decide
  have hend : (inContainers page).EndsIn page := endsIn_inContainers (by decide) rfl
  refine ⟨hcontainer, hend, ?_, by decide +kernel⟩
  rw [hend.collapse_eq hcontainer]
  decide +kernel

end JsxOutline.Component
