import JsxOutline.Proofs.Growth

/-!
# Trees as unfoldings of files

What the tree of a root shows is what the files hold.  Main statement: each component whose module
was looked into has, child by child, what the module that is in its file uses or wraps.
-/

namespace JsxOutline

namespace Module

/-! ### Distinct names -/

/-- Used bindings have distinct names, each being the first of its name. -/
structure FirstUses (bs used : List Binding) : Prop where
  nodup : (used.map (·.name)).Nodup
  first : ∀ b ∈ used, Binding.first? bs b.name = some b

theorem name_of_first? {bs : List Binding} {name : String} {b : Binding}
    (h : Binding.first? bs name = some b) : b.name = name := by
  simpa using List.find?_some h

theorem firstUses_addUsed {bs used : List Binding} (h : FirstUses bs used) (name : String) :
    FirstUses bs (addUsed bs used name) := by
  unfold addUsed
  split
  · next b hb =>
    split
    · exact h
    · next hnot =>
      have hname : b.name = name := name_of_first? hb
      refine ⟨?_, ?_⟩
      · rw [List.map_append, List.nodup_append]
        refine ⟨h.nodup, by simp, ?_⟩
        intro x hx y hy hxy
        obtain ⟨d, hd, rfl⟩ := List.mem_map.mp hx
        rw [List.map_singleton, List.mem_singleton] at hy
        have hsame : Binding.first? bs name = some d := by
          rw [← hname, ← hy, ← hxy]
          exact h.first d hd
        rw [Option.some.inj (hb.symm.trans hsame)] at hnot
        exact hnot (List.contains_iff_mem.mpr hd)
      · intro d hd
        rcases List.mem_append.mp hd with hd | hd
        · exact h.first d hd
        · rw [List.mem_singleton.mp hd, hname]
          exact hb
  · exact h

theorem firstUses_usedImports (m : Module) (bs : List Binding) :
    FirstUses bs (m.usedImports bs) := by
  have hnil : FirstUses bs [] := ⟨List.nodup_nil, by simp⟩
  have fold : ∀ (names : List String) (used : List Binding), FirstUses bs used →
      FirstUses bs (names.foldl (addUsed bs) used) := by
    intro names
    induction names with
    | nil => exact fun _ h => h
    | cons name names ih => exact fun used h => ih _ (firstUses_addUsed h name)
  unfold usedImports
  split
  · exact fold _ _ hnil
  · exact hnil

theorem nodup_childBindings (m : Module) : (m.childBindings.1.map (·.name)).Nodup := by
  unfold childBindings
  dsimp only
  split
  · exact (firstUses_usedImports m m.imports).nodup
  · split
    · simp
    · exact List.nodup_nil

end Module

namespace Project

variable {p : Project} {c : Config}

/-- The file of a component can be read and parsed, and its children are what the module there uses
if it binds the name that marks modules with elements, else what it wraps. -/
def Unfolds (p : Project) (c : Config) (n : Component) : Prop :=
  ∃ text m, p.Holds n.info.file text ∧
    (Module.parse p.parser text n.info.file).result = .ok m ∧
    if Binding.hasReact m.imports = true then
      n.uses = (m.usedImports m.imports).map (c.use n.info.file) ∧ n.info.unwrapped = false
    else
      n.uses = (m.wrappedImport? m.imports).toList.map (c.use n.info.file) ∧
        n.info.unwrapped = (m.wrappedImport? m.imports).isSome

theorem unfolds_of_expanded {path : String} {g : Growth} (h : (p.build c path).result = .ok g)
    {n : Component} (hn : n ∈ g.component.preorder) (hexpanded : n.Expanded c) :
    p.Unfolds c n := by
  obtain ⟨above, hocc⟩ := Component.mem_preorder_iff.mp hn
  obtain ⟨l, m, ⟨t, hlocated⟩, hfile, -, hparsed, hunwrapped, huses⟩ :=
    expanded_of_build h hocc hexpanded
  rw [hfile] at hparsed huses
  refine ⟨l.source, m, hfile ▸ locateSite_holds hlocated, hparsed, ?_⟩
  rw [huses, hunwrapped]
  unfold Module.childBindings
  dsimp only
  by_cases hreact : Binding.hasReact m.imports = true
  · simp only [hreact, if_true]
    exact ⟨trivial, trivial⟩
  · simp only [hreact, Bool.false_eq_true, if_false]
    cases m.wrappedImport? m.imports with
    | none => exact ⟨rfl, rfl⟩
    | some b => exact ⟨rfl, rfl⟩

/-- The file of a component determines what it shows. -/
theorem Unfolds.uses_unique {n n' : Component} (h : p.Unfolds c n) (h' : p.Unfolds c n')
    (hfile : n.info.file = n'.info.file) : n.uses = n'.uses := by
  obtain ⟨text, m, hholds, hparsed, huses⟩ := h
  obtain ⟨text', m', hholds', hparsed', huses'⟩ := h'
  rw [hfile] at hholds hparsed huses
  have htext : text = text' := hholds.unique hholds'
  subst htext
  have hmodule : m = m' := Except.ok.inj (hparsed.symm.trans hparsed')
  subst hmodule
  by_cases hreact : Binding.hasReact m.imports = true
  · simp only [hreact, if_true] at huses huses'
    rw [huses.1, huses'.1]
  · simp only [hreact, Bool.false_eq_true, if_false] at huses huses'
    rw [huses.1, huses'.1]

theorem Grows.nodup_names {levels : Nat} {seen : List String} {s : Site} {g : Growth}
    (h : p.Grows c levels seen s g) : (g.component.children.map (·.info.name)).Nodup := by
  cases h with
  | unresolved | recursive | limit | unparsable => exact List.nodup_nil
  | @expanded _ _ _ l m us _ _ _ hfst hus =>
    have huses := congrArg (List.map Prod.fst) (Grows.uses_eq hfst hus)
    rw [List.map_map, List.map_map] at huses
    have hnames : us.map (fun u => u.2.component.info.name) = m.childBindings.1.map (·.name) := huses
    rw [Growth.component_ofChildren, Component.children_node, List.map_map, List.map_map]
    change (us.map fun u => u.2.component.info.name).Nodup
    rw [hnames]
    exact m.nodup_childBindings

/-- Each component of a tree whose module was looked into shows what its file holds, siblings have
distinct names, and components with the same file have the same children, however they were found. -/
theorem build_unfolds {path : String} {g : Growth} (h : (p.build c path).result = .ok g) :
    (∀ n ∈ g.component.preorder, n.Expanded c → p.Unfolds c n) ∧
    (∀ n ∈ g.component.preorder, (n.children.map (·.info.name)).Nodup) ∧
    ∀ n ∈ g.component.preorder, ∀ n' ∈ g.component.preorder, n.Expanded c → n'.Expanded c →
      n.info.file = n'.info.file → n.uses = n'.uses := by
  refine ⟨fun n hn => unfolds_of_expanded h hn, ?_, ?_⟩
  · intro n hn
    obtain ⟨above, hocc⟩ := Component.mem_preorder_iff.mp hn
    obtain ⟨_, _, gn, hgrows, rfl, -, -⟩ := (grows_of_build h).of_occurs hocc
    exact hgrows.nodup_names
  · intro n hn n' hn' hexpanded hexpanded' hfile
    exact (unfolds_of_expanded h hn hexpanded).uses_unique (unfolds_of_expanded h hn' hexpanded') hfile

theorem build_unfolds_aliased :
    ((wrapper "@/A").build aliased "A.js").result = .ok aliasedGrowth ∧
      (∀ n ∈ aliasedGrowth.component.preorder, n.Expanded aliased →
        (wrapper "@/A").Unfolds aliased n) ∧
      aliasedGrowth.component.Expanded aliased ∧
      aliasedGrowth.component.uses = [("A", some "@/A", some "A")] :=
  ⟨build_aliased, (build_unfolds build_aliased).1, ⟨rfl, rfl⟩, rfl⟩

end Project

end JsxOutline
