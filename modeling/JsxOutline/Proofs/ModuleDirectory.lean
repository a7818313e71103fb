import JsxOutline.Proofs.Growth

/-!
# Builds with and without a module directory

A module directory adds candidates after all others.  Main statement: a component that has a file
without it keeps that file, all its other fields and its children; only components without a file
change.
-/

namespace JsxOutline

def Config.withModuleDirectory (c : Config) (dir : Option String) : Config :=
  { c with moduleDirectory := dir }

/-! ### More candidates -/

theorem Config.candidates_withModuleDirectory (c : Config) (dir guess : String)
    (source parent : Option String) :
    (c.withModuleDirectory (some dir)).candidates guess source parent =
      (c.withModuleDirectory none).candidates guess source parent ++
        ((c.withModuleDirectory (some dir)).movedPath? guess parent).toList.flatMap expansions := by
  have hnone : (c.withModuleDirectory none).movedPath? guess parent = none := rfl
  simp only [candidates, hnone, Option.toList_none, List.flatMap_nil, List.append_nil]
  rfl

namespace Project

variable {p : Project} {c : Config}

theorem firstReadable_append {files : List String} {found : String × String}
    (h : (p.firstReadable files).result = .ok (some found)) (more : List String) :
    (p.firstReadable (files ++ more)).result = .ok (some found) := by
  induction files with
  | nil => cases h
  | cons file rest ih =>
    rw [firstReadable, Outcome.bind_result_eq_ok_iff] at h
    obtain ⟨source, hsource, h⟩ := h
    rw [List.cons_append, firstReadable, Outcome.bind_result_eq_ok_iff]
    refine ⟨source, hsource, ?_⟩
    cases source with
    | some source => exact h
    | none => exact ih h

theorem locate_append {name : String} {files : List String} {l : Located}
    (h : (p.locate name files).result = .ok (some l)) (more : List String) :
    (p.locate name (files ++ more)).result = .ok (some l) := by
  rw [locate, Outcome.bind_result_eq_ok_iff] at h ⊢
  obtain ⟨found, hfound, h⟩ := h
  cases found with
  | none => cases h
  | some found => exact ⟨some found, firstReadable_append hfound more, h⟩

theorem locateSite_withModuleDirectory {s : Site} {l : Located}
    (h : (p.locateSite (c.withModuleDirectory none) s).result = .ok (some l)) (dir : String) :
    (p.locateSite (c.withModuleDirectory (some dir)) s).result = .ok (some l) := by
  rw [locateSite, Outcome.mapError_result_eq_ok_iff] at h ⊢
  rw [Config.candidates_withModuleDirectory]
  exact locate_append h _

end Project

/-! ### Pairs of components -/

namespace Component

/-- Two components stand at the same place in two trees: both are the roots, or their parents do,
and that of the first has a file. -/
inductive Paired : Component → Component → Component → Component → Prop
  | roots {a b : Component} : Paired a b a b
  | child {a b x y n n' : Component} {i : Nat} : a.info.resolved = true →
      a.children[i]? = some x → b.children[i]? = some y → Paired x y n n' → Paired a b n n'

/-- A component with a file is kept with all its fields and as many children; one without a file
keeps what the place of use says, and everything if it still has none. -/
structure Kept (n n' : Component) : Prop where
  resolved : n.info.resolved = true →
    n'.info = n.info ∧ n'.children.length = n.children.length
  unresolved : n.info.resolved = false →
    n'.info.name = n.info.name ∧ n'.info.depth = n.info.depth ∧
      n'.info.source = n.info.source ∧ n'.info.shownSource = n.info.shownSource ∧
      (n'.info.resolved = false → n' = n)

theorem Kept.refl (n : Component) : n.Kept n :=
  ⟨fun _ => ⟨rfl, rfl⟩, fun _ => ⟨rfl, rfl, rfl, rfl, fun _ => rfl⟩⟩

theorem Paired.eq {a b n n' : Component} (h : Paired a b n n') (hroots : a = b) : n' = n := by
  induction h with
  | roots => exact hroots.symm
  | child _ hx hy _ ih =>
    rw [hroots, hy] at hx
    exact ih (Option.some.inj hx).symm

theorem Paired.of_unresolved {a b n n' : Component} (h : Paired a b n n')
    (hresolved : a.info.resolved = false) : n = a ∧ n' = b := by
  cases h with
  | roots => exact ⟨rfl, rfl⟩
  | child hfile =>
    rw [hresolved] at hfile
    cases hfile

end Component

namespace Project

variable {p : Project} {c : Config}

/-- What grows without a module directory is kept place by place where there is one. -/
theorem Grows.kept {dir : String} {levels : Nat} {seen : List String} {s : Site} {g g' : Growth}
    (h : p.Grows (c.withModuleDirectory none) levels seen s g)
    (h' : p.Grows (c.withModuleDirectory (some dir)) levels seen s g') {n n' : Component}
    (hpaired : Component.Paired g.component g'.component n n') : n.Kept n' := by
  induction h generalizing g' n n' with
  | unresolved hlocated =>
    obtain ⟨rfl, rfl⟩ := hpaired.of_unresolved rfl
    obtain ⟨hname, hdepth, hsource, hshown⟩ := h'.info_eq
    refine ⟨nofun, fun _ => ⟨hname, hdepth, hsource, hshown, ?_⟩⟩
    intro hnone
    cases h' with
    | unresolved _ => rfl
    | recursive | limit | unparsable | expanded => cases hnone
  | recursive hlocated hseen =>
    have hsame := Grows.unique (.recursive (locateSite_withModuleDirectory hlocated dir) hseen) h'
    subst hsame
    exact hpaired.eq rfl ▸ .refl _
  | limit hlocated hnew hlimit =>
    have hsame := Grows.unique (.limit (locateSite_withModuleDirectory hlocated dir) hnew hlimit) h'
    subst hsame
    exact hpaired.eq rfl ▸ .refl _
  | unparsable hlocated hnew hfault =>
    have hsame := Grows.unique
      (.unparsable (locateSite_withModuleDirectory hlocated dir) hnew hfault) h'
    subst hsame
    exact hpaired.eq rfl ▸ .refl _
  | @expanded levels seen s l m uses hlocated hnew hparsed hfst huses ih =>
    obtain ⟨uses', hfst', huses', rfl⟩ :=
      h'.of_parsed (locateSite_withModuleDirectory hlocated dir) hnew hparsed
    cases hpaired with
    | roots =>
      have hlength := congrArg List.length (hfst'.trans hfst.symm)
      refine ⟨fun _ => ⟨rfl, ?_⟩, nofun⟩
      simpa using hlength
    | @child _ _ x y _ _ i _ hx hy hbelow =>
      simp only [Growth.component_ofChildren, Component.children_node, List.map_map,
        List.getElem?_map, Option.map_eq_some_iff] at hx hy
      obtain ⟨u, hu, rfl⟩ := hx
      obtain ⟨u', hu', rfl⟩ := hy
      -- the lists of uses run in step, so the children at one place have one binding
      have hbinding : u'.1 = u.1 := by
        have hplace := congrArg (·[i]?) (hfst'.trans hfst.symm)
        simpa [hu, hu'] using hplace
      have hgrows' := huses' u' (List.mem_of_getElem? hu')
      rw [hbinding] at hgrows'
      exact ih u (List.mem_of_getElem? hu) hgrows' hbelow

/-- With a module directory a tree keeps each component that has a file without it, field by field
and child by child; a component without a file keeps what the place of use says, and stays as it is
if it is not found in the module directory either. -/
theorem kept_of_build {path dir : String} {g g' : Growth}
    (h : (p.build (c.withModuleDirectory none) path).result = .ok g)
    (h' : (p.build (c.withModuleDirectory (some dir)) path).result = .ok g') {n n' : Component}
    (hpaired : Component.Paired g.component g'.component n n') : n.Kept n' :=
  (grows_of_build h).kept (grows_of_build h') hpaired

/-- A project whose root module wraps the component of a file that is in another directory only. -/
def apart : Project :=
  { wrapper "./B" with
    files := {
      root := .directory [
        ("p", .directory [("A.js", .file (Text.toBytes (wrapperText "./B")))]),
        ("m", .directory [("B.js", .file (Text.toBytes (wrapperText "./B")))])]
      current := ["p"] } }

def apartGrowth : Growth where
  component :=
    .node { name := "A", file := "/p/A.js", resolved := true, unwrapped := true } [
      .leaf { name := "A", file := "/p/B", depth := 1, source := "./B", shownSource := "B" }]
  parsed := 1

def foundGrowth : Growth where
  component :=
    .node { name := "A", file := "/p/A.js", resolved := true, unwrapped := true } [
      .node { name := "A", file := "/m/B.js", depth := 1, source := "./B", shownSource := "B",
              resolved := true, unwrapped := true } [
        .leaf { name := "A", file := "/m/B.js", depth := 2, source := "./B", shownSource := "/m/B",
                resolved := true, recursive := true }]]
  parsed := 2

theorem kept_of_build_apart :
    (apart.build (Config.withModuleDirectory { base := "/p" } none) "A.js").result =
        .ok apartGrowth ∧
      (apart.build (Config.withModuleDirectory { base := "/p" } (some "/m")) "A.js").result =
        .ok foundGrowth ∧
      ∀ n n', Component.Paired apartGrowth.component foundGrowth.component n n' → n.Kept n' := by
  have hwithout : (apart.build (Config.withModuleDirectory { base := "/p" } none) "A.js").result =
      .ok apartGrowth := by decide +kernel
  have hwith : (apart.build (Config.withModuleDirectory { base := "/p" } (some "/m")) "A.js").result =
      .ok foundGrowth := by decide +kernel
  exact ⟨hwithout, hwith, fun n n' hpaired => kept_of_build hwithout hwith hpaired⟩

end Project

end JsxOutline
