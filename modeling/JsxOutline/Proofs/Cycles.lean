import JsxOutline.Proofs.Candidates
import JsxOutline.Proofs.Growth
import JsxOutline.Proofs.Lookup

/-!
# Files that come back

A component is not looked into again below itself if it comes back under the name that it has there.
Main statements: no file is looked into twice on the way down exactly when each one keeps its
spelling there, and that is so where everything is written with names alone.
-/

namespace JsxOutline

/-- Two paths lead to the same place. -/
def FileSystem.SameFile (fs : FileSystem) (path path' : String) : Prop :=
  ∃ l, fs.locate path = .ok l ∧ fs.locate path' = .ok l

namespace Component

/-- On the way down to any component no file is looked into twice. -/
def ExpandedOnce (fs : FileSystem) (c : Config) (root : Component) : Prop :=
  ∀ above n, root.Occurs above n → n.Expanded c → ∀ d ∈ above, d.Expanded c →
    ¬ fs.SameFile d.info.file n.info.file

/-- On the way down to any component the files that are looked into keep their spellings: paths with
one normal form are one text. -/
def SpelledOnce (fs : FileSystem) (c : Config) (root : Component) : Prop :=
  ∀ above n, root.Occurs above n → n.Expanded c → ∀ d ∈ above, d.Expanded c →
    fs.spelled d.info.file = fs.spelled n.info.file → d.info.file = n.info.file

end Component

namespace Project

variable {p : Project} {c : Config}

theorem Holds.locate {file text : String} (h : p.Holds file text)
    (hcurrent : ∀ name ∈ p.files.current, Path.IsName name) :
    p.files.locate file = .ok (p.files.spelled file) := by
  obtain ⟨l, hl⟩ := FileSystem.locate_of_isFile h.1
  rw [hl, FileSystem.locate_eq_spelled hcurrent hl]

/-- A component with a file was located there. -/
theorem Grows.located {levels : Nat} {seen : List String} {s : Site} {g : Growth}
    (h : p.Grows c levels seen s g) (hresolved : g.component.info.resolved = true) :
    ∃ l, (p.locateSite c s).result = .ok (some l) ∧ l.file = g.component.info.file := by
  cases h with
  | unresolved _ => simp [Site.info] at hresolved
  | recursive hlocated _ => exact ⟨_, hlocated, rfl⟩
  | limit hlocated _ _ => exact ⟨_, hlocated, rfl⟩
  | unparsable hlocated _ _ => exact ⟨_, hlocated, rfl⟩
  | expanded _ hlocated _ _ _ _ => exact ⟨_, hlocated, rfl⟩

variable {path : String} {g : Growth}

/-- Where all is written with names alone, each file of the tree is. -/
theorem WellSpelled.rooted_of_occurs (hp : p.WellSpelled c) (hpath : Path.root path ≠ "//")
    (h : (p.build c path).result = .ok g) {above : List Component} {n : Component}
    (hn : g.component.Occurs above n) (hresolved : n.info.resolved = true) :
    Path.IsRooted n.info.file := by
  have hroot := grows_of_build h
  induction hn with
  | root =>
    obtain ⟨l, hlocated, hfile⟩ := hroot.located hresolved
    rw [← hfile]
    exact hp.located (hp.ofRoot hpath) hlocated
  | child hd he ih =>
    obtain ⟨_, t, gn, hgrows, rfl, -, hparent, text, m, b, hholds, hparsed, hb, rfl⟩ :=
      hroot.of_occurs (hd.child he)
    obtain ⟨l, hlocated, hfile⟩ := hgrows.located hresolved
    rw [← hfile]
    exact hp.located (hp.ofBinding (ih hparent) (hp.used _ _ _ hholds hparsed b hb)) hlocated

theorem locate_of_expanded (hcurrent : ∀ name ∈ p.files.current, Path.IsName name)
    (h : (p.build c path).result = .ok g) {above : List Component} {n : Component}
    (hn : g.component.Occurs above n) (hexpanded : n.Expanded c) :
    p.files.locate n.info.file = .ok (p.files.spelled n.info.file) := by
  obtain ⟨l, m, ⟨t, hlocated⟩, hfile, -⟩ := expanded_of_build h hn hexpanded
  rw [← hfile]
  exact (locateSite_holds hlocated).locate hcurrent

/-- Files that keep their spellings are told apart by their names, and only those are. -/
theorem expandedOnce_iff_spelledOnce (hcurrent : ∀ name ∈ p.files.current, Path.IsName name)
    (h : (p.build c path).result = .ok g) :
    g.component.ExpandedOnce p.files c ↔ g.component.SpelledOnce p.files c := by
  refine ⟨?_, ?_⟩
  · intro honce above n hn hexpanded d hd hdexpanded hspelled
    obtain ⟨higher, -, hocc⟩ := hn.of_mem_above hd
    have hdlocate := locate_of_expanded hcurrent h hocc hdexpanded
    have hnlocate := locate_of_expanded hcurrent h hn hexpanded
    rw [hspelled] at hdlocate
    exact absurd ⟨_, hdlocate, hnlocate⟩ (honce above n hn hexpanded d hd hdexpanded)
  · rintro hspelled above n hn hexpanded d hd hdexpanded ⟨l, hdl, hnl⟩
    have hdspelled := FileSystem.locate_eq_spelled hcurrent hdl
    have hnspelled := FileSystem.locate_eq_spelled hcurrent hnl
    have hsame := hspelled above n hn hexpanded d hd hdexpanded (hdspelled.symm.trans hnspelled)
    have hmem : d.info.file ∈ above.map (·.info.file) := List.mem_map_of_mem hd
    -- a file that stands above under the same name would have ended the branch
    obtain ⟨_, _, _, hfile, hnew, -⟩ := expanded_of_build h hn hexpanded
    rw [hfile, ← hsame] at hnew
    exact hnew hmem

theorem spelledOnce_of_wellSpelled (hp : p.WellSpelled c) (hpath : Path.root path ≠ "//")
    (h : (p.build c path).result = .ok g) : g.component.SpelledOnce p.files c := by
  intro above n hn hexpanded d hd hdexpanded hspelled
  obtain ⟨higher, -, hocc⟩ := hn.of_mem_above hd
  have hdrooted := hp.rooted_of_occurs hpath h hocc hdexpanded.resolved
  have hnrooted := hp.rooted_of_occurs hpath h hn hexpanded.resolved
  exact FileSystem.eq_of_spelled_eq hdrooted hnrooted hspelled

/-- No file is looked into twice on the way down exactly when those that are keep their spellings,
and they do where everything that paths are put together from is written with names alone. -/
theorem expandedOnce_iff_of_build (hcurrent : ∀ name ∈ p.files.current, Path.IsName name)
    (h : (p.build c path).result = .ok g) :
    (g.component.ExpandedOnce p.files c ↔ g.component.SpelledOnce p.files c) ∧
      (p.WellSpelled c → Path.root path ≠ "//" → g.component.ExpandedOnce p.files c) := by
  have hiff := expandedOnce_iff_spelledOnce hcurrent h
  refine ⟨hiff, ?_⟩
  intro hp hpath
  exact hiff.mpr (spelledOnce_of_wellSpelled hp hpath h)

/-- The directory of an alias is written with a dot, so the file that comes back by it does not have
the name that it has above. -/
theorem not_expandedOnce_aliased :
    ((wrapper "@/A").build aliased "A.js").result = .ok aliasedGrowth ∧
      ¬ aliasedGrowth.component.ExpandedOnce (wrapper "@/A").files aliased := by
  refine ⟨build_aliased, ?_⟩
  intro honce
  have hchild : aliasedGrowth.component.Occurs [aliasedGrowth.component] _ :=
    .child .root List.mem_cons_self
  have hsame : (wrapper "@/A").files.SameFile "/p/A.js" "/p/./A.js" :=
    ⟨["p", "A.js"], by decide +kernel, by decide +kernel⟩
  exact honce _ _ hchild ⟨rfl, rfl⟩ _ List.mem_cons_self ⟨rfl, rfl⟩ hsame

/-- What the module grows into if it imports its own file by a relative path. -/
def relativeGrowth : Growth where
  component :=
    .node { name := "A", file := "/p/A.js", resolved := true, unwrapped := true } [
      .node { name := "A", file := "/p/A.js", depth := 1, source := "./A", shownSource := "A",
              resolved := true, recursive := true } []]
  parsed := 1

theorem wellSpelled_wrapper : (wrapper "./A").WellSpelled { base := "/p" } := by
  have hsources : ∀ file, ∀ b ∈ Module.reexports ⟨file, wrapperTree "./A"⟩,
      Specifier.IsSpelled b.source := by
    intro file b hb
    have hfile : Module.reexports ⟨file, wrapperTree "./A"⟩ =
        Module.reexports ⟨"", wrapperTree "./A"⟩ := rfl
    have hlist : Module.reexports ⟨"", wrapperTree "./A"⟩ = [⟨"A", "./A"⟩] := by decide +kernel
    rw [hfile, hlist, List.mem_singleton] at hb
    rw [hb]
    exact .inl rfl
  have hparse : ∀ text file, (Module.parse (wrapper "./A").parser text file).result =
      .ok ⟨file, wrapperTree "./A"⟩ := by
    intro text file
    have hsound : (wrapperTree "./A").hasError = false := by decide +kernel
    have hparsed : Module.parse (wrapper "./A").parser text file = _ :=
      Module.parse_of_sound file hsound
    rw [hparsed]
    rfl
  refine ⟨.inr ⟨"p", by decide +kernel, rfl⟩, ?_, ?_, by decide +kernel, ?_, ?_⟩
  · rintro _ ⟨⟩
  · rintro _ _ ⟨⟩
  · intro file text m _ hparsed b hb
    have hmodule := Except.ok.inj ((hparse text file).symm.trans hparsed)
    rw [← hmodule] at hb
    exact hsources file b (List.mem_append_left _ (List.mem_append_left _
      (Module.mem_imports_of_mem_childBindings hb)))
  · intro name index text b _ _ hbinding
    rw [indexBinding?, Outcome.bind_result_eq_ok_iff] at hbinding
    obtain ⟨parsed, hparsed, hbinding⟩ := hbinding
    rw [Outcome.attempt_result, hparse] at hparsed
    obtain rfl := Except.ok.inj hparsed
    have hlast := Except.ok.inj hbinding
    exact hsources index b (Binding.mem_of_last? hlast)

theorem expandedOnce_relative :
    ((wrapper "./A").build { base := "/p" } "A.js").result = .ok relativeGrowth ∧
      relativeGrowth.component.ExpandedOnce (wrapper "./A").files { base := "/p" } := by
  have hbuild : ((wrapper "./A").build { base := "/p" } "A.js").result = .ok relativeGrowth := by
    decide +kernel
  have hcurrent : ∀ name ∈ (wrapper "./A").files.current, Path.IsName name := by decide +kernel
  have hpath : Path.root "A.js" ≠ "//" := by decide +kernel
  exact ⟨hbuild, (expandedOnce_iff_of_build hcurrent hbuild).2 wellSpelled_wrapper hpath⟩

end Project

end JsxOutline
