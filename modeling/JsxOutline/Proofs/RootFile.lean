import JsxOutline.Proofs.Accounting
import JsxOutline.Proofs.Backing
import JsxOutline.Proofs.Exits
import JsxOutline.Proofs.Failure

/-!
# The root file

A run looks the root up as it is written, a build in normal form.  Main statement: both find the same
file, and a tree is then built with a root that has a file unless some other file that is read on the
way has no text.
-/

namespace JsxOutline

/-! ### Files in normal form -/

namespace FileSystem

variable {fs : FileSystem}

theorem find_congr {path path' : String} (h : fs.locate path = fs.locate path') :
    fs.find path = fs.find path' := by
  rw [find, find, h]

theorem isFile_congr {path path' : String} (h : fs.locate path = fs.locate path') :
    fs.isFile path = fs.isFile path' := by
  rw [isFile, isFile, find_congr h]

theorem readText_congr {path path' text : String} (h : fs.locate path = fs.locate path')
    (hfile : fs.isFile path = true) (htext : fs.readText path = .ok text) :
    fs.readText path' = .ok text := by
  have hfile' : fs.isFile path' = true := isFile_congr h ▸ hfile
  have htidy : fs.locate (Path.tidy path) = fs.locate (Path.tidy path') := by
    rw [locate_tidy hfile, locate_tidy hfile', h]
  have hfind := find_congr htidy
  unfold readText read at htext ⊢
  rw [← hfind]
  cases hentry : fs.find (Path.tidy path) with
  | error cause => simp [hentry] at htext
  | ok e =>
    cases e with
    | file bytes => simpa [hentry] using htext
    | lockedFile | directory => simp [hentry] at htext

end FileSystem

namespace Project

variable {p : Project} {c : Config}

theorem Holds.congr {file file' text : String} (h : p.Holds file text)
    (hsame : p.files.locate file = p.files.locate file') : p.Holds file' text :=
  ⟨FileSystem.isFile_congr hsame ▸ h.1, FileSystem.readText_congr hsame h.1 h.2⟩

theorem rootFile_of_isAbsolute {path : String} (h : Path.isAbsolute path = true) (c : Config) :
    p.rootFile c path = Path.normalize path := by
  rw [rootFile, Path.join_of_isAbsolute h, Path.absolute, Path.join_of_isAbsolute h]

/-! ### Roots -/

theorem firstReadable_ofRoot {file text : String} (h : p.Holds file text) (c : Config) :
    (p.firstReadable (c.candidates (Site.ofRoot file).guess (Site.ofRoot file).source
      (Site.ofRoot file).parent)).result = .ok (some (file, text)) := by
  have hcandidates : c.candidates (Site.ofRoot file).guess (Site.ofRoot file).source
      (Site.ofRoot file).parent = expansions file := by
    cases hdir : c.moduleDirectory <;> simp [Config.candidates, Config.movedPath?, Site.ofRoot, hdir]
  rw [hcandidates, expansions_eq]
  exact firstReadable_of_holds h _

theorem locateSite_ofRoot_ne_none {file text : String} (h : p.Holds file text) (c : Config) :
    (p.locateSite c (.ofRoot file)).result ≠ .ok none := by
  intro hnone
  have hlocate := Outcome.mapError_result_eq_ok_iff.mp hnone
  rcases locate_eq_ok hlocate with ⟨hfirst, -⟩ | ⟨first, source, followed, -, -, hfound⟩
  · rw [firstReadable_ofRoot h c] at hfirst
    cases hfirst
  · cases hfound

theorem locateSite_ofRoot {file text : String} (h : p.Holds file text)
    (hindex : isIndex file = false) (c : Config) :
    (p.locateSite c (.ofRoot file)).result = .ok (some ⟨file, text, none⟩) := by
  refine Outcome.mapError_result_eq_ok_iff.mpr ?_
  rw [locate, Outcome.bind_of_ok (firstReadable_ofRoot h c)]
  simp only [hindex, Bool.false_eq_true, if_false]
  rfl

theorem Grows.resolved_of_located {levels : Nat} {seen : List String} {s : Site} {g : Growth}
    (h : p.Grows c levels seen s g) (hlocated : (p.locateSite c s).result ≠ .ok none) :
    g.component.info.resolved = true := by
  cases h with
  | unresolved hnone => exact absurd hnone hlocated
  | recursive | limit | unparsable | expanded => rfl

theorem Grows.file_of_ofRoot {levels : Nat} {seen : List String} {file text : String} {g : Growth}
    (hgrows : p.Grows c levels seen (.ofRoot file) g) (h : p.Holds file text)
    (hindex : isIndex file = false) : g.component.info.file = file := by
  have hfound := locateSite_ofRoot h hindex c
  have hresolved := hgrows.resolved_of_located (locateSite_ofRoot_ne_none h c)
  obtain ⟨l, hlocated, hfile⟩ := hgrows.located hresolved
  rw [hfound] at hlocated
  cases hlocated
  exact hfile.symm

theorem isIndex_congr {path path' : String} (h : p.files.isFile path = true)
    (hsame : p.files.locate path = p.files.locate path') : isIndex path' = isIndex path := by
  obtain ⟨l, hl⟩ := FileSystem.locate_of_isFile h
  have hlast := FileSystem.getLast?_of_isFile h hl
  have hlast' := FileSystem.getLast?_of_isFile (FileSystem.isFile_congr hsame ▸ h) (hsame ▸ hl)
  rw [hlast] at hlast'
  rw [isIndex, isIndex, Option.some.inj hlast']

/-- A file that is read while a tree grows is not garbled if there is a tree. -/
theorem not_garbled_of_grow {levels : Nat} {s : Site} {g : Growth} {file : String}
    (h : (p.grow c levels [] s).result = .ok g) (hreads : p.Reads c levels s file) :
    ¬ p.Garbled file := by
  intro hgarbled
  obtain ⟨t, ht, htries⟩ := hreads
  obtain ⟨l, hlocated⟩ := (grows_of_grow h).locates ht
  have hfault : (p.locateSite c t).result = .error .undecodable :=
    locateSite_eq_error_iff.mpr ⟨rfl, file, htries, hgarbled⟩
  rw [hfault] at hlocated
  cases hlocated

open Command in
/-- A root that a run finds as a file with a text is found by the builder too, at a path to the same
file.  A tree that is built has a root with a file and no warning that there is none, and the file
is that one unless it is an index file.  No tree is built only if it does not end, or if a file that
is read on the way has no text, and then none is. -/
theorem build_of_rootPath {o : Options} {text : String} (h : p.Holds (rootPath p o) text)
    (c : Config) :
    p.files.SameFile (rootPath p o) (p.rootFile c (rootPath p o)) ∧
      (isIndex (rootPath p o) = false →
        (p.locateSite c (.ofRoot (p.rootFile c (rootPath p o)))).result =
          .ok (some ⟨p.rootFile c (rootPath p o), text, none⟩)) ∧
      (∀ g, (p.build c (rootPath p o)).result = .ok g →
        g.component.info.resolved = true ∧ (∀ file, Growth.notFoundWarning file ∉ g.warnings) ∧
          (isIndex (rootPath p o) = false →
            p.files.SameFile (rootPath p o) g.component.info.file)) ∧
      (∀ fault, (p.build c (rootPath p o)).result = .error fault →
        fault = .endless ∧ c.scanDepth = none ∨
          fault = .undecodable ∧ ∃ file, p.Reads c (c.levels?.getD maxLevels)
            (.ofRoot (p.rootFile c (rootPath p o))) file ∧ p.Garbled file) ∧
      ∀ file, p.Reads c (c.levels?.getD maxLevels) (.ofRoot (p.rootFile c (rootPath p o))) file →
        p.Garbled file → ¬ ∃ g, (p.build c (rootPath p o)).result = .ok g := by
  have hcurrent : Path.isAbsolute p.files.currentPath = true := Path.isAbsolute_append rfl _
  have habsolute : Path.isAbsolute (rootPath p o) = true :=
    Path.isAbsolute_tidy (Path.isAbsolute_join hcurrent o.root)
  have hnormal : p.files.locate (rootPath p o) = p.files.locate (p.rootFile c (rootPath p o)) := by
    rw [rootFile_of_isAbsolute habsolute, FileSystem.locate_normalize habsolute h.1]
  have hroot : p.Holds (p.rootFile c (rootPath p o)) text := h.congr hnormal
  have hindex := isIndex_congr h.1 hnormal
  have hsame : p.files.SameFile (rootPath p o) (p.rootFile c (rootPath p o)) := by
    obtain ⟨l, hl⟩ := FileSystem.locate_of_isFile h.1
    exact ⟨l, hl, hnormal ▸ hl⟩
  have hitself : isIndex (rootPath p o) = false →
      (p.locateSite c (.ofRoot (p.rootFile c (rootPath p o)))).result =
        .ok (some ⟨p.rootFile c (rootPath p o), text, none⟩) :=
    fun hplain => locateSite_ofRoot hroot (hindex.trans hplain) c
  refine ⟨hsame, hitself, ?_, ?_, ?_⟩
  · intro g hg
    have hgrows := grows_of_build hg
    have hresolved := hgrows.resolved_of_located (locateSite_ofRoot_ne_none hroot c)
    refine ⟨hresolved, ?_, ?_⟩
    · intro file hwarning
      rcases Growth.mem_warnings_iff.mp hwarning with ⟨hunresolved, -⟩ | ⟨-, heq⟩
      · rw [hresolved] at hunresolved
        cases hunresolved
      · exact Growth.notFoundWarning_ne_incompleteWarning _ _ heq
    · intro hplain
      rw [hgrows.file_of_ofRoot hroot (hindex.trans hplain)]
      exact hsame
  · intro fault hfault
    rcases visit_of_grow_error hfault with ⟨t, ht, hlocated⟩ | hendless
    · obtain ⟨hundecodable, file, htries, hgarbled⟩ := locateSite_eq_error_iff.mp hlocated
      exact .inr ⟨hundecodable, file, ⟨t, ht, htries⟩, hgarbled⟩
    · exact .inl hendless
  · rintro file hreads hgarbled ⟨g, hg⟩
    exact not_garbled_of_grow hg hreads hgarbled

/-- A project whose root is an index file that takes its own component from a file which is marked as
UTF-16 but ends within a unit. -/
def exporting : Project where
  parser := fun text =>
    .node { kind := "program", text } [
      .node { kind := "import_statement", text } [
        token "import" "import" 0 false [],
        .node { kind := "import_clause", text := "index", place := ⟨0, 7⟩ }
          [token "identifier" "index" 7 true []],
        token "from" "from" 13 false [],
        .node { kind := "string", text := "'./x'", fields := ["source"], place := ⟨0, 18⟩ } [
          token "'" "'" 18 false [],
          token "string_fragment" "./x" 19 true [],
          token "'" "'" 22 false []]]]
  files := {
    root := .directory [("p", .directory
      [("index.js", .file (Text.toBytes "import index from './x'")),
        ("x.js", .file [0xFF, 0xFE, 0x00])])]
    current := ["p"] }

open Command in
/-- A root that a run finds as a file with a text, and yet there is no tree. -/
theorem not_build_exporting :
    exporting.Holds (rootPath exporting { root := "index.js" }) "import index from './x'" ∧
      ¬ ∃ g, (exporting.build { base := "/p" } (rootPath exporting { root := "index.js" })).result =
        .ok g := by
  have hfails : (exporting.build { base := "/p" }
      (rootPath exporting { root := "index.js" })).result = .error .undecodable := by decide +kernel
  refine ⟨⟨by decide +kernel, by decide +kernel⟩, ?_⟩
  rintro ⟨g, hg⟩
  rw [hfails] at hg
  cases hg

/-- A project with a directory beside its root module. -/
def nested : Project :=
  { wrapper "./A" with
    files := {
      root := .directory [("p", .directory
        [("A.js", .file (Text.toBytes (wrapperText "./A"))), ("lib", .directory [])])]
      current := ["p"] } }

open Command in
theorem build_of_rootPath_nested :
    rootPath nested { root := "./lib//../A.js" } = "/p/lib/../A.js" ∧
      nested.Holds "/p/lib/../A.js" (wrapperText "./A") ∧
      (nested.build { base := "/p" } "/p/lib/../A.js").result = .ok relativeGrowth ∧
      nested.files.SameFile "/p/lib/../A.js" relativeGrowth.component.info.file := by
  have hpath : rootPath nested { root := "./lib//../A.js" } = "/p/lib/../A.js" := by decide +kernel
  have hholds : nested.Holds "/p/lib/../A.js" (wrapperText "./A") :=
    ⟨by decide +kernel, by decide +kernel⟩
  have hbuild : (nested.build { base := "/p" } "/p/lib/../A.js").result = .ok relativeGrowth := by
    decide +kernel
  have hroot := @build_of_rootPath nested { root := "./lib//../A.js" } _ (hpath ▸ hholds)
    { base := "/p" }
  rw [hpath] at hroot
  exact ⟨hpath, hholds, hbuild, (hroot.2.2.1 _ hbuild).2.2 (by decide +kernel)⟩

end Project

end JsxOutline
