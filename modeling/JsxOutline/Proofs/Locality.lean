import JsxOutline.Proofs.Growth
import JsxOutline.Proofs.Overwriting

/-!
# Where the content of a file matters

Two builds between which one file, which is not an index file, has been overwritten.  Main
statement: their trees differ only at and below the components that this file backs.
-/

namespace JsxOutline

/-! ### Pruning -/

namespace Component

/-- What is known about a component before its file is looked into. -/
def Info.located (i : Info) : Info where
  name := i.name
  file := i.file
  depth := i.depth
  source := i.source
  shownSource := i.shownSource
  resolved := i.resolved
  hidden := i.hidden

mutual

/-- The tree in which each component of certain files, the outermost first, is a leaf of which only
that is known. -/
def prune (cuts : String → Bool) : Component → Component
  | node i cs => if cuts i.file then leaf i.located else node i (pruneAll cuts cs)

def pruneAll (cuts : String → Bool) : List Component → List Component
  | [] => []
  | c :: cs => prune cuts c :: pruneAll cuts cs

end

theorem pruneAll_eq_map (cuts : String → Bool) (cs : List Component) :
    pruneAll cuts cs = cs.map (prune cuts) := by
  induction cs with
  | nil => rfl
  | cons c cs ih => rw [pruneAll, ih, List.map_cons]

theorem prune_of_cuts {cuts : String → Bool} {i : Info} (h : cuts i.file = true)
    (cs : List Component) : prune cuts (node i cs) = leaf i.located := by
  rw [prune, if_pos h]

theorem prune_of_not_cuts {cuts : String → Bool} {i : Info} (h : cuts i.file = false)
    (cs : List Component) : prune cuts (node i cs) = node i (cs.map (prune cuts)) := by
  rw [prune, h, pruneAll_eq_map]
  rfl

end Component

/-! ### Locating with another content -/

namespace Project

variable {p : Project} {c : Config}

def overwrite (p : Project) (file : Location) (bytes : List UInt8) : Project :=
  { p with files := p.files.place (.file bytes) file }

/-- Two searches end with the same, or both in one of certain files. -/
inductive Agree {α : Type} (cuts : String → Bool) (file : α → String) : Option α → Option α → Prop
  | same (found : Option α) : Agree cuts file found found
  | cut {a a' : α} : cuts (file a) = true → file a' = file a → Agree cuts file (some a) (some a')

theorem exists_source_of_leadsTo {file : Location} {bytes : List UInt8} {path : String}
    {source : Option String} (hfile : p.files.at? file = some (.file bytes))
    (hleads : p.files.leadsTo file path = true) (h : (p.readSource path).result = .ok source) :
    ∃ text, source = some text := by
  have hlocate := FileSystem.leadsTo_iff.mp hleads
  have hthere : p.files.isFile path = true :=
    FileSystem.isFile_iff.mpr ⟨file, _, hlocate, hfile, nofun⟩
  have hread : p.files.read (Path.tidy path) = .ok bytes := by
    rw [FileSystem.read, FileSystem.find, FileSystem.locate_tidy hthere, hlocate]
    simp [bind, Except.bind, pure, Except.pure, hfile]
  rw [readSource, if_pos hthere, FileSystem.readText, hread] at h
  cases htext : Text.ofBytes? bytes with
  | none => simp [htext] at h
  | some text =>
    simp only [htext] at h
    cases h
    exact ⟨text, rfl⟩

section Overwritten

variable {file : Location} {old : List UInt8} (hfile : p.files.at? file = some (.file old))
  (new : List UInt8)
include hfile

theorem readSource_overwrite {path : String} (hleads : p.files.leadsTo file path = false) :
    ((p.overwrite file new).readSource path).result = (p.readSource path).result := by
  have hthere : (p.overwrite file new).files.isFile path = p.files.isFile path :=
    FileSystem.isFile_place hfile new path
  unfold readSource
  rw [hthere]
  by_cases hpath : p.files.isFile path = true
  · have htext : (p.overwrite file new).files.readText path = p.files.readText path :=
      FileSystem.readText_place hfile new hpath hleads
    rw [htext]
  · rw [if_neg hpath, if_neg hpath]

theorem firstReadable_overwrite {paths : List String} {found found' : Option (String × String)}
    (h : (p.firstReadable paths).result = .ok found)
    (h' : ((p.overwrite file new).firstReadable paths).result = .ok found') :
    Agree (p.files.leadsTo file) Prod.fst found found' := by
  induction paths with
  | nil =>
    cases h
    cases h'
    exact .same none
  | cons path rest ih =>
    rw [firstReadable, Outcome.bind_result_eq_ok_iff] at h h'
    obtain ⟨source, hsource, h⟩ := h
    obtain ⟨source', hsource', h'⟩ := h'
    by_cases hleads : p.files.leadsTo file path = true
    · have hfile' : (p.overwrite file new).files.at? file = some (.file new) :=
        FileSystem.at?_place p.files _ _
      have hleads' : (p.overwrite file new).files.leadsTo file path = true :=
        (FileSystem.leadsTo_place hfile new file path).trans hleads
      obtain ⟨text, rfl⟩ := exists_source_of_leadsTo hfile hleads hsource
      obtain ⟨text', rfl⟩ := exists_source_of_leadsTo hfile' hleads' hsource'
      cases h
      cases h'
      exact .cut hleads rfl
    · rw [readSource_overwrite hfile new (Bool.eq_false_iff.mpr hleads), hsource] at hsource'
      cases hsource'
      cases source with
      | some text =>
        cases h
        cases h'
        exact .same _
      | none => exact ih h h'

theorem followIndex_overwrite {name index source : String} {found found' : Option Located}
    (h : (p.followIndex name index source).result = .ok found)
    (h' : ((p.overwrite file new).followIndex name index source).result = .ok found') :
    Agree (p.files.leadsTo file) Located.file found found' := by
  have hbinding : (p.overwrite file new).indexBinding? name index source =
      p.indexBinding? name index source := rfl
  rcases followIndex_eq_ok h with ⟨hnone, rfl⟩ | ⟨b, target, hb, htarget, rfl⟩
  · rcases followIndex_eq_ok h' with ⟨-, rfl⟩ | ⟨b, target, hb, -, -⟩
    · exact .same none
    · rw [hbinding, hnone] at hb
      cases hb
  · rcases followIndex_eq_ok h' with ⟨hnone, -⟩ | ⟨b', target', hb', htarget', rfl⟩
    · rw [hbinding, hb] at hnone
      cases hnone
    · rw [hbinding, hb] at hb'
      cases hb'
      cases firstReadable_overwrite hfile new htarget htarget' with
      | same => exact .same _
      | cut hcut hsame => exact .cut hcut hsame

theorem leadsTo_eq_false_of_isIndex (hname : ∀ name ∈ file.getLast?, name ∉ indexNames)
    {path : String} (hindex : isIndex path = true) : p.files.leadsTo file path = false := by
  rw [Bool.eq_false_iff]
  intro hleads
  have hlocate := FileSystem.leadsTo_iff.mp hleads
  have hthere : p.files.isFile path = true :=
    FileSystem.isFile_iff.mpr ⟨file, _, hlocate, hfile, nofun⟩
  have hlast := FileSystem.getLast?_of_isFile hthere hlocate
  exact hname _ hlast (List.contains_iff_mem.mp hindex)

theorem locate_overwrite (hname : ∀ name ∈ file.getLast?, name ∉ indexNames) {name : String}
    {candidates : List String} {found found' : Option Located}
    (h : (p.locate name candidates).result = .ok found)
    (h' : ((p.overwrite file new).locate name candidates).result = .ok found') :
    Agree (p.files.leadsTo file) Located.file found found' := by
  rcases locate_eq_ok h with ⟨hfirst, rfl⟩ | ⟨path, text, followed, hfirst, hfollowed, rfl⟩
  · rcases locate_eq_ok h' with ⟨-, rfl⟩ | ⟨path', text', followed', hfirst', -, -⟩
    · exact .same none
    · cases firstReadable_overwrite hfile new hfirst hfirst'
  · rcases locate_eq_ok h' with ⟨hfirst', -⟩ | ⟨path', text', followed', hfirst', hfollowed', rfl⟩
    · cases firstReadable_overwrite hfile new hfirst hfirst'
    · cases firstReadable_overwrite hfile new hfirst hfirst' with
      | same =>
        by_cases hindex : isIndex path = true
        · simp only [hindex, reduceCtorEq, false_and, true_and, false_or] at hfollowed hfollowed'
          cases followIndex_overwrite hfile new hfollowed hfollowed' with
          | same => exact .same _
          | cut hcut hsame => exact .cut hcut hsame
        · simp only [hindex, Bool.false_eq_true, true_and, false_and, or_false] at hfollowed
          simp only [hindex, Bool.false_eq_true, true_and, false_and, or_false] at hfollowed'
          rw [hfollowed, hfollowed']
          exact .same _
      | cut hcut hsame =>
        obtain rfl : path' = path := hsame
        -- the file itself is no index file, so neither search goes on from it
        have hindex : isIndex path' = false := by
          rw [Bool.eq_false_iff]
          intro hindex
          rw [leadsTo_eq_false_of_isIndex hfile hname hindex] at hcut
          cases hcut
        simp only [hindex, reduceCtorEq, true_and, false_and, or_false] at hfollowed hfollowed'
        rw [hfollowed, hfollowed']
        exact .cut hcut rfl

theorem locateSite_overwrite (hname : ∀ name ∈ file.getLast?, name ∉ indexNames) {s : Site}
    {found found' : Option Located} (h : (p.locateSite c s).result = .ok found)
    (h' : ((p.overwrite file new).locateSite c s).result = .ok found') :
    Agree (p.files.leadsTo file) Located.file found found' :=
  locate_overwrite hfile new hname (Outcome.mapError_result_eq_ok_iff.mp h)
    (Outcome.mapError_result_eq_ok_iff.mp h')

end Overwritten

/-! ### Growing with another content -/

theorem map_eq_of_map_fst {α β γ : Type} {f : α × β → γ} {xs ys : List (α × β)}
    (hfst : xs.map Prod.fst = ys.map Prod.fst)
    (h : ∀ x ∈ xs, ∀ y ∈ ys, x.1 = y.1 → f x = f y) : xs.map f = ys.map f := by
  induction xs generalizing ys with
  | nil =>
    rw [List.map_nil, eq_comm, List.map_eq_nil_iff] at hfst
    rw [hfst]
  | cons x xs ih =>
    cases ys with
    | nil => cases hfst
    | cons y ys =>
      obtain ⟨hhead, htail⟩ := List.cons.inj hfst
      obtain ⟨hx, hxs⟩ := List.forall_mem_cons.mp h
      rw [List.map_cons, List.map_cons, hx y List.mem_cons_self hhead,
        ih htail fun z hz w hw => hxs z hz w (List.mem_cons_of_mem _ hw)]

/-- Of a component of a file that is cut off remains what its site and the file say. -/
theorem Grows.prune_of_file {levels : Nat} {seen : List String} {s : Site} {g : Growth}
    {l : Located} (h : p.Grows c levels seen s g)
    (hlocated : (p.locateSite c s).result = .ok (some l)) {cuts : String → Bool}
    (hcut : cuts l.file = true) :
    g.component.prune cuts = .leaf { s.info l.file with resolved := true } := by
  cases h with
  | unresolved hnone =>
    rw [hlocated] at hnone
    cases hnone
  | recursive hlocated' _ | limit hlocated' _ _ | unparsable hlocated' _ _
  | expanded _ hlocated' _ _ _ _ =>
    rw [hlocated] at hlocated'
    cases hlocated'
    exact Component.prune_of_cuts hcut _

/-- Two components at one site agree, pruned, if they have one file and it is cut off. -/
theorem Grows.prune_of_cuts {p' : Project} {levels : Nat} {seen : List String} {s : Site}
    {g g' : Growth} {l l' : Located} (h : p.Grows c levels seen s g)
    (hlocated : (p.locateSite c s).result = .ok (some l)) (h' : p'.Grows c levels seen s g')
    (hlocated' : (p'.locateSite c s).result = .ok (some l')) {cuts : String → Bool}
    (hcut : cuts l.file = true) (hsame : l'.file = l.file) :
    g.component.prune cuts = g'.component.prune cuts := by
  have hcut' : cuts l'.file = true := hsame ▸ hcut
  rw [h.prune_of_file hlocated hcut, h'.prune_of_file hlocated' hcut', hsame]

/-- With another content of a file a site grows into the same, pruned at the components of that
file. -/
theorem Grows.prune_eq {file : Location} {old : List UInt8}
    (hfile : p.files.at? file = some (.file old))
    (hname : ∀ name ∈ file.getLast?, name ∉ indexNames) (new : List UInt8) {levels : Nat}
    {seen : List String} {s : Site} {g g' : Growth} (h : p.Grows c levels seen s g)
    (h' : (p.overwrite file new).Grows c levels seen s g') :
    g.component.prune (p.files.leadsTo file) = g'.component.prune (p.files.leadsTo file) := by
  -- on the first growth: the second starts at the same site, so only the searches can differ
  induction h generalizing g' with
  | unresolved hlocated =>
    obtain ⟨found', hfound'⟩ := h'.exists_located
    cases locateSite_overwrite hfile new hname hlocated hfound' with
    | same => rw [h'.unique (.unresolved hfound')]
  | recursive hlocated hseen =>
    obtain ⟨found', hfound'⟩ := h'.exists_located
    cases locateSite_overwrite hfile new hname hlocated hfound' with
    | same => rw [h'.unique (.recursive hfound' hseen)]
    | cut hcut hsame =>
      exact (Grows.recursive hlocated hseen).prune_of_cuts hlocated h' hfound' hcut hsame
  | limit hlocated hnew hlimit =>
    obtain ⟨found', hfound'⟩ := h'.exists_located
    cases locateSite_overwrite hfile new hname hlocated hfound' with
    | same => rw [h'.unique (.limit hfound' hnew hlimit)]
    | cut hcut hsame =>
      exact (Grows.limit hlocated hnew hlimit).prune_of_cuts hlocated h' hfound' hcut hsame
  | unparsable hlocated hnew hfault =>
    obtain ⟨found', hfound'⟩ := h'.exists_located
    cases locateSite_overwrite hfile new hname hlocated hfound' with
    | same => rw [h'.unique (.unparsable hfound' hnew hfault)]
    | cut hcut hsame =>
      exact (Grows.unparsable hlocated hnew hfault).prune_of_cuts hlocated h' hfound' hcut hsame
  | @expanded levels seen s l m uses hlocated hnew hparsed hfst huses ih =>
    have hgrows := Grows.expanded uses hlocated hnew hparsed hfst huses
    obtain ⟨found', hfound'⟩ := h'.exists_located
    cases locateSite_overwrite hfile new hname hlocated hfound' with
    | cut hcut hsame => exact hgrows.prune_of_cuts hlocated h' hfound' hcut hsame
    | same =>
      by_cases hcut : p.files.leadsTo file l.file = true
      · exact hgrows.prune_of_cuts hlocated h' hfound' hcut rfl
      · obtain ⟨uses', hfst', huses', rfl⟩ := h'.of_parsed hfound' hnew hparsed
        have hchildren : uses.map (fun u => u.2.component.prune (p.files.leadsTo file)) =
            uses'.map (fun u => u.2.component.prune (p.files.leadsTo file)) := by
          refine map_eq_of_map_fst (hfst.trans hfst'.symm) ?_
          intro u hu u' hu' hbinding
          have hgrows' := huses' u' hu'
          rw [← hbinding] at hgrows'
          exact ih u hu hgrows'
        have hkept := Bool.eq_false_iff.mpr hcut
        rw [Growth.component_ofChildren, Growth.component_ofChildren,
          Component.prune_of_not_cuts hkept, Component.prune_of_not_cuts hkept, List.map_map,
          List.map_map, List.map_map, List.map_map]
        exact congrArg _ hchildren

/-- Two builds between which one file, which is no index file, has got another content agree once the
outermost components of that file are leaves of which only the place and the file are known: neither
what the file says nor whether it can be parsed matters anywhere else. -/
theorem prune_build_overwrite {file : Location} {old : List UInt8}
    (hfile : p.files.at? file = some (.file old))
    (hname : ∀ name ∈ file.getLast?, name ∉ indexNames) (new : List UInt8) {path : String}
    {g g' : Growth} (h : (p.build c path).result = .ok g)
    (h' : ((p.overwrite file new).build c path).result = .ok g') :
    g.component.prune (p.files.leadsTo file) =
      g'.component.prune ((p.overwrite file new).files.leadsTo file) := by
  have hsame : (p.overwrite file new).files.leadsTo file = p.files.leadsTo file :=
    funext (FileSystem.leadsTo_place hfile new file)
  rw [hsame]
  exact (grows_of_build h).prune_eq hfile hname new (grows_of_build h')

/-- A root module that wraps the component of another file, in which the same text stands as long as
it is not overwritten. -/
def brittle : Project where
  parser := fun text =>
    if text = "(" then
      .node { kind := "program", faulty := true, text }
        [.node { kind := "ERROR", faulty := true, text } [token text text 0 false []]]
    else wrapperTree "./B"
  files := {
    root := .directory [("p", .directory
      [("A.js", .file (Text.toBytes (wrapperText "./B"))),
        ("B.js", .file (Text.toBytes (wrapperText "./B")))])]
    current := ["p"] }

/-- The tree of that project, with what grows at the place of the wrapped component. -/
def brittleGrowth (wrapped : Component) (parsed : Nat) (faults : List SyntaxFault) : Growth where
  component := .node { name := "A", file := "/p/A.js", resolved := true, unwrapped := true } [wrapped]
  parsed := parsed
  faults := faults

/-- What is known of the wrapped component whatever its file says. -/
def brittleInfo : Component.Info where
  name := "A"
  file := "/p/B.js"
  depth := 1
  source := "./B"
  shownSource := "B"
  resolved := true

def soundGrowth : Growth :=
  brittleGrowth (.node { brittleInfo with unwrapped := true }
    [.leaf { brittleInfo with depth := 2, recursive := true }]) 2 []

def brokenGrowth : Growth :=
  let fault : SyntaxFault := ⟨"/p/B.js", ⟨0, 0⟩⟩
  brittleGrowth (.leaf { brittleInfo with error := some fault.message }) 1 [fault]

theorem prune_build_overwrite_brittle :
    (brittle.build { base := "/p" } "A.js").result = .ok soundGrowth ∧
      ((brittle.overwrite ["p", "B.js"] (Text.toBytes "(")).build { base := "/p" } "A.js").result =
        .ok brokenGrowth ∧
      soundGrowth.component.prune (brittle.files.leadsTo ["p", "B.js"]) =
        brokenGrowth.component.prune
          ((brittle.overwrite ["p", "B.js"] (Text.toBytes "(")).files.leadsTo ["p", "B.js"]) ∧
      soundGrowth.component ≠ brokenGrowth.component := by
  have hsound : (brittle.build { base := "/p" } "A.js").result = .ok soundGrowth := by
    decide +kernel
  have hbroken : ((brittle.overwrite ["p", "B.js"] (Text.toBytes "(")).build { base := "/p" }
      "A.js").result = .ok brokenGrowth := by decide +kernel
  have hfile : brittle.files.at? ["p", "B.js"] = some (.file (Text.toBytes (wrapperText "./B"))) := by
    rfl
  have hname : ∀ name ∈ (["p", "B.js"] : Location).getLast?, name ∉ indexNames := by decide
  exact ⟨hsound, hbroken, prune_build_overwrite hfile hname _ hsound hbroken, by decide +kernel⟩

end Project

end JsxOutline
