import JsxOutline.Proofs.Candidates
import JsxOutline.Proofs.Directories
import JsxOutline.Proofs.Finiteness
import JsxOutline.Proofs.ScanDepth
import Mathlib.Data.Finite.Prod
import Mathlib.Data.Finset.Card

/-!
# Trees that end

With aliases the paths that are guessed for components are normal, so all files of a tree are among
finitely many spellings.  Main statement: there is a bound on the depth of all components whatever
the scan depth is, and without a scan depth there is one tree that is grown through any larger number
of levels.
-/

namespace JsxOutline

open JsxOutline.Path

/-! ### Paths from the root -/

theorem isAbsolute_reexportTarget {index : String} (h : isAbsolute index = true)
    (specifier : String) : isAbsolute (reexportTarget index specifier) = true := by
  have hdir := isAbsolute_directory h
  unfold reexportTarget
  dsimp only
  split
  · exact isAbsolute_normalize (isAbsolute_join hdir specifier)
  · exact isAbsolute_joinAll hdir _

/-! ### Sites -/

/-- The directories of a configuration are paths from the root, and there are aliases. -/
structure Config.Grounded (c : Config) : Prop where
  base : isAbsolute c.base = true
  moduleDirectory : ∀ dir ∈ c.moduleDirectory, isAbsolute dir = true
  aliases : c.aliases ≠ []

/-- The path that is guessed at a site is normal, and its specifier stands in a file. -/
structure Site.Grounded (p : Project) (s : Site) : Prop where
  guess : ∃ path, isAbsolute path = true ∧ s.guess = normalize path
  source : ∀ source ∈ s.source, p.Mentions source

/-- A file that is there is a candidate at some site. -/
def Project.Candidate (p : Project) (c : Config) (file : String) : Prop :=
  p.files.isFile file = true ∧
    ∃ s : Site, s.Grounded p ∧ file ∈ c.candidates s.guess s.source s.parent

/-- A file is located at some site. -/
def Project.Backs (p : Project) (c : Config) (file : String) : Prop :=
  ∃ (s : Site) (l : Located), s.Grounded p ∧ (p.locateSite c s).result = .ok (some l) ∧ l.file = file

namespace Config.Grounded

variable {p : Project} {c : Config} (hc : c.Grounded)
include hc

theorem aliasedPath (specifier : String) : isAbsolute (c.aliasedPath specifier) = true :=
  isAbsolute_join hc.base _

theorem ofRoot (p : Project) (path : String) : (Site.ofRoot (p.rootFile c path)).Grounded p := by
  refine ⟨⟨join c.base path, isAbsolute_join hc.base path, ?_⟩, nofun⟩
  rw [Site.ofRoot, Project.rootFile, absolute, join_of_isAbsolute (isAbsolute_join hc.base path)]

theorem ofBinding {depth : Int} {file : String} {b : Binding} (hfile : isAbsolute file = true)
    (hb : p.Mentions b.source) : (Site.ofBinding c depth file b).Grounded p := by
  refine ⟨?_, ?_⟩
  · have haliases : c.aliases.isEmpty = false := by simpa using hc.aliases
    simp only [Site.ofBinding, Config.guess, haliases, Bool.false_eq_true, if_false]
    split
    · exact ⟨_, isAbsolute_join (isAbsolute_directory hfile) _, rfl⟩
    · exact ⟨_, hc.aliasedPath _, rfl⟩
  · rintro _ ⟨⟩
    exact hb

theorem isAbsolute_of_mem_candidates {s : Site} (hs : s.Grounded p) {file : String}
    (h : file ∈ c.candidates s.guess s.source s.parent) : isAbsolute file = true := by
  obtain ⟨path, ending, hlead, -, rfl⟩ := Config.exists_lead_of_mem_candidates h
  refine isAbsolute_append ?_ ending
  cases hlead with
  | aliased => exact hc.aliasedPath _
  | guessed =>
    obtain ⟨path, hpath, hguess⟩ := hs.guess
    rw [hguess]
    exact isAbsolute_normalize hpath
  | moved hdir => exact isAbsolute_append (hc.moduleDirectory _ hdir) _

theorem isAbsolute_of_located {s : Site} (hs : s.Grounded p) {l : Located}
    (h : (p.locateSite c s).result = .ok (some l)) : isAbsolute l.file = true := by
  obtain ⟨file, text, hfound, hl⟩ :=
    Project.locate_eq_some (Outcome.mapError_result_eq_ok_iff.mp h)
  have hfile := hc.isAbsolute_of_mem_candidates hs (Project.firstReadable_holds hfound).1
  rcases hl with rfl | ⟨-, hfollowed⟩
  · exact hfile
  · obtain ⟨-, -, b, ending, -, -, htarget⟩ := Project.followIndex_eq_some hfollowed
    rw [htarget]
    exact isAbsolute_append (isAbsolute_reexportTarget hfile b.source) ending

end Config.Grounded

/-! ### Finitely many files -/

namespace Project

/-- Aliased paths are as many as specifiers; all others have a bounded number of parts that are no
names. -/
theorem finite_candidates (p : Project) (c : Config) : {file | p.Candidate c file}.Finite := by
  have haliased : {file : String | ∃ specifier, p.Mentions specifier ∧ ∃ ending ∈ moduleEndings,
      file = c.aliasedPath specifier ++ ending}.Finite := by
    have hpaths := Set.Finite.image2 (fun specifier ending => c.aliasedPath specifier ++ ending)
      p.finite_mentions (List.finite_toSet moduleEndings)
    refine hpaths.subset ?_
    rintro _ ⟨specifier, hspecifier, ending, hending, rfl⟩
    exact ⟨specifier, hspecifier, ending, hending, rfl⟩
  have hplain := p.files.finite_files (idle (c.moduleDirectory.getD "") + 5)
  have hendings : ∀ ending ∈ moduleEndings, idle ending ≤ 1 := by decide
  refine (haliased.union hplain).subset ?_
  rintro file ⟨hfile, s, hs, hmem⟩
  obtain ⟨path, ending, hlead, hending, rfl⟩ := Config.exists_lead_of_mem_candidates hmem
  obtain ⟨guessed, hguessed, hguess⟩ := hs.guess
  have hnormal := idle_normalize_le hguessed
  rw [← hguess] at hnormal
  have hend := hendings ending hending
  have hadd := idle_append_le path ending
  cases hlead with
  | aliased hsource =>
    exact .inl ⟨_, hs.source _ hsource, ending, hending, rfl⟩
  | guessed =>
    refine .inr ⟨hfile, ?_⟩
    omega
  | @moved dir parent rest hdir _ hrest =>
    refine .inr ⟨hfile, ?_⟩
    have hmoved := idle_append_le dir rest
    have hsuffix := idle_le_of_append (directory parent) rest
    rw [← hrest] at hsuffix
    rw [hdir, Option.getD_some]
    omega

/-- The files that sites can have are finitely many: they are candidates, or what a specifier in an
index file among those leads to. -/
theorem finite_backing (p : Project) (c : Config) : {file | p.Backs c file}.Finite := by
  have hcandidates := p.finite_candidates c
  have htargets := Set.Finite.image2 reexportTarget hcandidates p.finite_mentions
  have hreached := Set.Finite.image2 (fun target ending : String => target ++ ending) htargets
    (List.finite_toSet targetEndings)
  refine (hcandidates.union hreached).subset ?_
  rintro _ ⟨s, l, hs, hlocated, rfl⟩
  obtain ⟨file, text, hfound, hl⟩ :=
    locate_eq_some (Outcome.mapError_result_eq_ok_iff.mp hlocated)
  obtain ⟨hmem, hholds⟩ := firstReadable_holds hfound
  have hcandidate : p.Candidate c file := ⟨hholds.1, s, hs, hmem⟩
  rcases hl with rfl | ⟨-, hfollowed⟩
  · exact .inl hcandidate
  · obtain ⟨-, -, b, ending, hb, hending, htarget⟩ := followIndex_eq_some hfollowed
    refine .inr ⟨_, ⟨file, hcandidate, b.source, ?_, rfl⟩, ending, hending, htarget.symm⟩
    exact mentions_of_indexBinding? hholds hb

end Project

/-! ### New files -/

/-- How many of some files are not yet seen. -/
def fresh (files : Finset String) (seen : List String) : Nat := (files \ seen.toFinset).card

theorem fresh_cons {files : Finset String} {file : String} {seen : List String}
    (hfile : file ∈ files) (hnew : file ∉ seen) :
    fresh files (file :: seen) + 1 = fresh files seen := by
  rw [fresh, List.toFinset_cons, Finset.sdiff_insert]
  refine Finset.card_erase_add_one ?_
  rw [Finset.mem_sdiff, List.mem_toFinset]
  exact ⟨hfile, hnew⟩

namespace Project

variable {p : Project} {c : Config}

theorem grounded_child (hc : c.Grounded) {s : Site} {l : Located} {m : Module} {b : Binding}
    (hs : s.Grounded p) (hlocated : (p.locateSite c s).result = .ok (some l))
    (hparsed : (Module.parse p.parser l.source l.file).result = .ok m)
    (hb : b ∈ m.childBindings.1) :
    (Site.ofBinding c (s.depth + 1) l.file b).Grounded p := by
  have hmentions := mentions_of_childBindings (locateSite_holds hlocated) hparsed hb
  exact hc.ofBinding (hc.isAbsolute_of_located hs hlocated) hmentions

/-- A tree is not deeper than there are files that are not above it. -/
theorem Grows.depth_le_fresh (hc : c.Grounded) {files : Finset String}
    (hfiles : ∀ file, p.Backs c file → file ∈ files) {levels : Nat} {seen : List String} {s : Site}
    {g : Growth} (h : p.Grows c levels seen s g) (hs : s.Grounded p) {n : Component}
    (hn : n ∈ g.component.preorder) :
    n.info.depth ≤ s.depth + fresh files seen := by
  induction h generalizing n with
  | unresolved | recursive | limit | unparsable =>
    have hleaf := List.mem_singleton.mp hn
    rw [hleaf]
    exact Int.le_add_of_nonneg_right (Int.natCast_nonneg _)
  | @expanded levels seen s l m uses hlocated hnew hparsed hfst huses ih =>
    rw [Component.preorder_eq] at hn
    rcases List.mem_cons.mp hn with rfl | hn
    · exact Int.le_add_of_nonneg_right (Int.natCast_nonneg _)
    · obtain ⟨d, hd, hn⟩ := List.mem_flatMap.mp hn
      obtain ⟨g, hg, rfl⟩ := List.mem_map.mp hd
      obtain ⟨u, hu, rfl⟩ := List.mem_map.mp hg
      have hb : u.1 ∈ m.childBindings.1 := hfst ▸ List.mem_map_of_mem hu
      have hbelow := ih u hu (grounded_child hc hs hlocated hparsed hb) hn
      have hfresh := fresh_cons (hfiles l.file ⟨s, l, hs, hlocated, rfl⟩) hnew
      change n.info.depth ≤ s.depth + 1 + _ at hbelow
      omega

/-- For each member of a list something can be chosen. -/
theorem exists_map_fst {α β : Type} {r : α → β → Prop} {as : List α} (h : ∀ a ∈ as, ∃ b, r a b) :
    ∃ qs : List (α × β), qs.map Prod.fst = as ∧ ∀ q ∈ qs, r q.1 q.2 := by
  induction as with
  | nil => exact ⟨[], rfl, by simp⟩
  | cons a as ih =>
    obtain ⟨⟨b, hb⟩, has⟩ := List.forall_mem_cons.mp h
    obtain ⟨qs, rfl, hqs⟩ := ih has
    exact ⟨(a, b) :: qs, rfl, List.forall_mem_cons.mpr ⟨hb, hqs⟩⟩

/-- Where all files are texts a site grows through as many levels as there are files that are not
above it. -/
theorem exists_grows (hc : c.Grounded) (hdecodes : p.files.Decodes) {files : Finset String}
    (hfiles : ∀ file, p.Backs c file → file ∈ files) {levels : Nat} {seen : List String} {s : Site}
    (hs : s.Grounded p) (hlevels : fresh files seen ≤ levels) :
    ∃ g, p.Grows c levels seen s g := by
  induction levels using Nat.strongRecOn generalizing seen s with
  | ind levels ih =>
    obtain ⟨found, hfound⟩ := exists_located_of_decodes (c := c) hdecodes s
    cases found with
    | none => exact ⟨_, .unresolved hfound⟩
    | some l =>
      by_cases hseen : l.file ∈ seen
      · exact ⟨_, .recursive hfound hseen⟩
      · -- the file is new, so a level is left for it
        have hfresh := fresh_cons (hfiles l.file ⟨s, l, hs, hfound, rfl⟩) hseen
        obtain ⟨below, rfl⟩ := Nat.exists_eq_add_one.mpr (by omega : 0 < levels)
        cases hparsed : (Module.parse p.parser l.source l.file).result with
        | error fault => exact ⟨_, .unparsable hfound hseen hparsed⟩
        | ok m =>
          have hchildren : ∀ b ∈ m.childBindings.1,
              ∃ g, p.Grows c below (l.file :: seen) (.ofBinding c (s.depth + 1) l.file b) g := by
            intro b hb
            have hroom : fresh files (l.file :: seen) ≤ below := by omega
            exact ih below (Nat.lt_succ_self _) (grounded_child hc hs hfound hparsed hb) hroom
          obtain ⟨uses, hfst, huses⟩ := exists_map_fst hchildren
          exact ⟨_, .expanded uses hfound hseen hparsed hfst huses⟩

/-- What grows without a scan depth grows through more levels too, and through as many with one. -/
theorem Grows.of_unlimited (hnone : c.scanDepth = none) (limit : Option Int) (more : Nat)
    {levels : Nat} {seen : List String} {s : Site} {g : Growth} (h : p.Grows c levels seen s g) :
    p.Grows (c.withScanDepth limit) (levels + more) seen s g := by
  induction h with
  | unresolved hlocated => exact .unresolved hlocated
  | recursive hlocated hseen => exact .recursive hlocated hseen
  | limit _ _ hlimit =>
    rw [hnone] at hlimit
    cases hlimit
  | @unparsable levels _ _ _ _ hlocated hnew hfault =>
    rw [Nat.add_right_comm]
    exact .unparsable hlocated hnew hfault
  | @expanded levels _ _ _ _ uses hlocated hnew hparsed hfst _ ih =>
    rw [Nat.add_right_comm]
    exact .expanded uses hlocated hnew hparsed hfst ih

/-- Where there are aliases, where all directories are paths from the root and all files are texts,
there is a bound on the depth of all components whatever the scan depth is.  Without a scan depth the
tree ends: it is the same through all larger numbers of levels, and for all larger scan depths. -/
theorem build_ends (hc : c.Grounded) (hdecodes : p.files.Decodes) (path : String) :
    ∃ (bound : Nat) (g : Growth),
      (∀ limit : Int, ∃ g', (p.build (c.withScanDepth (some limit)) path).result = .ok g' ∧
        ∀ n ∈ g'.component.preorder, n.info.depth ≤ bound) ∧
      (∀ limit : Int, bound ≤ limit →
        (p.build (c.withScanDepth (some limit)) path).result = .ok g) ∧
      ∀ levels, bound ≤ levels →
        (p.grow (c.withScanDepth none) levels [] (.ofRoot (p.rootFile c path))).result = .ok g := by
  have hfinite := p.finite_backing c
  have hfiles : ∀ file, p.Backs c file → file ∈ hfinite.toFinset :=
    fun file hfile => hfinite.mem_toFinset.mpr hfile
  have hlimited : ∀ limit, (c.withScanDepth limit).Grounded :=
    fun _ => ⟨hc.base, hc.moduleDirectory, hc.aliases⟩
  have hroot := hc.ofRoot p path
  have hroom : fresh hfinite.toFinset [] ≤ fresh hfinite.toFinset [] := Nat.le_refl _
  obtain ⟨g, hg⟩ := exists_grows (hlimited none) hdecodes hfiles hroot hroom
  refine ⟨fresh hfinite.toFinset [], g, ?_, ?_, ?_⟩
  · intro limit
    obtain ⟨g', hg'⟩ := exists_grow_of_decodes (c := c.withScanDepth (some limit)) hdecodes rfl
      limit.toNat (.ofRoot (p.rootFile c path))
    refine ⟨g', hg', ?_⟩
    intro n hn
    have hdepth := (grows_of_grow hg').depth_le_fresh (hlimited (some limit)) hfiles hroot hn
    exact hdepth.trans_eq (Int.zero_add _)
  · intro limit hlimit
    have hlevels : fresh hfinite.toFinset [] ≤ limit.toNat := by omega
    obtain ⟨more, hmore⟩ := Nat.exists_eq_add_of_le hlevels
    have hgrows := hg.of_unlimited rfl (some limit) more
    rw [← hmore] at hgrows
    exact grow_of_grows hgrows
  · intro levels hlevels
    obtain ⟨more, rfl⟩ := Nat.exists_eq_add_of_le hlevels
    exact grow_of_grows (hg.of_unlimited rfl none more)

theorem decodes_wrapper : (wrapper "@/A").files.Decodes := by
  refine FileSystem.decodes_of_files (List.forall_mem_singleton.mpr ⟨_, rfl, ?_⟩)
  decide +kernel

/-- A file that comes back under another name below itself does not come back without end. -/
theorem build_ends_aliased :
    aliased.Grounded ∧ (wrapper "@/A").files.Decodes ∧ ∃ bound : Nat,
      (∀ limit : Int, ∃ g,
        ((wrapper "@/A").build (aliased.withScanDepth (some limit)) "A.js").result = .ok g ∧
          ∀ n ∈ g.component.preorder, n.info.depth ≤ bound) ∧
      ∀ limit : Int, bound ≤ limit →
        ((wrapper "@/A").build (aliased.withScanDepth (some limit)) "A.js").result =
          .ok aliasedGrowth := by
  have hgrounded : aliased.Grounded := ⟨rfl, nofun, List.cons_ne_nil _ _⟩
  obtain ⟨bound, g, hdepth, hsame, hends⟩ := build_ends hgrounded decodes_wrapper "A.js"
  refine ⟨hgrounded, decodes_wrapper, bound, hdepth, ?_⟩
  -- the tree without a scan depth is the one that was built through the largest number of levels
  have hgrowth := (grows_of_build build_aliased).of_unlimited rfl none bound
  have hgrown := grows_of_grow (hends _ (Nat.le_add_left bound maxLevels))
  rw [hgrowth.unique hgrown]
  exact hsame

end Project

end JsxOutline
