import JsxOutline.Build
import JsxOutline.Proofs.Locating
import JsxOutline.Proofs.Spelling

/-!
# Spellings of candidates

The names that are tried for a component are put together from the base directory, the module
directory, paths of aliases and specifiers.  Main statement: where all of these are written with
names alone, so is each file that is located.
-/

namespace JsxOutline

open JsxOutline.Path

/-! ### Specifiers -/

/-- A specifier that is relative, or of which each part is a name. -/
def Specifier.IsSpelled (specifier : String) : Prop :=
  isRelative specifier = true ∨ IsPlain specifier

theorem Specifier.isAbsolute_of_isRelative {specifier : String} (h : isRelative specifier = true) :
    isAbsolute specifier = false := by
  unfold isRelative at h
  unfold isAbsolute
  cases hlist : specifier.toList with
  | nil => rfl
  | cons c cs =>
    have hc : c = '.' := by simpa [hlist] using h
    subst hc
    rfl

/-- The path that an alias gives is of names alone if the alias and the specifier are. -/
theorem AliasTable.resolve_plain {t : AliasTable}
    (ht : ∀ key path, t.path? key = some path → IsPlain path) {specifier : String}
    (h : IsPlain specifier) : IsPlain (t.resolve specifier) := by
  unfold resolve
  dsimp only
  split
  · exact h
  · next path hpath =>
    split
    · exact ht _ _ hpath
    · next htail =>
      have hnames := h.names_tail
      cases hrest : specifier.toList.dropWhile (· != '/') with
      | nil => simp [hrest] at htail
      | cons c tail =>
        rw [eq_append_slash_of_dropWhile hrest, split_append_slash,
          List.tail_append_of_ne_nil (split_ne_nil _)] at hnames
        rw [List.tail_cons, String.append_assoc]
        refine (ht _ _ hpath).append ?_
        rw [split_slash, List.tail_cons]
        exact fun name hname => hnames name (List.mem_append_right _ hname)

/-! ### Candidates -/

/-- The paths whose expansions are tried: by an alias, by the guess, or by the rest of the guess in
the module directory. -/
inductive Config.Leads (c : Config) (guess : String) (source parent : Option String) : String → Prop
  | aliased {specifier : String} : source = some specifier → c.aliases ≠ [] →
      Specifier.isRelative specifier = false → Leads c guess source parent (c.aliasedPath specifier)
  | guessed : Leads c guess source parent guess
  | moved {dir file rest : String} : c.moduleDirectory = some dir → parent = some file →
      guess = directory file ++ rest → Leads c guess source parent (dir ++ rest)

theorem Config.exists_lead_of_mem_candidates {c : Config} {guess file : String}
    {source parent : Option String} (h : file ∈ c.candidates guess source parent) :
    ∃ path ending, c.Leads guess source parent path ∧ ending ∈ moduleEndings ∧
      file = path ++ ending := by
  unfold candidates at h
  rcases List.mem_append.mp h with h | h
  · rcases List.mem_append.mp h with h | h
    · cases source with
      | none => cases h
      | some specifier =>
        dsimp only at h
        split at h
        · cases h
        · next hoff =>
          simp only [Bool.or_eq_true, not_or, Bool.not_eq_true, List.isEmpty_eq_false_iff] at hoff
          obtain ⟨ending, hending, rfl⟩ := List.mem_map.mp h
          exact ⟨_, ending, .aliased rfl hoff.1 hoff.2, hending, rfl⟩
    · obtain ⟨ending, hending, rfl⟩ := List.mem_map.mp h
      exact ⟨guess, ending, .guessed, hending, rfl⟩
  · obtain ⟨moved, hmoved, h⟩ := List.mem_flatMap.mp h
    obtain ⟨ending, hending, rfl⟩ := List.mem_map.mp h
    have hmoved := Option.mem_toList.mp hmoved
    simp only [movedPath?, Option.bind_eq_bind, Option.bind_eq_some_iff] at hmoved
    obtain ⟨dir, hdir, parent', hparent, hmoved⟩ := hmoved
    split at hmoved
    · next hprefix =>
      obtain ⟨rest, hrest⟩ := List.isPrefixOf_iff_prefix.mp hprefix
      have hguess : guess = directory parent' ++ .ofList rest := by
        rw [← String.toList_inj, String.toList_append, String.toList_ofList, hrest]
      rw [← hrest, List.drop_left, Option.some.injEq] at hmoved
      exact ⟨moved, ending, hmoved ▸ .moved hdir hparent hguess, hending, rfl⟩
    · cases hmoved

theorem isRooted_of_ending {path ending : String} (h : IsRooted path)
    (hending : ending ∈ moduleEndings) : IsRooted (path ++ ending) := by
  have hendings : ∀ ending ∈ moduleEndings, ∀ name ∈ (split ending).tail, IsName name := by decide
  exact h.append (hendings ending hending)

theorem isCanonical_reexportTarget {index specifier : String} (hindex : IsRooted index)
    (h : Specifier.IsSpelled specifier) : IsCanonical (reexportTarget index specifier) := by
  have hdir := hindex.canonical_directory
  unfold reexportTarget
  dsimp only
  split
  · next hrelative =>
    exact isCanonical_normalize (hdir.root_join (Specifier.isAbsolute_of_isRelative hrelative))
  · next hrelative => exact hdir.joinAll (h.resolve_left hrelative).names_tail

/-- Everything that file names are put together from is written with names alone, and no module
stands for the root directory. -/
structure Project.WellSpelled (p : Project) (c : Config) : Prop where
  base : IsCanonical c.base
  moduleDirectory : ∀ dir ∈ c.moduleDirectory, IsRooted dir
  aliases : ∀ key path, c.aliases.path? key = some path → IsPlain path
  root : ∀ file ∈ expansions "/", p.files.isFile file = false
  used : ∀ file text m, p.Holds file text → (Module.parse p.parser text file).result = .ok m →
    ∀ b ∈ m.childBindings.1, Specifier.IsSpelled b.source
  reexported : ∀ name index text b, p.Holds index text → isIndex index = true →
    (p.indexBinding? name index text).result = .ok (some b) → Specifier.IsSpelled b.source

/-- What is known of a component before it is located is written with names alone. -/
structure Site.WellSpelled (s : Site) : Prop where
  guess : IsCanonical s.guess
  source : ∀ source ∈ s.source, Specifier.IsSpelled source
  parent : ∀ parent ∈ s.parent, IsRooted parent

namespace Project.WellSpelled

variable {p : Project} {c : Config} (hp : p.WellSpelled c)
include hp

theorem aliasedPath {specifier : String} (h : IsPlain specifier) :
    IsRooted (c.aliasedPath specifier) :=
  hp.base.join_plain (AliasTable.resolve_plain hp.aliases h)

theorem guess {specifier parent : String} (h : Specifier.IsSpelled specifier)
    (hparent : IsRooted parent) : IsCanonical (c.guess specifier parent).1 := by
  have hdir := hparent.canonical_directory
  simp only [Config.guess, apply_ite Prod.fst]
  split
  · next hrelative =>
    exact isCanonical_normalize (hdir.root_join (Specifier.isAbsolute_of_isRelative hrelative))
  · next hrelative =>
    have hplain := h.resolve_left hrelative
    split
    · exact (hdir.join_plain hplain).canonical
    · exact isCanonical_normalize (hp.aliasedPath hplain).root

/-- Each candidate that is a file is written with names alone. -/
theorem candidates {s : Site} (hs : s.WellSpelled) {file : String}
    (h : file ∈ c.candidates s.guess s.source s.parent) (hfile : p.files.isFile file = true) :
    IsRooted file := by
  obtain ⟨path, ending, hlead, hending, rfl⟩ := Config.exists_lead_of_mem_candidates h
  cases hlead with
  | aliased hsource _ hrelative =>
    have hplain := (hs.source _ hsource).resolve_left (Bool.eq_false_iff.mp hrelative)
    exact isRooted_of_ending (hp.aliasedPath hplain) hending
  | guessed =>
    rcases hs.guess with hroot | hrooted
    · rw [hroot, hp.root _ (List.mem_map_of_mem hending)] at hfile
      cases hfile
    · exact isRooted_of_ending hrooted hending
  | @moved dir parent rest hdir hparent hguess =>
    have hguessed := hs.guess
    rw [hguess] at hguessed
    have hnames := (hs.parent parent hparent).canonical_directory.names_after hguessed
    exact isRooted_of_ending ((hp.moduleDirectory dir hdir).append hnames) hending

/-- What is located where all is written with names alone is so too. -/
theorem located {s : Site} (hs : s.WellSpelled) {l : Located}
    (h : (p.locateSite c s).result = .ok (some l)) : IsRooted l.file := by
  obtain ⟨file, text, hfound, hl⟩ := locate_eq_some (Outcome.mapError_result_eq_ok_iff.mp h)
  obtain ⟨hmem, hholds⟩ := firstReadable_holds hfound
  have hfile := hp.candidates hs hmem hholds.1
  rcases hl with rfl | ⟨hindex, hfollowed⟩
  · exact hfile
  · obtain ⟨-, -, b, ending, hb, hending, htarget⟩ := followIndex_eq_some hfollowed
    have hendings : ∀ ending ∈ targetEndings, IsClean ending := by decide
    rw [htarget]
    exact (isCanonical_reexportTarget hfile (hp.reexported _ _ _ _ hholds hindex hb)).append_clean
      (hendings ending hending)

theorem ofBinding {depth : Int} {file : String} {b : Binding} (hfile : IsRooted file)
    (hb : Specifier.IsSpelled b.source) : (Site.ofBinding c depth file b).WellSpelled := by
  refine ⟨hp.guess hb hfile, ?_, ?_⟩
  · rintro _ ⟨⟩
    exact hb
  · rintro _ ⟨⟩
    exact hfile

theorem ofRoot {path : String} (hpath : Path.root path ≠ "//") :
    (Site.ofRoot (p.rootFile c path)).WellSpelled := by
  have hroot : Path.root (join c.base path) = "/" := by
    by_cases habsolute : isAbsolute path = true
    · rw [join_of_isAbsolute habsolute]
      exact (root_of_isAbsolute habsolute).resolve_right hpath
    · exact hp.base.root_join (Bool.eq_false_iff.mpr habsolute)
  refine ⟨?_, ?_, ?_⟩
  · rw [Site.ofRoot, Project.rootFile, absolute, join_of_isAbsolute (isAbsolute_of_root hroot)]
    exact isCanonical_normalize hroot
  · rintro _ ⟨⟩
  · rintro _ ⟨⟩

end Project.WellSpelled

end JsxOutline
