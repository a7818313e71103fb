import JsxOutline.Proofs.Rerooting
import Mathlib.Data.List.Perm.Subperm

/-!
# Bare specifiers and the module directory

A bare specifier is neither relative nor absolute, and its first part is no alias.  Main statement:
the files that it names in the module directory are all tried exactly if its guess lies below the
directory of the parent as they lie below the module directory, or if they are tried for another
reason.  Without aliases this is where the guess lies; with aliases it lies below the base directory.
-/

namespace JsxOutline

/-! ### Files of several paths -/

theorem mem_expansions {file path : String} :
    file ∈ expansions path ↔ file = path ∨ file = path ++ ".js" ∨ file = path ++ ".jsx" ∨
      file = path ++ "/index.js" ∨ file = path ++ "/index.jsx" := by
  simp [expansions, moduleEndings]

theorem append_ne_append {ending ending' : String} (h : ¬ ending.toList <:+ ending'.toList)
    (h' : ¬ ending'.toList <:+ ending.toList) (path path' : String) :
    path ++ ending ≠ path' ++ ending' := by
  intro hsame
  have hend : ending.toList <:+ (path ++ ending).toList := by simp
  have hend' : ending'.toList <:+ (path ++ ending).toList := by simp [hsame]
  exact (List.suffix_or_suffix_of_suffix hend hend').elim h h'

theorem eq_append_of_append_eq {path other middle ending : String}
    (h : path ++ ending = other ++ (middle ++ ending)) : path = other ++ middle := by
  rwa [← String.append_assoc, String.append_left_inj] at h

section Files

variable {path other : String} (hne : other ≠ path)
include hne

theorem shorter_of_mem_expansions (h : path ∈ expansions other) :
    other.length < path.length ∧ ∀ front, path ≠ front ++ "/index" := by
  rcases mem_expansions.mp h with rfl | rfl | rfl | rfl | rfl
  · exact absurd rfl hne
  all_goals
    refine ⟨?_, append_ne_append (by decide) (by decide) _⟩
    rw [String.length_append]
    exact Nat.lt_add_of_pos_right (by decide)

theorem eq_of_append_mem_expansions {ending : String} (hending : ending = ".js" ∨ ending = ".jsx")
    (h : path ++ ending ∈ expansions other) :
    other = path ++ ending ∨ path = other ++ "/index" := by
  rcases hending with rfl | rfl
  · rcases mem_expansions.mp h with h | h | h | h | h
    · exact .inl h.symm
    · exact absurd ((String.append_left_inj _).mp h).symm hne
    · exact absurd h (append_ne_append (by decide) (by decide) _ _)
    · exact .inr (eq_append_of_append_eq h)
    · exact absurd h (append_ne_append (by decide) (by decide) _ _)
  · rcases mem_expansions.mp h with h | h | h | h | h
    · exact .inl h.symm
    · exact absurd h (append_ne_append (by decide) (by decide) _ _)
    · exact absurd ((String.append_left_inj _).mp h).symm hne
    · exact absurd h (append_ne_append (by decide) (by decide) _ _)
    · exact .inr (eq_append_of_append_eq h)

theorem eq_of_append_index_mem_expansions (h : path ++ "/index.jsx" ∈ expansions other) :
    other = path ++ "/index.jsx" ∨ other = path ++ "/index" := by
  rcases mem_expansions.mp h with h | h | h | h | h
  · exact .inl h.symm
  · exact absurd h (append_ne_append (by decide) (by decide) _ _)
  · exact .inr (eq_append_of_append_eq h.symm)
  · exact absurd h (append_ne_append (by decide) (by decide) _ _)
  · exact absurd ((String.append_left_inj _).mp h).symm hne

end Files

/-- Of paths that have all files of another one, each gives at most one of these four files. -/
theorem exists_four_of_expansions_subset {paths : List String} {path : String}
    (hsub : expansions path ⊆ paths.flatMap expansions) (hout : path ∉ paths) :
    ∃ short long, [short, path ++ ".js", path ++ ".jsx", long] ⊆ paths ∧
      short.length < path.length ∧ path.length + 4 < long.length := by
  have hother : ∀ file ∈ expansions path,
      ∃ other ∈ paths, other ≠ path ∧ file ∈ expansions other := by
    intro file hfile
    obtain ⟨other, hother, hmem⟩ := List.mem_flatMap.mp (hsub hfile)
    exact ⟨other, hother, fun hsame => hout (hsame ▸ hother), hmem⟩
  obtain ⟨short, hshort, hne, hmem⟩ := hother path (mem_expansions.mpr (by simp))
  obtain ⟨hless, hindex⟩ := shorter_of_mem_expansions hne hmem
  have hending : ∀ ending, ending = ".js" ∨ ending = ".jsx" → path ++ ending ∈ paths := by
    intro ending h
    have hfile : path ++ ending ∈ expansions path := by
      rcases h with rfl | rfl <;> simp [mem_expansions]
    obtain ⟨other, hpath, hne, hmem⟩ := hother _ hfile
    rcases eq_of_append_mem_expansions hne h hmem with rfl | hsame
    · exact hpath
    · exact absurd hsame (hindex other)
  obtain ⟨long, hlong, hne', hmem'⟩ := hother (path ++ "/index.jsx") (mem_expansions.mpr (by simp))
  refine ⟨short, long, by simp [hshort, hending, hlong], hless, ?_⟩
  rcases eq_of_append_index_mem_expansions hne' hmem' with rfl | rfl
  · exact (String.length_append _ _).symm ▸ Nat.add_lt_add_left (by decide) _
  · exact (String.length_append _ _).symm ▸ Nat.add_lt_add_left (by decide) _

theorem expansions_subset_flatMap_iff {paths : List String} (hlength : paths.length ≤ 3)
    {path : String} : expansions path ⊆ paths.flatMap expansions ↔ path ∈ paths := by
  constructor
  · intro hsub
    by_contra hout
    obtain ⟨short, long, hfour, hshort, hlong⟩ := exists_four_of_expansions_subset hsub hout
    have hjs : (path ++ ".js").length = path.length + 3 := String.length_append _ _
    have hjsx : (path ++ ".jsx").length = path.length + 4 := String.length_append _ _
    have hlengths : [short, path ++ ".js", path ++ ".jsx", long].Pairwise
        fun a b => a.length < b.length := by
      simp only [List.pairwise_cons, List.mem_cons, forall_eq_or_imp, List.not_mem_nil,
        false_implies, implies_true, List.Pairwise.nil, and_true, hjs, hjsx]
      omega
    have hdistinct := hlengths.imp fun h => ne_of_apply_ne String.length (Nat.ne_of_lt h)
    have hcount := (List.subperm_of_subset hdistinct hfour).length_le
    exact absurd (hcount.trans hlength) (by simp)
  · intro hmem file hfile
    exact List.mem_flatMap.mpr ⟨path, hmem, hfile⟩

/-! ### Bare specifiers -/

/-- A specifier that is neither relative nor absolute, and whose first part is no alias. -/
structure Specifier.IsBare (t : AliasTable) (specifier : String) : Prop where
  not_relative : isRelative specifier = false
  not_absolute : Path.isAbsolute specifier = false
  not_alias : t.path? (.ofList (specifier.toList.takeWhile (· != '/'))) = none

theorem Specifier.IsBare.resolve {t : AliasTable} {specifier : String}
    (h : Specifier.IsBare t specifier) : t.resolve specifier = specifier := by
  simp [AliasTable.resolve, h.not_alias]

namespace Path

/-- What follows a directory in the path of something below it. -/
def after (dir path : String) : String := (if needsSlash dir then "/" else "") ++ path

theorem join_eq_after {path : String} (h : isAbsolute path = false) (dir : String) :
    join dir path = dir ++ after dir path := by
  rw [join, after, if_neg (by simp [h])]
  by_cases hdir : dir = "" ∨ dir.toList.getLast? = some '/'
  · have hslash : needsSlash dir = false := by
      rcases hdir with rfl | hdir
      · rfl
      · simp [needsSlash, hdir]
    rw [if_pos hdir, hslash, if_neg Bool.false_ne_true, String.empty_append]
  · have hslash : needsSlash dir = true := by simpa [needsSlash, not_or] using hdir
    rw [if_neg hdir, if_pos hslash, String.append_assoc]

theorem after_inj {dir dir' path : String} :
    after dir path = after dir' path ↔ needsSlash dir = needsSlash dir' := by
  rw [after, after, String.append_left_inj]
  cases needsSlash dir <;> cases needsSlash dir' <;> decide

end Path

namespace Config

variable {c : Config} {source : String}

theorem movedPath?_eq_some_iff {dir : String} (hdir : c.moduleDirectory = some dir)
    {path parent rest : String} :
    c.movedPath? path (some parent) = some (dir ++ rest) ↔ path = Path.directory parent ++ rest := by
  have hc : c.withModuleDirectory (some dir) = c := by rw [withModuleDirectory, ← hdir]
  have hcases := c.movedPath?_cases dir path parent
  rw [hc] at hcases
  rcases hcases with ⟨rest', rfl, hmoved⟩ | ⟨hout, hmoved⟩
  · rw [hmoved, Option.some.injEq, String.append_right_inj, String.append_right_inj]
  · rw [hmoved]
    exact iff_of_false (by simp) (hout rest)

section Bare

variable (h : Specifier.IsBare c.aliases source)
include h

theorem aliasedPath_bare : c.aliasedPath source = Path.join c.base source := by
  rw [aliasedPath, h.resolve]

theorem candidates_bare (guess parent : String) :
    c.candidates guess (some source) (some parent) =
      ((if c.aliases.isEmpty then [] else [Path.join c.base source]) ++
        guess :: (c.movedPath? guess (some parent)).toList).flatMap expansions := by
  cases hempty : c.aliases.isEmpty <;>
    simp [candidates, hempty, h.not_relative, aliasedPath_bare h]

theorem guess_bare (parent : String) :
    (c.guess source parent).1 =
      if c.aliases.isEmpty then Path.join (Path.directory parent) source
      else Path.normalize (Path.join c.base source) := by
  cases hempty : c.aliases.isEmpty <;> simp [guess, hempty, h.not_relative, aliasedPath_bare h]

theorem subset_candidates_bare_iff {dir : String} (hdir : c.moduleDirectory = some dir)
    (guess parent : String) :
    expansions (Path.join dir source) ⊆ c.candidates guess (some source) (some parent) ↔
      guess = Path.directory parent ++ Path.after dir source ∨ Path.join dir source = guess ∨
        c.aliases.isEmpty = false ∧ Path.join dir source = Path.join c.base source := by
  have hlength : ((if c.aliases.isEmpty then [] else [Path.join c.base source]) ++
      guess :: (c.movedPath? guess (some parent)).toList).length ≤ 3 := by
    cases c.aliases.isEmpty <;> cases c.movedPath? guess (some parent) <;> simp
  have hmoved : c.movedPath? guess (some parent) = some (Path.join dir source) ↔
      guess = Path.directory parent ++ Path.after dir source := by
    rw [Path.join_eq_after h.not_absolute]
    exact movedPath?_eq_some_iff hdir
  rw [candidates_bare h, expansions_subset_flatMap_iff hlength, ← hmoved, List.mem_append,
    List.mem_cons, Option.mem_toList]
  cases c.aliases.isEmpty <;> simp [or_assoc, or_comm, or_left_comm]

/-- The files of a bare specifier in the module directory are all candidates of a child exactly in
these cases.  Without aliases: a slash must follow the directory of the parent just when one must
follow the module directory, or the guess is the same path.  With aliases: the specifier in the base
directory, in normal form, is also the specifier in the directory of the parent, or it is the same
path in normal form or as it stands. -/
theorem subset_candidates_guess_iff {dir : String} (hdir : c.moduleDirectory = some dir)
    (parent : String) :
    expansions (Path.join dir source) ⊆
        c.candidates (c.guess source parent).1 (some source) (some parent) ↔
      if c.aliases.isEmpty then
        Path.needsSlash dir = Path.needsSlash (Path.directory parent) ∨
          Path.join dir source = Path.join (Path.directory parent) source
      else
        Path.normalize (Path.join c.base source) = Path.directory parent ++ Path.after dir source ∨
          Path.join dir source = Path.normalize (Path.join c.base source) ∨
          Path.join dir source = Path.join c.base source := by
  rw [subset_candidates_bare_iff h hdir, guess_bare h]
  cases c.aliases.isEmpty with
  | true =>
    have hbelow : Path.join (Path.directory parent) source =
          Path.directory parent ++ Path.after dir source ↔
        Path.needsSlash dir = Path.needsSlash (Path.directory parent) := by
      rw [Path.join_eq_after h.not_absolute, String.append_right_inj, Path.after_inj, eq_comm]
    simp only [if_true, Bool.true_eq_false, false_and, or_false, hbelow]
  | false => simp only [Bool.false_eq_true, if_false, true_and]

end Bare

/-- A module directory beside an alias for something else. -/
def divided : Config where
  moduleDirectory := some "/m"
  aliases := [("x", some "y")]
  base := "/p"

/-- Outside the base directory, what is not aliased is not looked for in the module directory. -/
theorem not_subset_candidates_divided :
    Specifier.IsBare divided.aliases "B" ∧ Path.directory "/p/src/A.js" = "/p/src" ∧
      ¬ expansions (Path.join "/m" "B") ⊆
        divided.candidates (divided.guess "B" "/p/src/A.js").1 (some "B") (some "/p/src/A.js") :=
  ⟨⟨by decide, by decide, by decide⟩, by decide, by decide +kernel⟩

theorem subset_candidates_guess_divided :
    Specifier.IsBare divided.aliases "B" ∧ Path.directory "/p/A.js" = "/p" ∧
      expansions (Path.join "/m" "B") ⊆
        divided.candidates (divided.guess "B" "/p/A.js").1 (some "B") (some "/p/A.js") := by
  have hbare : Specifier.IsBare divided.aliases "B" := ⟨by decide, by decide, by decide⟩
  have hbase : Path.normalize (Path.join "/p" "B") =
      Path.directory "/p/A.js" ++ Path.after "/m" "B" := by
    decide +kernel
  exact ⟨hbare, by decide, (subset_candidates_guess_iff hbare rfl "/p/A.js").mpr (.inl hbase)⟩

end Config

end JsxOutline
