import JsxOutline.Proofs.Directories
import JsxOutline.Proofs.ModuleDirectory

/-!
# Paths moved into the module directory

A path below the directory of its parent is moved by its text.  Main statement: this is what moving
it by its components gives, exactly if the text of the directory ends where a component of the path
does, and if a slash follows the directory just when one must follow the module directory.
-/

namespace JsxOutline

namespace Path

/-! ### Components -/

/-- Whether a slash must stand between a directory and a name below it. -/
def needsSlash (dir : String) : Bool := dir != "" && dir.toList.getLast? != some '/'

def slashes (path : String) : String := .ofList (path.toList.takeWhile (· == '/'))

def unrooted (path : String) : String := .ofList (path.toList.dropWhile (· == '/'))

/-- The slashes at the start of a path, and the parts of what follows them, if there is something. -/
def components (path : String) : List String :=
  slashes path :: if unrooted path = "" then [] else split (unrooted path)

/-- The path of components below a directory. -/
def descend (dir : String) (names : List String) : String :=
  if names = [] then dir else dir ++ (if needsSlash dir then "/" else "") ++ "/".intercalate names

/-- A path below a directory, moved into another one: its first components are those of the
directory, and the others are kept. -/
def rerooted? (dir target path : String) : Option String :=
  if components dir <+: components path then
    some (descend target ((components path).drop (components dir).length))
  else none

theorem slashes_append_unrooted (path : String) : slashes path ++ unrooted path = path := by
  rw [slashes, unrooted, ← String.ofList_append, List.takeWhile_append_dropWhile, String.ofList_toList]

theorem intercalate_tail_components (path : String) :
    "/".intercalate (components path).tail = unrooted path := by
  rw [components, List.tail_cons]
  split
  · next hempty => rw [hempty, String.intercalate_nil]
  · exact intercalate_split _

theorem exists_append_of_components {dir path : String} (h : components dir <+: components path) :
    ∃ rest, path = dir ++ rest := by
  obtain ⟨names, hnames⟩ := h
  have hslashes : slashes path = slashes dir := (List.cons.inj hnames).1.symm
  have htail : (components dir).tail ++ names = (components path).tail := (List.cons.inj hnames).2
  have hpath := intercalate_tail_components path
  have hdir := intercalate_tail_components dir
  have hrest : ∃ rest, unrooted path = unrooted dir ++ rest := by
    rw [← hpath, ← htail, ← hdir]
    by_cases hnone : (components dir).tail = []
    · exact ⟨"/".intercalate names, by simp [hnone]⟩
    by_cases hsame : names = []
    · exact ⟨"", by simp [hsame]⟩
    · exact ⟨"/" ++ "/".intercalate names, by
        rw [String.intercalate_append_of_ne_nil hnone hsame, String.append_assoc]⟩
  obtain ⟨rest, hrest⟩ := hrest
  refine ⟨rest, ?_⟩
  rw [← slashes_append_unrooted path, hslashes, hrest, ← String.append_assoc, slashes_append_unrooted]

theorem first_ne_empty {path first : String} {rest : List String} (h : split path = first :: rest)
    (hpath : path ≠ "") (hrel : isAbsolute path = false) : first ≠ "" := by
  rintro rfl
  have hjoined := intercalate_split path
  rw [h] at hjoined
  cases rest with
  | nil => exact hpath (hjoined ▸ String.intercalate_singleton)
  | cons next rest =>
    rw [String.intercalate_cons_cons] at hjoined
    have habsolute : isAbsolute path = true := by
      rw [← hjoined]
      simp [isAbsolute]
    rw [hrel] at habsolute
    cases habsolute

theorem slashes_of_relative {path : String} (h : isAbsolute path = false) : slashes path = "" := by
  rw [slashes]
  cases hpath : path.toList with
  | nil => rfl
  | cons c cs =>
    have hc : c ≠ '/' := by simpa [isAbsolute, hpath] using h
    rw [List.takeWhile_cons_of_neg (by simpa using hc)]

/-! ### Directories that end in a name -/

section Named

variable {dir : String} (h : needsSlash dir = true)
include h

theorem dropWhile_ne_nil_of_needsSlash : dir.toList.dropWhile (· == '/') ≠ [] := by
  intro hnil
  have hall := List.dropWhile_eq_nil_iff.mp hnil
  simp only [needsSlash, Bool.and_eq_true, bne_iff_ne] at h
  obtain ⟨hne, hlast⟩ := h
  have hchars : dir.toList ≠ [] := mt String.toList_eq_nil_iff.mp hne
  have hslash := hall _ (List.getLast_mem hchars)
  rw [List.getLast?_eq_some_getLast hchars, beq_iff_eq.mp hslash] at hlast
  exact hlast rfl

theorem unrooted_ne_empty : unrooted dir ≠ "" := by
  intro hempty
  have hnil := congrArg String.toList hempty
  rw [unrooted, String.toList_ofList] at hnil
  exact dropWhile_ne_nil_of_needsSlash h hnil

theorem slashes_append (more : String) : slashes (dir ++ more) = slashes dir := by
  have hlength := congrArg List.length
    (List.takeWhile_append_dropWhile (p := (· == '/')) (l := dir.toList))
  have hrest := List.length_pos_iff.mpr (dropWhile_ne_nil_of_needsSlash h)
  rw [List.length_append] at hlength
  rw [slashes, String.toList_append, List.takeWhile_append, if_neg (by omega), slashes]

theorem unrooted_append (more : String) : unrooted (dir ++ more) = unrooted dir ++ more := by
  have hrest := dropWhile_ne_nil_of_needsSlash h
  rw [unrooted, String.toList_append, List.dropWhile_append, if_neg (by simpa using hrest),
    String.ofList_append, String.ofList_toList, unrooted]

theorem components_append {more last first : String} {init rest : List String}
    (hdir : split (unrooted dir) = init ++ [last]) (hmore : split more = first :: rest) :
    components (dir ++ more) = slashes dir :: (init ++ (last ++ first) :: rest) := by
  have hne : unrooted dir ++ more ≠ "" := by
    intro hempty
    exact unrooted_ne_empty h (String.append_eq_empty_iff.mp hempty).1
  rw [components, slashes_append h, unrooted_append h, if_neg hne, split_append hdir hmore]

theorem components_append_slash (path : String) :
    components (dir ++ "/" ++ path) = components dir ++ split path := by
  obtain ⟨init, last, hdir⟩ := exists_split_eq (unrooted dir)
  rw [String.append_assoc, components_append h hdir (split_slash path), components,
    if_neg (unrooted_ne_empty h), hdir, String.append_empty]
  simp

theorem not_components_prefix {rest : String} (hrest : rest ≠ "") (hrel : isAbsolute rest = false) :
    ¬ components dir <+: components (dir ++ rest) := by
  obtain ⟨init, last, hdir⟩ := exists_split_eq (unrooted dir)
  obtain ⟨first, more, hmore⟩ := List.exists_cons_of_ne_nil (split_ne_nil rest)
  rw [components_append h hdir hmore, components, if_neg (unrooted_ne_empty h), hdir]
  intro hprefix
  have hlast : [last] <+: (last ++ first) :: more :=
    (List.prefix_append_right_inj init).mp (List.cons_prefix_cons.mp hprefix).2
  have hfirst : last = last ++ first := (List.cons_prefix_cons.mp hlast).1
  refine first_ne_empty hmore hrest hrel ?_
  have hlength := congrArg (fun s : String => s.toList.length) hfirst
  simpa using hlength

end Named

/-! ### Directories of slashes -/

section Slashes

variable {dir : String} (h : ∀ c ∈ dir.toList, c = '/')
include h

theorem slashes_slashes_append (path : String) : slashes (dir ++ path) = dir ++ slashes path := by
  rw [slashes, String.toList_append, List.takeWhile_append_of_pos (by simpa using h),
    String.ofList_append, String.ofList_toList, slashes]

theorem unrooted_slashes_append (path : String) : unrooted (dir ++ path) = unrooted path := by
  rw [unrooted, String.toList_append, List.dropWhile_append_of_pos (by simpa using h), unrooted]

theorem components_of_slashes : components dir = [dir] := by
  have hslashes := slashes_slashes_append h ""
  have hunrooted := unrooted_slashes_append h ""
  rw [String.append_empty] at hslashes hunrooted
  rw [components, hslashes, hunrooted]
  simp [slashes, unrooted]

theorem components_slashes_append {rest : String} (hrest : rest ≠ "")
    (hrel : isAbsolute rest = false) : components (dir ++ rest) = dir :: split rest := by
  have hnone := slashes_of_relative hrel
  have hwhole := slashes_append_unrooted rest
  rw [hnone, String.empty_append] at hwhole
  rw [components, slashes_slashes_append h, unrooted_slashes_append h, hnone, hwhole,
    String.append_empty, if_neg hrest]

theorem not_components_prefix_of_slashes {rest : String} (habsolute : isAbsolute rest = true) :
    ¬ components dir <+: components (dir ++ rest) := by
  rw [components_of_slashes h, components, slashes_slashes_append h]
  intro hprefix
  have hsame := (List.cons_prefix_cons.mp hprefix).1
  obtain ⟨more, rfl⟩ := eq_slash_append_of_isAbsolute habsolute
  have hlength := congrArg (fun s : String => s.toList.length) hsame
  simp [slashes] at hlength

end Slashes

theorem needsSlash_of_slashes {dir : String} (h : ∀ c ∈ dir.toList, c = '/') :
    needsSlash dir = false := by
  cases hlast : dir.toList.getLast? with
  | none =>
    have hempty := String.toList_eq_nil_iff.mp (List.getLast?_eq_none_iff.mp hlast)
    simp [needsSlash, hempty]
  | some c => simp [needsSlash, hlast, h c (List.mem_of_getLast? hlast)]

/-- The directory of a path ends in a name, or it is a run of slashes. -/
theorem directory_ends (path : String) :
    needsSlash (directory path) = true ∨ ∀ c ∈ (directory path).toList, c = '/' := by
  cases hstripped : (path.toList.reverse.dropWhile (· != '/')).dropWhile (· == '/') with
  | nil =>
    right
    intro c hc
    have hall := List.dropWhile_eq_nil_iff.mp hstripped
    simp only [directory, hstripped, List.isEmpty_nil, if_true, String.toList_ofList,
      List.mem_reverse] at hc
    exact beq_iff_eq.mp (hall c hc)
  | cons c cs =>
    left
    have hne := hstripped ▸ List.cons_ne_nil c cs
    have hc : c ≠ '/' := by
      have hhead := List.head_dropWhile_not (· == '/') hne
      simpa [hstripped] using hhead
    simp [needsSlash, directory, hstripped, hc]

/-! ### Moving -/

theorem descend_split (dir path : String) :
    descend dir (split path) = dir ++ ((if needsSlash dir then "/" else "") ++ path) := by
  rw [descend, if_neg (split_ne_nil path), intercalate_split, String.append_assoc]

theorem rerooted?_self (dir target : String) : rerooted? dir target dir = some target := by
  simp [rerooted?, descend]

theorem rerooted?_below {dir : String} (h : needsSlash dir = true) (target path : String) :
    rerooted? dir target (dir ++ ("/" ++ path)) =
      some (target ++ ((if needsSlash target then "/" else "") ++ path)) := by
  have hcomponents := components_append_slash h path
  rw [String.append_assoc] at hcomponents
  rw [rerooted?, hcomponents, if_pos (List.prefix_append _ _), List.drop_left, descend_split]

theorem rerooted?_below_slashes {dir path : String} (h : ∀ c ∈ dir.toList, c = '/')
    (hpath : path ≠ "") (hrel : isAbsolute path = false) (target : String) :
    rerooted? dir target (dir ++ path) =
      some (target ++ ((if needsSlash target then "/" else "") ++ path)) := by
  have hcomponents : components (dir ++ path) = components dir ++ split path := by
    rw [components_slashes_append h hpath hrel, components_of_slashes h]
    rfl
  rw [rerooted?, hcomponents, if_pos (List.prefix_append _ _), List.drop_left, descend_split]

theorem ne_slash_append (path : String) : path ≠ "/" ++ path := by
  intro hsame
  have hlength := congrArg (fun s : String => s.toList.length) hsame
  simp at hlength

theorem rerooted?_append {dir : String}
    (h : needsSlash dir = true ∨ ∀ c ∈ dir.toList, c = '/') (target rest : String) :
    rerooted? dir target (dir ++ rest) = some (target ++ rest) ↔
      rest = "" ∨ needsSlash target = needsSlash dir ∧ isAbsolute rest = needsSlash dir := by
  by_cases hrest : rest = ""
  · simp [hrest, rerooted?_self]
  rcases h with hname | hslashes
  · cases habsolute : isAbsolute rest with
    | false =>
      -- the last name of the directory goes on, so it is another component
      have hout := not_components_prefix hname hrest habsolute
      simp [rerooted?, hout, hrest, hname]
    | true =>
      obtain ⟨path, rfl⟩ := eq_slash_append_of_isAbsolute habsolute
      rw [rerooted?_below hname, Option.some.injEq, String.append_right_inj]
      cases needsSlash target <;> simp [hname, hrest, ne_slash_append]
  · have hdir := needsSlash_of_slashes hslashes
    cases habsolute : isAbsolute rest with
    | true =>
      -- the root is written with more slashes, so it is another root
      have hout := not_components_prefix_of_slashes hslashes habsolute
      simp [rerooted?, hout, hrest, hdir]
    | false =>
      rw [rerooted?_below_slashes hslashes hrest habsolute, Option.some.injEq,
        String.append_right_inj]
      cases needsSlash target <;> simp [hdir, hrest]

end Path

theorem flatMap_expansions_inj {o o' : Option String} :
    o.toList.flatMap expansions = o'.toList.flatMap expansions ↔ o = o' := by
  refine ⟨?_, fun h => h ▸ rfl⟩
  intro h
  have hfirst : ∀ o : Option String, (o.toList.flatMap expansions).head? = o := by
    intro o
    cases o <;> simp [expansions_eq]
  rw [← hfirst o, h, hfirst]

namespace Config

theorem movedPath?_cases (c : Config) (dir path parent : String) :
    (∃ rest, path = Path.directory parent ++ rest ∧
        (c.withModuleDirectory (some dir)).movedPath? path (some parent) = some (dir ++ rest)) ∨
      (∀ rest, path ≠ Path.directory parent ++ rest) ∧
        (c.withModuleDirectory (some dir)).movedPath? path (some parent) = none := by
  simp only [movedPath?, withModuleDirectory, Option.bind_eq_bind, Option.bind_some]
  by_cases hprefix : (Path.directory parent).toList <+: path.toList
  · obtain ⟨rest, hrest⟩ := hprefix
    refine .inl ⟨.ofList rest, ?_, ?_⟩
    · rw [← String.toList_inj]
      simpa using hrest.symm
    · simp [← hrest]
  · refine .inr ⟨?_, ?_⟩
    · rintro rest rfl
      exact hprefix (by simp)
    · simpa using hprefix

/-- With a module directory, the candidates after those of the guess are those of the guess moved by
its components, exactly if nothing follows the text of the parent's directory in the guess, or if a
slash follows just when this directory needs one, and the module directory needs one just then. -/
theorem candidates_rerooted_iff (c : Config) (dir guess parent : String) (source : Option String) :
    ∃ front,
      (c.withModuleDirectory none).candidates guess source (some parent) =
        front ++ expansions guess ∧
      ((c.withModuleDirectory (some dir)).candidates guess source (some parent) =
          front ++ expansions guess ++
            (Path.rerooted? (Path.directory parent) dir guess).toList.flatMap expansions ↔
        ∀ rest, guess = Path.directory parent ++ rest →
          rest = "" ∨ Path.needsSlash dir = Path.needsSlash (Path.directory parent) ∧
            Path.isAbsolute rest = Path.needsSlash (Path.directory parent)) := by
  have hfront : ∃ front, (c.withModuleDirectory none).candidates guess source (some parent) =
      front ++ expansions guess := by
    have hnone : (c.withModuleDirectory none).movedPath? guess (some parent) = none := rfl
    simp only [candidates, hnone, Option.toList_none, List.flatMap_nil, List.append_nil]
    exact ⟨_, rfl⟩
  obtain ⟨front, hfront⟩ := hfront
  refine ⟨front, hfront, ?_⟩
  rw [candidates_withModuleDirectory, hfront, List.append_cancel_left_eq, flatMap_expansions_inj]
  have hends := Path.directory_ends parent
  rcases c.movedPath?_cases dir guess parent with ⟨rest, rfl, hmoved⟩ | ⟨hout, hmoved⟩
  · rw [hmoved, eq_comm, Path.rerooted?_append hends]
    constructor
    · intro hcond rest' hrest'
      rwa [← (String.append_right_inj _).mp hrest']
    · intro hcond
      exact hcond rest rfl
  · have hnone : Path.rerooted? (Path.directory parent) dir guess = none := by
      refine if_neg ?_
      intro hprefix
      obtain ⟨rest, hrest⟩ := Path.exists_append_of_components hprefix
      exact hout rest hrest
    rw [hmoved, hnone]
    exact iff_of_true rfl fun rest hrest => absurd hrest (hout rest)

/-- A directory whose name only begins like that of the parent is moved too, and it is moved out of
the module directory. -/
theorem not_candidates_rerooted_sibling :
    Path.rerooted? (Path.directory "/p/src/A.js") "/m" "/p/src2/B" = none ∧
      Config.candidates { moduleDirectory := some "/m" } "/p/src2/B" (some "../src2/B")
          (some "/p/src/A.js") =
        expansions "/p/src2/B" ++ expansions "/m2/B" := by
  decide +kernel

end Config

end JsxOutline
