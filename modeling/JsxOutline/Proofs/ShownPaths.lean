import JsxOutline.Proofs.Candidates
import JsxOutline.Proofs.NestedPaths
import JsxOutline.Proofs.Rerooting

/-!
# Paths shown from the base directory

The path that is guessed for a component is shown without the base directory and the slash after it.
Main statement: from a base directory with a name this is a relative path exactly if the path lies
below the directory by its components, and joining gives the path back.  From the root, which ends
in a slash itself, no path below it is shown so.
-/

namespace JsxOutline

namespace Path

/-! ### Normal paths -/

structure IsNormal (path : String) : Prop where
  absolute : isAbsolute path = true
  normal : normalize path = path

instance : DecidablePred IsNormal := fun path =>
  decidable_of_iff (isAbsolute path = true ∧ normalize path = path)
    ⟨fun h => ⟨h.1, h.2⟩, fun h => ⟨h.1, h.2⟩⟩

/-- The components of a path from the root: the root with its slashes, and names below it. -/
structure Spells (slashes : String) (names : List String) : Prop where
  root : slashes = "/" ∨ slashes = "//"
  names : ∀ name ∈ names, IsName name

namespace Spells

variable {slashes : String} {names : List String} (h : Spells slashes names)
include h

theorem ne_empty : slashes ≠ "" := by
  rcases h.root with rfl | rfl <;> decide

theorem all_slashes : ∀ c ∈ slashes.toList, c = '/' := by
  rcases h.root with rfl | rfl <;> simp

theorem isAbsolute_intercalate : isAbsolute ("/".intercalate names) = false :=
  Path.isAbsolute_intercalate fun name hname => ⟨(h.names name hname).1, (h.names name hname).2.2.2⟩

theorem isAbsolute : Path.isAbsolute (slashes ++ "/".intercalate names) = true := by
  refine isAbsolute_append ?_ _
  rcases h.root with rfl | rfl <;> decide

theorem root_eq : Path.root (slashes ++ "/".intercalate names) = slashes := by
  have hroot := root_ofNames (.inr h.root) fun name hname =>
    ⟨(h.names name hname).1, (h.names name hname).2.2.2⟩
  rwa [ofNames_of_ne_empty h.ne_empty] at hroot

theorem climbs_eq :
    (split (slashes ++ "/".intercalate names)).foldl (climb true) [] = names.reverse := by
  have hnames : (split ("/".intercalate names)).foldl (climb true) [] = names.reverse := by
    cases names with
    | nil => rfl
    | cons name rest =>
      rw [split_intercalate (List.cons_ne_nil _ _) fun n hn => (h.names n hn).2.2.2,
        climbs_of_names h.names, List.append_nil]
  rcases h.root with rfl | rfl
  · rw [climbs_slash, hnames]
  · have htwo : "//" ++ "/".intercalate names = "/" ++ ("/" ++ "/".intercalate names) := by
      rw [← String.append_assoc]
      rfl
    rw [htwo, climbs_slash, climbs_slash, hnames]

theorem isNormal : IsNormal (slashes ++ "/".intercalate names) := by
  refine ⟨h.isAbsolute, ?_⟩
  rw [normalize, h.isAbsolute, h.climbs_eq, h.root_eq, List.reverse_reverse,
    ofNames_of_ne_empty h.ne_empty]

theorem components_eq : components (slashes ++ "/".intercalate names) = slashes :: names := by
  cases hnames : names with
  | nil => rw [String.intercalate_nil, String.append_empty, components_of_slashes h.all_slashes]
  | cons name rest =>
    subst hnames
    have hclean := isClean_intercalate (List.cons_ne_nil _ _) h.names
    rw [components_slashes_append h.all_slashes hclean.ne_empty hclean.isAbsolute,
      split_intercalate (List.cons_ne_nil _ _) fun n hn => (h.names n hn).2.2.2]

end Spells

theorem exists_normalize_eq {path : String} (h : isAbsolute path = true) :
    ∃ names, Spells (root path) names ∧ normalize path = root path ++ "/".intercalate names := by
  have hroot := root_of_isAbsolute h
  have hne : root path ≠ "" := by
    rcases hroot with hroot | hroot <;> rw [hroot] <;> decide
  refine ⟨((split path).foldl (climb true) []).reverse, ⟨hroot, ?_⟩, ?_⟩
  · intro name hname
    have hparts : ∀ part ∈ split path, '/' ∉ part.toList :=
      fun _ hpart => no_slash_of_mem_split hpart
    exact isName_of_mem_climbs (by simp) hparts (List.mem_reverse.mp hname)
  · rw [normalize, h, ofNames_of_ne_empty hne]

theorem isNormal_normalize {path : String} (h : isAbsolute path = true) :
    IsNormal (normalize path) := by
  obtain ⟨names, hnames, heq⟩ := exists_normalize_eq h
  rw [heq]
  exact hnames.isNormal

theorem IsNormal.exists_eq {path : String} (h : IsNormal path) :
    ∃ slashes names, Spells slashes names ∧ path = slashes ++ "/".intercalate names := by
  obtain ⟨names, hnames, heq⟩ := exists_normalize_eq h.absolute
  exact ⟨_, names, hnames, h.normal.symm.trans heq⟩

/-! ### What comes after a directory -/

/-- A path lies below a directory: its components are those of the directory and at least one more. -/
def IsBelow (dir path : String) : Prop :=
  ∃ names, names ≠ [] ∧ components path = components dir ++ names

/-- A path is shown from a directory: joined to it, what is shown gives the path, and it is a
relative path exactly if the path lies below the directory. -/
structure IsShownFrom (dir path shown : String) : Prop where
  join : join dir shown = path
  relative : isAbsolute shown = false ↔ IsBelow dir path

theorem relativeTo_append (dir rest : String) : relativeTo dir (dir ++ "/" ++ rest) = rest := by
  have hprefix : (dir ++ "/").toList.isPrefixOf (dir ++ "/" ++ rest).toList = true := by
    rw [String.toList_append (s := dir ++ "/")]
    exact List.isPrefixOf_iff_prefix.mpr (List.prefix_append _ _)
  rw [relativeTo, if_pos hprefix, String.toList_append (s := dir ++ "/"), List.drop_left,
    String.ofList_toList]

theorem relativeTo_of_ne_append {dir path : String} (h : ∀ rest, path ≠ dir ++ "/" ++ rest) :
    relativeTo dir path = path := by
  have hprefix : ¬ (dir ++ "/").toList.isPrefixOf path.toList = true := by
    intro hprefix
    obtain ⟨rest, hrest⟩ := List.isPrefixOf_iff_prefix.mp hprefix
    refine h (.ofList rest) ?_
    rw [← String.toList_inj, String.toList_append, String.toList_ofList, hrest]
  rw [relativeTo, if_neg hprefix]

/-- Below a directory that ends in a name a path goes on with a slash. -/
theorem IsBelow.exists_append_slash {dir path : String} (hdir : needsSlash dir = true)
    (h : IsBelow dir path) : ∃ rest, path = dir ++ "/" ++ rest := by
  obtain ⟨names, hne, hnames⟩ := h
  have htail : (components path).tail = (components dir).tail ++ names := by
    rw [hnames]
    rfl
  have hslashes : slashes path = slashes dir := (List.cons.inj hnames).1
  have hunrooted := intercalate_tail_components dir
  have hdirNames : (components dir).tail ≠ [] := by
    intro hnil
    rw [hnil, String.intercalate_nil] at hunrooted
    exact unrooted_ne_empty hdir hunrooted.symm
  refine ⟨"/".intercalate names, ?_⟩
  rw [← slashes_append_unrooted path, ← intercalate_tail_components path, htail,
    String.intercalate_append_of_ne_nil hdirNames hne, hunrooted, hslashes, ← String.append_assoc,
    ← String.append_assoc, slashes_append_unrooted]

theorem isShownFrom_of_not_below {dir path : String} (hpath : IsNormal path)
    (hout : ∀ rest, path ≠ dir ++ "/" ++ rest) :
    IsShownFrom dir path (relativeTo dir path) ↔ ¬ IsBelow dir path := by
  rw [relativeTo_of_ne_append hout]
  constructor
  · intro h hbelow
    have hrelative := h.relative.mpr hbelow
    rw [hpath.absolute] at hrelative
    cases hrelative
  · intro hbelow
    exact ⟨join_of_isAbsolute hpath.absolute dir, by simp [hpath.absolute, hbelow]⟩

theorem isShownFrom_of_needsSlash {dir path : String} (hdir : needsSlash dir = true)
    (hpath : IsNormal path) : IsShownFrom dir path (relativeTo dir path) := by
  by_cases hbelow : ∃ rest, path = dir ++ "/" ++ rest
  · obtain ⟨rest, rfl⟩ := hbelow
    have hcomponents := components_append_slash hdir rest
    obtain ⟨slashes, names, hspells, heq⟩ := hpath.exists_eq
    have hclean : IsClean rest := by
      -- the parts of what is shown are names of the path
      intro name hname
      rw [heq, hspells.components_eq] at hcomponents
      obtain ⟨-, hnames⟩ := List.cons.inj hcomponents
      refine hspells.names name ?_
      rw [hnames]
      exact List.mem_append_right _ hname
    rw [relativeTo_append]
    have hjoin : ¬ (dir = "" ∨ dir.toList.getLast? = some '/') := by
      simpa [needsSlash] using hdir
    refine ⟨?_, iff_of_true hclean.isAbsolute ⟨_, split_ne_nil rest, hcomponents⟩⟩
    rw [join, hclean.isAbsolute, if_neg Bool.false_ne_true, if_neg hjoin]
  · have hout : ∀ rest, path ≠ dir ++ "/" ++ rest := fun rest hrest => hbelow ⟨rest, hrest⟩
    rw [isShownFrom_of_not_below hpath hout]
    exact fun h => hbelow (h.exists_append_slash hdir)

theorem IsNormal.cases {path : String} (h : IsNormal path) :
    needsSlash path = true ∨ path = "/" ∨ path = "//" := by
  obtain ⟨slashes, names, hspells, rfl⟩ := h.exists_eq
  by_cases hnames : names = []
  · rw [hnames, String.intercalate_nil, String.append_empty]
    exact .inr hspells.root
  · left
    have hclean := isClean_intercalate hnames hspells.names
    have hne : slashes ++ "/".intercalate names ≠ "" := by
      intro hempty
      exact hspells.ne_empty (String.append_eq_empty_iff.mp hempty).1
    have hlast : (slashes ++ "/".intercalate names).toList.getLast? ≠ some '/' := by
      rw [String.toList_append, List.getLast?_append_of_ne_nil _ hclean.toList_ne_nil]
      exact fun hslash => not_isClean_of_getLast? hslash hclean
    simp only [needsSlash, Bool.and_eq_true, bne_iff_ne]
    exact ⟨hne, hlast⟩

/-! ### Paths from the root -/

namespace Spells

variable {slashes : String} {names : List String} (h : Spells slashes names)
include h

theorem intercalate_ne_slash_append (rest : String) : "/".intercalate names ≠ "/" ++ rest := by
  intro hslash
  have hrelative := h.isAbsolute_intercalate
  rw [hslash, isAbsolute_append rfl rest] at hrelative
  cases hrelative

theorem eq_root_iff : slashes ++ "/".intercalate names = slashes ↔ names = [] := by
  constructor
  · intro heq
    have hcomponents := h.components_eq
    rw [heq, components_of_slashes h.all_slashes] at hcomponents
    exact (List.cons.inj hcomponents).2.symm
  · rintro rfl
    rw [String.intercalate_nil, String.append_empty]

theorem isBelow_iff {root : String} (hroot : ∀ c ∈ root.toList, c = '/') :
    IsBelow root (slashes ++ "/".intercalate names) ↔ slashes = root ∧ names ≠ [] := by
  rw [IsBelow, h.components_eq, components_of_slashes hroot]
  constructor
  · rintro ⟨rest, hne, hrest⟩
    obtain ⟨rfl, rfl⟩ := List.cons.inj hrest
    exact ⟨rfl, hne⟩
  · rintro ⟨rfl, hne⟩
    exact ⟨names, hne, rfl⟩

end Spells

/-- Only the root itself is shown from the root as it should be. -/
theorem isShownFrom_slash_iff {path : String} (hpath : IsNormal path) :
    IsShownFrom "/" path (relativeTo "/" path) ↔ path = "/" := by
  obtain ⟨slashes, names, h, rfl⟩ := hpath.exists_eq
  rcases h.root with rfl | rfl
  · have hout : ∀ rest, "/" ++ "/".intercalate names ≠ "/" ++ "/" ++ rest := by
      intro rest hrest
      rw [String.append_assoc, String.append_right_inj] at hrest
      exact h.intercalate_ne_slash_append rest hrest
    rw [isShownFrom_of_not_below hpath hout, h.isBelow_iff (by simp), h.eq_root_iff]
    simp
  · -- a root of two slashes begins like the root with the slash after it
    have hroot := h.root_eq
    have hshown : relativeTo "/" ("//" ++ "/".intercalate names) = "/".intercalate names :=
      relativeTo_append "/" ("/".intercalate names)
    have hone : Path.root ("/" ++ "/".intercalate names) = "/" := root_slash h.isAbsolute_intercalate
    rw [hshown]
    constructor
    · intro hfrom
      have hjoin := hfrom.join
      rw [IsCanonical.join_eq (.inl rfl) h.isAbsolute_intercalate, if_pos rfl] at hjoin
      rw [← hjoin, hone] at hroot
      exact absurd hroot (by decide)
    · intro heq
      rw [heq] at hroot
      exact absurd hroot (by decide)

theorem isShownFrom_slashes_iff {path : String} (hpath : IsNormal path) :
    IsShownFrom "//" path (relativeTo "//" path) ↔ path = "//" ∨ Path.root path = "/" := by
  obtain ⟨slashes, names, h, rfl⟩ := hpath.exists_eq
  have hout : ∀ rest, slashes ++ "/".intercalate names ≠ "//" ++ "/" ++ rest := by
    intro rest hrest
    rcases h.root with rfl | rfl
    · have hmore : "//" ++ "/" ++ rest = "/" ++ ("/" ++ ("/" ++ rest)) := by
        rw [← String.append_assoc, ← String.append_assoc]
        rfl
      rw [hmore, String.append_right_inj] at hrest
      exact h.intercalate_ne_slash_append _ hrest
    · rw [String.append_assoc, String.append_right_inj] at hrest
      exact h.intercalate_ne_slash_append rest hrest
  rw [isShownFrom_of_not_below hpath hout, h.isBelow_iff (by simp), h.root_eq]
  rcases h.root with rfl | rfl
  · simp
  · rw [h.eq_root_iff]
    simp

/-- From a directory with a name every path is shown as it should be, and from a root those paths
that are neither below it nor begin like it with a slash after it. -/
theorem isShownFrom_relativeTo_iff {dir path : String} (hdir : IsNormal dir)
    (hpath : IsNormal path) : IsShownFrom dir path (relativeTo dir path) ↔
      needsSlash dir = true ∨ path = dir ∨ dir = "//" ∧ Path.root path = "/" := by
  rcases hdir.cases with hname | rfl | rfl
  · exact iff_of_true (isShownFrom_of_needsSlash hname hpath) (.inl hname)
  · rw [isShownFrom_slash_iff hpath]
    simp [needsSlash]
  · rw [isShownFrom_slashes_iff hpath]
    simp [needsSlash]

end Path

namespace Config

open JsxOutline.Path (IsNormal IsShownFrom)

variable {c : Config} {source parent : String}

/-- A guess that is not that of a third party is a normal path, shown from the base directory. -/
theorem exists_guess_eq (hbase : Path.isAbsolute c.base = true)
    (hparent : Path.isAbsolute parent = true)
    (hsource : Specifier.isRelative source = true ∨ c.aliases.isEmpty = false) :
    ∃ path, IsNormal path ∧ c.guess source parent = (path, Path.relativeTo c.base path) := by
  by_cases hrelative : Specifier.isRelative source = true
  · have habsolute := Path.isAbsolute_join (Path.isAbsolute_directory hparent) source
    refine ⟨_, Path.isNormal_normalize habsolute, ?_⟩
    rw [guess, if_pos hrelative]
  · have haliases := hsource.resolve_left hrelative
    have habsolute := Path.isAbsolute_join hbase (c.aliases.resolve source)
    refine ⟨_, Path.isNormal_normalize habsolute, ?_⟩
    rw [guess, if_neg hrelative, haliases, if_neg Bool.false_ne_true]
    rfl

/-- The guess for a specifier that is relative, or that is read while there are aliases, is a normal
path.  Joined to the base directory what is shown gives the guess, and it is relative exactly if the
guess lies below the base directory; this holds exactly if the base directory has a name, or is the
guess, or is the root of two slashes and the guess begins with one. -/
theorem guess_isShownFrom_iff (hbase : IsNormal c.base) (hparent : Path.isAbsolute parent = true)
    (hsource : Specifier.isRelative source = true ∨ c.aliases.isEmpty = false) :
    IsNormal (c.guess source parent).1 ∧
      (IsShownFrom c.base (c.guess source parent).1 (c.guess source parent).2 ↔
        Path.needsSlash c.base = true ∨ (c.guess source parent).1 = c.base ∨
          c.base = "//" ∧ Path.root (c.guess source parent).1 = "/") := by
  obtain ⟨path, hpath, hguess⟩ := exists_guess_eq hbase.absolute hparent hsource
  rw [hguess]
  exact ⟨hpath, Path.isShownFrom_relativeTo_iff hbase hpath⟩

/-- At the root a file beside the parent is shown from the root and not from the base directory. -/
theorem not_guess_isShownFrom_root :
    IsNormal "/" ∧ Path.IsBelow "/" "/B" ∧
      Config.guess { base := "/" } "./B" "/A.js" = ("/B", "/B") ∧
      ¬ IsShownFrom "/" "/B" "/B" := by
  have hbelow : Path.IsBelow "/" "/B" := ⟨["B"], by decide, by decide⟩
  refine ⟨by decide, hbelow, by decide +kernel, ?_⟩
  intro h
  exact absurd (h.relative.mpr hbelow) (by decide)

/-- An alias for a directory whose name begins like that of the base directory. -/
def beside : Config where
  aliases := [("@", some "../src2")]
  base := "/p/src"

/-- A guess below the base directory is shown from it, and one in the directory beside it is shown
whole. -/
theorem guess_isShownFrom_beside :
    IsNormal beside.base ∧ Path.isAbsolute "/p/src2/A.js" = true ∧
      Specifier.isRelative "../src/ui/B" = true ∧ beside.aliases.isEmpty = false ∧
      IsShownFrom "/p/src" "/p/src/ui/B" "ui/B" ∧ IsShownFrom "/p/src" "/p/src2/B" "/p/src2/B" := by
  have hbase : IsNormal beside.base := by decide +kernel
  have hname : Path.needsSlash beside.base = true := by decide
  have hparent : Path.isAbsolute "/p/src2/A.js" = true := by decide
  have hup : Specifier.isRelative "../src/ui/B" = true := by decide
  have haliases : beside.aliases.isEmpty = false := by decide
  have hin : beside.guess "../src/ui/B" "/p/src2/A.js" = ("/p/src/ui/B", "ui/B") := by
    decide +kernel
  have hout : beside.guess "@/B" "/p/src2/A.js" = ("/p/src2/B", "/p/src2/B") := by decide +kernel
  have hrelative := guess_isShownFrom_iff hbase hparent (.inl hup)
  have haliased := guess_isShownFrom_iff hbase hparent
    (.inr haliases : Specifier.isRelative "@/B" = true ∨ _)
  rw [hin] at hrelative
  rw [hout] at haliased
  exact ⟨hbase, hparent, hup, haliases, hrelative.2.mpr (.inl hname), haliased.2.mpr (.inl hname)⟩

end Config

end JsxOutline
