import JsxOutline.Path
import Mathlib.Data.List.Infix

/-!
# Spellings of paths

A file can be written in many ways, and in one way of which normalising keeps everything: from the
root, with single slashes and names that lead down.  Main statements: such paths stay so when they
are joined with names, when endings are added, when the last name is left out, and when relative
paths are joined and normalised.
-/

namespace JsxOutline.Path

/-! ### Splitting -/

theorem splitChars_append {sep : Char} {s t : List Char} {init rest : List (List Char)}
    {last first : List Char} (hs : splitChars sep s = init ++ [last])
    (ht : splitChars sep t = first :: rest) :
    splitChars sep (s ++ t) = init ++ (last ++ first) :: rest := by
  induction s generalizing init last with
  | nil =>
    have hinit : [] = init ∧ [] = last := by
      cases init with
      | nil => simpa [splitChars] using hs
      | cons part parts => simp [splitChars] at hs
    obtain ⟨rfl, rfl⟩ := hinit
    exact ht
  | cons c cs ih =>
    rw [splitChars] at hs
    rw [List.cons_append, splitChars]
    by_cases hc : c = sep
    · rw [if_pos hc] at hs ⊢
      cases init with
      | nil =>
        have hnil := (List.cons.inj hs).2
        exact absurd hnil (splitChars_ne_nil sep cs)
      | cons part parts =>
        obtain ⟨rfl, htail⟩ := List.cons.inj hs
        rw [ih htail]
        rfl
    · rw [if_neg hc] at hs ⊢
      cases hcs : splitChars sep cs with
      | nil => exact absurd hcs (splitChars_ne_nil sep cs)
      | cons part parts =>
        rw [hcs] at hs
        cases init with
        | nil =>
          obtain ⟨rfl, rfl⟩ := List.cons.inj hs
          have hcons : splitChars sep (cs ++ t) = [] ++ (part ++ first) :: rest := ih hcs
          rw [hcons]
          rfl
        | cons top tops =>
          obtain ⟨rfl, rfl⟩ := List.cons.inj hs
          have hcons : splitChars sep (cs ++ t) = (part :: tops) ++ (last ++ first) :: rest := ih hcs
          rw [hcons]
          rfl

theorem splitChars_of_not_mem {sep : Char} {s : List Char} (h : sep ∉ s) :
    splitChars sep s = [s] := by
  induction s with
  | nil => rfl
  | cons c cs ih =>
    rw [List.mem_cons, not_or] at h
    rw [splitChars, if_neg (Ne.symm h.1), ih h.2]

theorem split_ne_nil (path : String) : split path ≠ [] := by
  intro h
  exact splitChars_ne_nil _ _ (List.map_eq_nil_iff.mp h)

theorem exists_split_eq (path : String) : ∃ init last, split path = init ++ [last] := by
  have hne := split_ne_nil path
  exact ⟨_, _, (List.dropLast_append_getLast hne).symm⟩

theorem split_append {a b last first : String} {init rest : List String}
    (ha : split a = init ++ [last]) (hb : split b = first :: rest) :
    split (a ++ b) = init ++ (last ++ first) :: rest := by
  obtain ⟨init', last', hchars, rfl, hlast⟩ := List.map_eq_append_iff.mp ha
  obtain ⟨last', rfl, rfl⟩ := List.map_eq_singleton_iff.mp hlast
  obtain ⟨first', rest', hchars', rfl, rfl⟩ := List.map_eq_cons_iff.mp hb
  rw [split, String.toList_append, splitChars_append hchars hchars', List.map_append, List.map_cons,
    String.ofList_append]

@[simp] theorem split_empty : split "" = [""] := rfl

theorem split_slash (path : String) : split ("/" ++ path) = "" :: split path := by
  obtain ⟨first, rest, h⟩ := List.exists_cons_of_ne_nil (split_ne_nil path)
  have hslash : split "/" = [""] ++ [""] := rfl
  rw [split_append hslash h, h, String.empty_append]
  rfl

theorem split_append_slash (a b : String) : split (a ++ "/" ++ b) = split a ++ split b := by
  obtain ⟨init, last, h⟩ := exists_split_eq a
  rw [String.append_assoc, split_append h (split_slash b), String.append_empty, h,
    List.append_assoc]
  rfl

theorem split_slash_end (path : String) : split (path ++ "/") = split path ++ [""] := by
  have h := split_append_slash path ""
  rwa [String.append_empty] at h

theorem exists_append_slash {path : String} (h : path.toList.getLast? = some '/') :
    ∃ dir, path = dir ++ "/" := by
  obtain ⟨chars, hchars⟩ := List.getLast?_eq_some_iff.mp h
  refine ⟨.ofList chars, ?_⟩
  rw [← String.toList_inj, hchars, String.toList_append, String.toList_ofList]
  rfl

theorem eq_empty_of_slash_append {path : String} (h : "/" ++ path = "/") : path = "" := by
  have hlist := congrArg String.toList h
  rw [String.toList_append] at hlist
  exact String.toList_eq_nil_iff.mp (List.append_right_eq_self.mp hlist)

theorem eq_append_slash_of_dropWhile {path : String} {c : Char} {rest : List Char}
    (h : path.toList.dropWhile (· != '/') = c :: rest) :
    path = .ofList (path.toList.takeWhile (· != '/')) ++ "/" ++ .ofList rest := by
  have hne : path.toList.dropWhile (· != '/') ≠ [] := h ▸ List.cons_ne_nil _ _
  have hc : c = '/' := by
    have hhead := List.head_dropWhile_not (· != '/') hne
    simpa [h] using hhead
  have hchars := List.takeWhile_append_dropWhile (p := (· != '/')) (l := path.toList)
  rw [h, hc] at hchars
  rw [← String.toList_inj]
  simp [hchars]

theorem split_of_no_slash {path : String} (h : '/' ∉ path.toList) : split path = [path] := by
  rw [split, splitChars_of_not_mem h, List.map_singleton, String.ofList_toList]

theorem no_slash_of_mem_split {path part : String} (h : part ∈ split path) : '/' ∉ part.toList := by
  obtain ⟨chars, hchars, rfl⟩ := List.mem_map.mp h
  rw [String.toList_ofList]
  exact not_mem_of_mem_splitChars hchars

theorem split_intercalate {names : List String} (hne : names ≠ [])
    (h : ∀ name ∈ names, '/' ∉ name.toList) : split ("/".intercalate names) = names := by
  induction names with
  | nil => exact absurd rfl hne
  | cons name rest ih =>
    have hname := split_of_no_slash (h name List.mem_cons_self)
    cases rest with
    | nil => rw [String.intercalate_singleton, hname]
    | cons next rest =>
      have hrest := ih (List.cons_ne_nil _ _) fun n hn => h n (List.mem_cons_of_mem _ hn)
      rw [String.intercalate_cons_cons, split_append_slash, hname, hrest]
      rfl

theorem intercalate_split (path : String) : "/".intercalate (split path) = path := by
  have h := intercalate_splitChars '/' path.toList
  have hlist : (split path).map String.toList = splitChars '/' path.toList := by
    rw [split, List.map_map]
    exact List.map_id'' (fun _ => String.toList_ofList) _
  rw [← hlist] at h
  rw [← String.toList_inj, String.toList_intercalate]
  exact h

/-! ### Names -/

/-- A text that can name an entry of a directory. -/
def IsName (name : String) : Prop := name ≠ "" ∧ name ≠ "." ∧ name ≠ ".." ∧ '/' ∉ name.toList

instance : DecidablePred IsName := fun _ => inferInstanceAs (Decidable (_ ∧ _))

/-- A path of names alone. -/
def IsClean (path : String) : Prop := ∀ name ∈ split path, IsName name

instance : DecidablePred IsClean := fun path => inferInstanceAs (Decidable (∀ _ ∈ split path, _))

/-- A path of names alone, from the root. -/
def IsRooted (path : String) : Prop := ∃ rest, IsClean rest ∧ path = "/" ++ rest

/-- A path of names alone, from the root or not. -/
def IsPlain (path : String) : Prop := IsClean path ∨ IsRooted path

/-- The root, or a path of names alone from there. -/
def IsCanonical (path : String) : Prop := path = "/" ∨ IsRooted path

theorem isName_iff {name : String} :
    IsName name ↔ ¬ name.toList <+: ['.', '.'] ∧ '/' ∉ name.toList := by
  have hdots : name.toList <+: ['.', '.'] ↔ name = "" ∨ name = "." ∨ name = ".." := by
    rw [← List.mem_inits, ← String.toList_inj, ← String.toList_inj, ← String.toList_inj]
    simp
  rw [hdots, not_or, not_or]
  simp only [IsName, and_assoc]

theorem IsName.append {a b : String} (ha : IsName a) (hb : '/' ∉ b.toList) : IsName (a ++ b) := by
  rw [isName_iff] at ha ⊢
  obtain ⟨hdots, hslash⟩ := ha
  rw [String.toList_append]
  refine ⟨?_, ?_⟩
  · intro h
    exact hdots ((List.prefix_append _ _).trans h)
  · rw [List.mem_append, not_or]
    exact ⟨hslash, hb⟩

/-- Names stay names where something is added to the last one, with more names after it. -/
theorem IsClean.append {path ending : String} (h : IsClean path)
    (hending : ∀ name ∈ (split ending).tail, IsName name) : IsClean (path ++ ending) := by
  obtain ⟨init, last, hpath⟩ := exists_split_eq path
  obtain ⟨first, rest, hsplit⟩ := List.exists_cons_of_ne_nil (split_ne_nil ending)
  have hfirst : '/' ∉ first.toList :=
    no_slash_of_mem_split (hsplit ▸ List.mem_cons_self)
  rw [hsplit, List.tail_cons] at hending
  unfold IsClean at h ⊢
  rw [hpath] at h
  rw [split_append hpath hsplit]
  intro name hname
  rcases List.mem_append.mp hname with hname | hname
  · exact h name (List.mem_append_left _ hname)
  · rcases List.mem_cons.mp hname with rfl | hname
    · exact (h last (List.mem_append_right _ List.mem_cons_self)).append hfirst
    · exact hending name hname

theorem isClean_intercalate {names : List String} (hne : names ≠ [])
    (h : ∀ name ∈ names, IsName name) : IsClean ("/".intercalate names) := by
  intro name hname
  rw [split_intercalate hne fun n hn => (h n hn).2.2.2] at hname
  exact h name hname

theorem IsClean.ne_empty {path : String} (h : IsClean path) : path ≠ "" := by
  rintro rfl
  exact (h "" List.mem_cons_self).1 rfl

theorem IsClean.toList_ne_nil {path : String} (h : IsClean path) : path.toList ≠ [] :=
  mt String.toList_eq_nil_iff.mp h.ne_empty

theorem IsClean.isAbsolute_append {path : String} (h : IsClean path) (more : String) :
    isAbsolute (path ++ more) = false := by
  obtain ⟨c, cs, hpath⟩ := List.exists_cons_of_ne_nil h.toList_ne_nil
  have hc : c ≠ '/' := by
    rintro rfl
    have hslash : path = "/" ++ String.ofList cs := by
      rw [← String.toList_inj, hpath, String.toList_append]
      simp
    rw [hslash] at h
    have hempty := h "" (by rw [split_slash]; exact List.mem_cons_self)
    exact hempty.1 rfl
  rw [isAbsolute, String.toList_append, hpath]
  simpa using hc

theorem IsClean.isAbsolute {path : String} (h : IsClean path) : Path.isAbsolute path = false := by
  rw [← String.append_empty (s := path)]
  exact h.isAbsolute_append ""

theorem IsClean.ne_root {path : String} (h : IsClean path) : "/" ++ path ≠ "/" := by
  intro hroot
  exact h.ne_empty (eq_empty_of_slash_append hroot)

theorem IsRooted.append {path ending : String} (h : IsRooted path)
    (hending : ∀ name ∈ (split ending).tail, IsName name) : IsRooted (path ++ ending) := by
  obtain ⟨rest, hrest, rfl⟩ := h
  exact ⟨rest ++ ending, hrest.append hending, String.append_assoc⟩

theorem IsRooted.canonical {path : String} (h : IsRooted path) : IsCanonical path := .inr h

theorem IsCanonical.append_clean {path ending : String} (h : IsCanonical path)
    (hending : IsClean ending) : IsRooted (path ++ ending) := by
  rcases h with rfl | h
  · exact ⟨ending, hending, rfl⟩
  · exact h.append fun name hname => hending name (List.mem_of_mem_tail hname)

theorem IsPlain.append {path ending : String} (h : IsPlain path)
    (hending : ∀ name ∈ (split ending).tail, IsName name) : IsPlain (path ++ ending) := by
  rcases h with h | h
  · exact .inl (h.append hending)
  · exact .inr (h.append hending)

theorem IsPlain.names_tail {path : String} (h : IsPlain path) :
    ∀ name ∈ (split path).tail, IsName name := by
  rcases h with h | ⟨rest, hrest, rfl⟩
  · exact fun name hname => h name (List.mem_of_mem_tail hname)
  · rw [split_slash, List.tail_cons]
    exact hrest

/-! ### Normal forms -/

/-- Names that were kept are names, and what is kept next is one. -/
theorem isName_of_mem_climb {kept : List String} {part name : String}
    (hkept : ∀ n ∈ kept, IsName n) (hpart : '/' ∉ part.toList) (h : name ∈ climb true kept part) :
    IsName name := by
  unfold climb at h
  split at h
  · exact hkept name h
  · next hstay =>
    rw [not_or] at hstay
    split at h
    · next hup =>
      cases kept with
      | nil => simp at h
      | cons top below =>
        have htop : top ≠ ".." := (hkept top List.mem_cons_self).2.2.1
        simp only [htop, if_false] at h
        exact hkept name (List.mem_cons_of_mem _ h)
    · next hup =>
      rcases List.mem_cons.mp h with rfl | h
      · exact ⟨hstay.1, hstay.2, hup, hpart⟩
      · exact hkept name h

theorem isName_of_mem_climbs {parts kept : List String} {name : String}
    (hkept : ∀ n ∈ kept, IsName n) (hparts : ∀ part ∈ parts, '/' ∉ part.toList)
    (h : name ∈ parts.foldl (climb true) kept) : IsName name := by
  induction parts generalizing kept with
  | nil => exact hkept name h
  | cons part parts ih =>
    refine ih ?_ (fun q hq => hparts q (List.mem_cons_of_mem _ hq)) h
    intro n hn
    exact isName_of_mem_climb hkept (hparts part List.mem_cons_self) hn

theorem ofNames_of_ne_empty {slashes : String} (h : slashes ≠ "") (names : List String) :
    ofNames slashes names = slashes ++ "/".intercalate names := by
  have hne : slashes ++ "/".intercalate names ≠ "" := by
    intro hempty
    exact h (String.append_eq_empty_iff.mp hempty).1
  simp only [ofNames, hne, if_false]

theorem isCanonical_ofNames {names : List String} (h : ∀ name ∈ names, IsName name) :
    IsCanonical (ofNames "/" names) := by
  rw [ofNames_of_ne_empty (by decide)]
  cases names with
  | nil => exact .inl rfl
  | cons name names => exact .inr ⟨_, isClean_intercalate (List.cons_ne_nil _ _) h, rfl⟩

theorem isAbsolute_of_root {path : String} (h : root path = "/") : isAbsolute path = true := by
  unfold root at h
  unfold isAbsolute
  split at h <;> simp_all

theorem root_of_isAbsolute {path : String} (h : isAbsolute path = true) :
    root path = "/" ∨ root path = "//" := by
  unfold isAbsolute at h
  unfold root
  cases hpath : path.toList with
  | nil => simp [hpath] at h
  | cons c cs =>
    have hc : c = '/' := by simpa [hpath] using h
    subst hc
    split <;> simp_all

/-- Normalising a path from the root gives its canonical spelling. -/
theorem isCanonical_normalize {path : String} (h : root path = "/") :
    IsCanonical (normalize path) := by
  rw [normalize, h, isAbsolute_of_root h]
  refine isCanonical_ofNames ?_
  intro name hname
  have hnil : ∀ n ∈ ([] : List String), IsName n := by simp
  refine isName_of_mem_climbs hnil ?_ (List.mem_reverse.mp hname)
  intro part hpart
  exact no_slash_of_mem_split hpart

/-! ### Joining -/

theorem join_of_isAbsolute {path : String} (h : isAbsolute path = true) (dir : String) :
    join dir path = path := by
  rw [join, if_pos h]

theorem root_slash {path : String} (h : isAbsolute path = false) : root ("/" ++ path) = "/" := by
  have hlist : ("/" ++ path).toList = '/' :: path.toList := by simp
  unfold root
  rw [hlist]
  unfold isAbsolute at h
  cases hpath : path.toList with
  | nil => rfl
  | cons c cs =>
    rw [hpath] at h
    have hc : c ≠ '/' := by simpa using h
    split <;> simp_all

theorem IsRooted.root {path : String} (h : IsRooted path) : Path.root path = "/" := by
  obtain ⟨rest, hrest, rfl⟩ := h
  exact root_slash hrest.isAbsolute

theorem not_isClean_of_getLast? {path : String} (h : path.toList.getLast? = some '/') :
    ¬ IsClean path := by
  intro hclean
  obtain ⟨dir, rfl⟩ := exists_append_slash h
  have hempty : "" ∈ split (dir ++ "/") := by
    rw [split_slash_end]
    exact List.mem_append_right _ List.mem_cons_self
  exact (hclean "" hempty).1 rfl

/-- What a relative path becomes below a directory. -/
theorem IsCanonical.join_eq {dir path : String} (hdir : IsCanonical dir)
    (hpath : isAbsolute path = false) :
    join dir path = if dir = "/" then "/" ++ path else dir ++ "/" ++ path := by
  unfold join
  simp only [hpath, Bool.false_eq_true, if_false]
  rcases hdir with rfl | ⟨rest, hrest, rfl⟩
  · simp
  · have hlast : ("/" ++ rest).toList.getLast? ≠ some '/' := by
      intro hlast
      rw [String.toList_append, List.getLast?_append_of_ne_nil _ hrest.toList_ne_nil] at hlast
      exact not_isClean_of_getLast? hlast hrest
    have hempty : "/" ++ rest ≠ "" := by simp
    have hroot : "/" ++ rest ≠ "/" := hrest.ne_root
    simp only [hlast, hempty, hroot, or_self, if_false]

theorem IsCanonical.join_clean {dir path : String} (hdir : IsCanonical dir) (hpath : IsClean path) :
    IsRooted (join dir path) := by
  rw [hdir.join_eq hpath.isAbsolute]
  rcases hdir with rfl | hdir
  · rw [if_pos rfl]
    exact ⟨path, hpath, rfl⟩
  · split
    · exact ⟨path, hpath, rfl⟩
    · rw [String.append_assoc]
      refine hdir.append ?_
      rw [split_slash, List.tail_cons]
      exact hpath

theorem IsCanonical.join_plain {dir path : String} (hdir : IsCanonical dir) (hpath : IsPlain path) :
    IsRooted (join dir path) := by
  rcases hpath with hpath | hpath
  · exact hdir.join_clean hpath
  · rw [join_of_isAbsolute (isAbsolute_of_root hpath.root)]
    exact hpath

theorem IsCanonical.root_join {dir path : String} (hdir : IsCanonical dir)
    (hpath : isAbsolute path = false) : Path.root (join dir path) = "/" := by
  rw [hdir.join_eq hpath]
  split
  · exact root_slash hpath
  · rcases hdir with rfl | ⟨rest, hrest, rfl⟩
    · contradiction
    · rw [String.append_assoc, String.append_assoc]
      exact root_slash (hrest.isAbsolute_append _)

theorem IsCanonical.joinAll {dir : String} {names : List String} (hdir : IsCanonical dir)
    (hnames : ∀ name ∈ names, IsName name) : IsCanonical (joinAll dir names) := by
  induction names generalizing dir with
  | nil => exact hdir
  | cons name names ih =>
    have hname := hnames name List.mem_cons_self
    have hclean : IsClean name := by
      intro n hn
      rw [split_of_no_slash hname.2.2.2, List.mem_singleton] at hn
      rw [hn]
      exact hname
    have hjoined : IsCanonical (join dir name) := (hdir.join_clean hclean).canonical
    exact ih hjoined fun n hn => hnames n (List.mem_cons_of_mem _ hn)

/-- What follows a canonical directory in a canonical path adds to its last name and goes on with
names. -/
theorem IsCanonical.names_after {dir more : String} (hdir : IsCanonical dir)
    (h : IsCanonical (dir ++ more)) : ∀ name ∈ (split more).tail, IsName name := by
  obtain ⟨first, rest, hmore⟩ := List.exists_cons_of_ne_nil (split_ne_nil more)
  rw [hmore, List.tail_cons]
  obtain ⟨init, last, hdirectory⟩ := exists_split_eq dir
  have hparts := split_append hdirectory hmore
  rcases h with hroot | ⟨clean, hclean, heq⟩
  · have hempty : more = "" := by
      rcases hdir with rfl | ⟨below, hbelow, rfl⟩
      · exact eq_empty_of_slash_append hroot
      · rw [String.append_assoc] at hroot
        have hnone := eq_empty_of_slash_append hroot
        exact absurd (String.append_eq_empty_iff.mp hnone).1 hbelow.ne_empty
    subst hempty
    obtain ⟨-, rfl⟩ := List.cons.inj hmore
    simp
  · rw [heq, split_slash] at hparts
    intro name hname
    refine hclean name ?_
    cases init with
    | nil =>
      obtain ⟨-, hrest⟩ := List.cons.inj hparts
      rw [hrest]
      exact hname
    | cons part parts =>
      obtain ⟨-, hrest⟩ := List.cons.inj hparts
      rw [hrest]
      exact List.mem_append_right _ (List.mem_cons_of_mem _ hname)

/-! ### Directories -/

theorem directory_of_name {name : String} (hname : '/' ∉ name.toList) :
    directory ("/" ++ name) = "/" := by
  have hreverse : ("/" ++ name).toList.reverse = name.toList.reverse ++ ['/'] := by simp
  have hnot : ∀ c ∈ name.toList.reverse, (c != '/') = true := by
    intro c hc
    rw [bne_iff_ne]
    rintro rfl
    exact hname (List.mem_reverse.mp hc)
  unfold directory
  rw [hreverse, List.dropWhile_append_of_pos hnot]
  rfl

theorem directory_append {dir name : String} (hname : '/' ∉ name.toList)
    (hne : dir.toList ≠ []) (hlast : dir.toList.getLast? ≠ some '/') :
    directory (dir ++ "/" ++ name) = dir := by
  have hreverse : (dir ++ "/" ++ name).toList.reverse =
      name.toList.reverse ++ '/' :: dir.toList.reverse := by simp
  have hnot : ∀ c ∈ name.toList.reverse, (c != '/') = true := by
    intro c hc
    rw [bne_iff_ne]
    rintro rfl
    exact hname (List.mem_reverse.mp hc)
  obtain ⟨c, cs, hdir⟩ := List.exists_cons_of_ne_nil (mt List.reverse_eq_nil_iff.mp hne)
  have hc : c ≠ '/' := by
    rintro rfl
    refine hlast ?_
    rw [← List.head?_reverse, hdir]
    rfl
  unfold directory
  rw [hreverse, List.dropWhile_append_of_pos hnot, hdir]
  have hstripped : List.dropWhile (· == '/') ('/' :: c :: cs) = c :: cs := by
    simp [hc]
  simp only [bne_self_eq_false, Bool.false_eq_true, not_false_eq_true, List.dropWhile_cons_of_neg,
    hstripped, List.isEmpty_cons, if_false]
  rw [← hdir, List.reverse_reverse, String.ofList_toList]

theorem IsRooted.canonical_directory {path : String} (h : IsRooted path) :
    IsCanonical (directory path) := by
  obtain ⟨rest, hrest, rfl⟩ := h
  obtain ⟨init, last, hsplit⟩ := exists_split_eq rest
  have hlast : '/' ∉ last.toList := by
    have hmem : last ∈ split rest := by
      rw [hsplit]
      exact List.mem_append_right _ List.mem_cons_self
    exact no_slash_of_mem_split hmem
  by_cases hinit : init = []
  · subst hinit
    have hname : rest = last := by
      rw [← intercalate_split rest, hsplit]
      exact String.intercalate_singleton
    rw [hname, directory_of_name hlast]
    exact .inl rfl
  · have hclean : IsClean ("/".intercalate init) := by
      refine isClean_intercalate hinit ?_
      intro name hname
      exact hrest name (hsplit ▸ List.mem_append_left _ hname)
    have hpath : rest = "/".intercalate init ++ "/" ++ last := by
      rw [← intercalate_split rest, hsplit,
        String.intercalate_append_of_ne_nil hinit (List.cons_ne_nil _ _),
        String.intercalate_singleton]
    have hdir : directory ("/" ++ rest) = "/" ++ "/".intercalate init := by
      rw [hpath, ← String.append_assoc, ← String.append_assoc]
      refine directory_append hlast ?_ ?_
      · simp
      · rw [String.toList_append, List.getLast?_append_of_ne_nil _ hclean.toList_ne_nil]
        intro hslash
        exact not_isClean_of_getLast? hslash hclean
    rw [hdir]
    exact .inr ⟨_, hclean, rfl⟩

end JsxOutline.Path
