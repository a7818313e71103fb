import JsxOutline.FileSystem
import JsxOutline.Proofs.Spelling

/-!
# Looking up paths

Without links a path that leads somewhere leads to where its spelling says.  Main statement: the
location that is found for a path is that of its normal form from the root.
-/

namespace JsxOutline

namespace Path

theorem climbs_of_names {names : List String} (h : ∀ name ∈ names, IsName name)
    (kept : List String) : names.foldl (climb true) kept = names.reverse ++ kept := by
  induction names generalizing kept with
  | nil => rfl
  | cons name names ih =>
    obtain ⟨hempty, hdot, hdots, -⟩ := h name List.mem_cons_self
    have hclimb : climb true kept name = name :: kept := by
      simp only [climb, hempty, hdot, hdots, or_self, if_false]
    rw [List.foldl_cons, hclimb, ih fun n hn => h n (List.mem_cons_of_mem _ hn),
      List.reverse_cons, List.append_assoc]
    rfl

theorem filter_of_names {names : List String} (h : ∀ name ∈ names, IsName name) :
    names.filter (· != "") = names := by
  refine List.filter_eq_self.mpr ?_
  intro name hname
  exact bne_iff_ne.mpr (h name hname).1

/-- Names are found again in the path that they make. -/
theorem names_of_ofNames {slashes : String} {names : List String}
    (hslashes : slashes = "/" ∨ slashes = "//") (h : ∀ name ∈ names, IsName name) :
    (split (ofNames slashes names)).filter (· != "") = names := by
  have hsplit : (split ("/".intercalate names)).filter (· != "") = names := by
    cases names with
    | nil => rfl
    | cons name rest =>
      rw [split_intercalate (List.cons_ne_nil _ _) fun n hn => (h n hn).2.2.2, filter_of_names h]
  have hne : slashes ≠ "" := by
    rcases hslashes with rfl | rfl <;> decide
  rw [ofNames_of_ne_empty hne]
  rcases hslashes with rfl | rfl
  · rw [split_slash]
    exact hsplit
  · have htwo : "//" ++ "/".intercalate names = "/" ++ ("/" ++ "/".intercalate names) := by
      rw [← String.append_assoc]
      rfl
    rw [htwo, split_slash, split_slash]
    exact hsplit

theorem names_of_normalize {path : String} (h : isAbsolute path = true) :
    (split (normalize path)).filter (· != "") =
      ((split path).foldl (climb true) []).reverse := by
  rw [normalize, h]
  refine names_of_ofNames (root_of_isAbsolute h) ?_
  intro name hname
  have hparts : ∀ part ∈ split path, '/' ∉ part.toList := fun _ hpart => no_slash_of_mem_split hpart
  exact isName_of_mem_climbs (by simp) hparts (List.mem_reverse.mp hname)

theorem climbs_slash (path : String) :
    (split ("/" ++ path)).foldl (climb true) [] = (split path).foldl (climb true) [] := by
  rw [split_slash, List.foldl_cons]
  rfl

/-- The names of a relative path come after those of the directory that it is joined to. -/
theorem climbs_join {path : String} (h : isAbsolute path = false) (dir : String) (rooted : Bool)
    (kept : List String) :
    (split (join dir path)).foldl (climb rooted) kept =
      (split path).foldl (climb rooted) ((split dir).foldl (climb rooted) kept) := by
  have hplace : ∀ kept, climb rooted kept "" = kept := fun _ => rfl
  rw [join, h, if_neg Bool.false_ne_true]
  split
  · next hdir =>
    rcases hdir with rfl | hlast
    · rw [String.empty_append]
      rfl
    · obtain ⟨above, rfl⟩ := exists_append_slash hlast
      rw [split_append_slash, split_slash_end, List.foldl_append, List.foldl_append,
        List.foldl_cons, List.foldl_nil, hplace]
  · rw [split_append_slash, List.foldl_append]

theorem eq_slash_append_of_isAbsolute {path : String} (h : isAbsolute path = true) :
    ∃ rest, path = "/" ++ rest := by
  cases hpath : path.toList with
  | nil => simp [isAbsolute, hpath] at h
  | cons c rest =>
    have hc : c = '/' := by simpa [isAbsolute, hpath] using h
    refine ⟨.ofList rest, ?_⟩
    rw [← String.toList_inj, hpath, hc]
    simp

theorem root_of_relative {path : String} (h : isAbsolute path = false) : root path = "" := by
  cases hpath : path.toList with
  | nil => simp [root, hpath]
  | cons c rest =>
    have hc : c ≠ '/' := by simpa [isAbsolute, hpath] using h
    unfold root
    rw [hpath]
    split
    · next heq => exact absurd (List.cons.inj heq).1 hc
    · next heq => exact absurd (List.cons.inj heq).1 hc
    · next heq => exact absurd (List.cons.inj heq).1 hc
    · rfl

theorem ne_slash_of_mem_reverse {name : String} (hname : '/' ∉ name.toList) :
    ∀ c ∈ name.toList.reverse, (c != '/') = true := by
  intro c hc
  rw [bne_iff_ne]
  rintro rfl
  exact hname (List.mem_reverse.mp hc)

theorem base_of_no_slash {name : String} (hname : '/' ∉ name.toList) : base name = name := by
  have hall : (name.toList.reverse ++ []).takeWhile (· != '/') = name.toList.reverse ++ [] :=
    List.takeWhile_append_of_pos (ne_slash_of_mem_reverse hname)
  rw [List.append_nil] at hall
  rw [base, hall, List.reverse_reverse, String.ofList_toList]

theorem base_append {dir name : String} (hname : '/' ∉ name.toList) :
    base (dir ++ "/" ++ name) = name := by
  have hreverse : (dir ++ "/" ++ name).toList.reverse =
      name.toList.reverse ++ '/' :: dir.toList.reverse := by simp
  rw [base, hreverse, List.takeWhile_append_of_pos (ne_slash_of_mem_reverse hname)]
  simp

/-- The last part of a path is its base. -/
theorem base_of_split {path last : String} {init : List String} (h : split path = init ++ [last]) :
    base path = last := by
  have hlast : '/' ∉ last.toList := by
    have hmem : last ∈ split path := h ▸ List.mem_append_right _ List.mem_cons_self
    exact no_slash_of_mem_split hmem
  rw [← intercalate_split path, h]
  by_cases hinit : init = []
  · rw [hinit, List.nil_append, String.intercalate_singleton, base_of_no_slash hlast]
  · rw [String.intercalate_append_of_ne_nil hinit (List.cons_ne_nil _ _),
      String.intercalate_singleton, base_append hlast]

end Path

namespace Entry

theorem at?_append (e : Entry) (here below : Location) :
    e.at? (here ++ below) = (e.at? here).bind (·.at? below) := by
  induction here generalizing e with
  | nil => rfl
  | cons name rest ih =>
    rw [List.cons_append, at?, at?, Option.bind_assoc]
    simp only [ih]

/-- Only directories have something below. -/
theorem eq_directory_of_at?_cons {e found : Entry} {name : String} {below : Location}
    (h : e.at? (name :: below) = some found) : e = .directory e.members := by
  cases e with
  | directory members => rfl
  | file | lockedFile => cases h

end Entry

namespace FileSystem

open JsxOutline.Path

variable {fs : FileSystem}

theorem step_of_foldlM_cons {part : String} {parts : List String} {here l : Location}
    (h : (part :: parts).foldlM fs.step here = .ok l) :
    ∃ next, fs.step here part = .ok next ∧ parts.foldlM fs.step next = .ok l := by
  rw [List.foldlM_cons] at h
  cases hstep : fs.step here part with
  | error cause =>
    rw [hstep] at h
    cases h
  | ok next =>
    rw [hstep] at h
    exact ⟨next, rfl, h⟩

theorem foldlM_step_concat {init : List String} {here next : Location}
    (h : init.foldlM fs.step here = .ok next) (last : String) :
    (init ++ [last]).foldlM fs.step here = fs.step next last := by
  rw [List.foldlM_append, h]
  exact bind_pure (fs.step next last)

theorem step_of_foldlM_concat {init : List String} {last : String} {here l : Location}
    (h : (init ++ [last]).foldlM fs.step here = .ok l) :
    ∃ next, init.foldlM fs.step here = .ok next ∧ fs.step next last = .ok l := by
  cases hinit : init.foldlM fs.step here with
  | error cause =>
    rw [List.foldlM_append, hinit] at h
    cases h
  | ok next =>
    rw [foldlM_step_concat hinit] at h
    exact ⟨next, rfl, h⟩

/-- The names on the way to where a lookup goes next are those that climbing keeps. -/
theorem step_eq_climb {here next : Location} {name : String}
    (hhere : ∀ n ∈ here, IsName n) (h : fs.step here name = .ok next) :
    next.reverse = climb true here.reverse name := by
  unfold step at h
  unfold climb
  split at h
  · split at h
    · next hstay =>
      rw [if_pos hstay, Except.ok.inj h]
    · next hstay =>
      rw [if_neg hstay]
      split at h
      · next hup =>
        rw [if_pos hup, ← Except.ok.inj h, ← List.tail_reverse]
        cases hkept : here.reverse with
        | nil => rfl
        | cons top below =>
          have hmem : top ∈ here := by
            rw [← List.mem_reverse, hkept]
            exact List.mem_cons_self
          have htop : top ≠ ".." := (hhere top hmem).2.2.1
          simp [htop]
      · next hup =>
        rw [if_neg hup]
        split at h
        · rw [← Except.ok.inj h, List.reverse_append, List.reverse_singleton]
          rfl
        · cases h
  · cases h
  · cases h

theorem foldlM_step_eq_climbs {parts : List String} {here l : Location}
    (hhere : ∀ n ∈ here, IsName n) (hparts : ∀ part ∈ parts, '/' ∉ part.toList)
    (h : parts.foldlM fs.step here = .ok l) :
    l.reverse = parts.foldl (climb true) here.reverse := by
  induction parts generalizing here with
  | nil =>
    cases h
    rfl
  | cons part parts ih =>
    obtain ⟨next, hstep, hrest⟩ := step_of_foldlM_cons h
    have hclimb := step_eq_climb hhere hstep
    have hnext : ∀ n ∈ next, IsName n := by
      intro n hn
      have hkept : ∀ m ∈ here.reverse, IsName m := fun m hm => hhere m (List.mem_reverse.mp hm)
      have hmem : n ∈ climb true here.reverse part := by
        rw [← hclimb]
        exact List.mem_reverse.mpr hn
      exact isName_of_mem_climb hkept (hparts part List.mem_cons_self) hmem
    rw [List.foldl_cons, ← hclimb]
    exact ih hnext (fun q hq => hparts q (List.mem_cons_of_mem _ hq)) hrest

theorem currentPath_canonical (hcurrent : ∀ name ∈ fs.current, IsName name) :
    IsCanonical fs.currentPath := by
  unfold currentPath
  cases h : fs.current with
  | nil => exact .inl rfl
  | cons name names =>
    rw [h] at hcurrent
    exact .inr ⟨_, isClean_intercalate (List.cons_ne_nil _ _) hcurrent, rfl⟩

theorem climbs_currentPath (hcurrent : ∀ name ∈ fs.current, IsName name) :
    (split fs.currentPath).foldl (climb true) [] = fs.current.reverse := by
  unfold currentPath
  rw [climbs_slash]
  cases h : fs.current with
  | nil => rfl
  | cons name names =>
    rw [h] at hcurrent
    rw [split_intercalate (List.cons_ne_nil _ _) fun n hn => (hcurrent n hn).2.2.2,
      climbs_of_names hcurrent, List.append_nil]

/-- The names that climbing keeps of a path, from the root or from the working directory. -/
theorem spelled_eq_climbs (hcurrent : ∀ name ∈ fs.current, IsName name) (path : String) :
    fs.spelled path = ((split path).foldl (climb true)
      (if isAbsolute path then [] else fs.current.reverse)).reverse := by
  unfold spelled absolute
  by_cases habsolute : isAbsolute path = true
  · rw [join_of_isAbsolute habsolute, names_of_normalize habsolute, if_pos habsolute]
  · have hrelative : isAbsolute path = false := Bool.eq_false_iff.mpr habsolute
    have hcanonical := currentPath_canonical hcurrent
    have hroot := hcanonical.root_join hrelative
    rw [names_of_normalize (isAbsolute_of_root hroot), climbs_join hrelative,
      climbs_currentPath hcurrent, if_neg habsolute]

/-- A lookup leads to where the spelling of the path says. -/
theorem locate_eq_spelled {path : String} {l : Location}
    (hcurrent : ∀ name ∈ fs.current, IsName name) (h : fs.locate path = .ok l) :
    l = fs.spelled path := by
  unfold locate at h
  split at h
  · cases h
  · rw [spelled_eq_climbs hcurrent]
    have hparts : ∀ part ∈ split path, '/' ∉ part.toList :=
      fun _ hpart => no_slash_of_mem_split hpart
    by_cases habsolute : isAbsolute path = true
    · simp only [habsolute, if_true] at h ⊢
      have hfold := foldlM_step_eq_climbs (by simp) hparts h
      rw [← List.reverse_nil, ← hfold, List.reverse_reverse]
    · simp only [habsolute, Bool.false_eq_true, if_false] at h ⊢
      have hfold := foldlM_step_eq_climbs hcurrent hparts h
      rw [← hfold, List.reverse_reverse]

theorem locate_of_isFile {path : String} (h : fs.isFile path = true) :
    ∃ l, fs.locate path = .ok l := by
  unfold isFile find at h
  cases hlocate : fs.locate path with
  | ok l => exact ⟨l, rfl⟩
  | error cause =>
    rw [hlocate] at h
    cases h

theorem spelled_of_clean {path : String} (h : IsClean path) :
    fs.spelled ("/" ++ path) = split path := by
  have hrooted : IsRooted ("/" ++ path) := ⟨path, h, rfl⟩
  have habsolute := isAbsolute_of_root hrooted.root
  unfold spelled absolute
  rw [join_of_isAbsolute habsolute, names_of_normalize habsolute, climbs_slash, climbs_of_names h,
    List.append_nil, List.reverse_reverse]

/-- Each location below the root has one spelling of names alone. -/
theorem eq_of_spelled_eq {path path' : String} (h : IsRooted path) (h' : IsRooted path')
    (heq : fs.spelled path = fs.spelled path') : path = path' := by
  obtain ⟨rest, hrest, rfl⟩ := h
  obtain ⟨rest', hrest', rfl⟩ := h'
  rw [spelled_of_clean hrest, spelled_of_clean hrest'] at heq
  rw [← intercalate_split rest, heq, intercalate_split]

/-! ### Paths of files -/

theorem at?_append (fs : FileSystem) (here below : Location) :
    fs.at? (here ++ below) = (fs.at? here).bind (·.at? below) :=
  Entry.at?_append fs.root here below

/-- All that a step can do: it starts from a directory and stays there, goes up, or goes down to a
member. -/
theorem step_cases {here next : Location} {name : String} (h : fs.step here name = .ok next) :
    ∃ members, fs.at? here = some (.directory members) ∧
      ((name = "" ∨ name = ".") ∧ next = here ∨ name = ".." ∧ next = here.dropLast ∨
        ¬ (name = "" ∨ name = ".") ∧ name ≠ ".." ∧ (Table.get? members name).isSome = true ∧
          next = here ++ [name]) := by
  unfold step at h
  split at h
  · next members hentry =>
    refine ⟨members, hentry, ?_⟩
    split at h
    · next hstay => exact .inl ⟨hstay, (Except.ok.inj h).symm⟩
    · next hstay =>
      split at h
      · next hup => exact .inr (.inl ⟨hup, (Except.ok.inj h).symm⟩)
      · next hup =>
        split at h
        · next hmember => exact .inr (.inr ⟨hstay, hup, hmember, (Except.ok.inj h).symm⟩)
        · cases h
  · cases h
  · cases h

theorem directory_of_at?_append {here : Location} {name : String} {e : Entry}
    (h : fs.at? (here ++ [name]) = some e) : ∃ members, fs.at? here = some (.directory members) := by
  rw [at?_append] at h
  obtain ⟨e', hentry, h⟩ := Option.bind_eq_some_iff.mp h
  exact ⟨e'.members, hentry.trans (congrArg some (Entry.eq_directory_of_at?_cons h))⟩

theorem directory_dropLast {here : Location} {members : List (String × Entry)}
    (h : fs.at? here = some (.directory members)) :
    ∃ members', fs.at? here.dropLast = some (.directory members') := by
  rcases List.eq_nil_or_concat here with rfl | ⟨above, name, rfl⟩
  · exact ⟨members, h⟩
  · rw [List.concat_eq_append] at h
    rw [List.concat_eq_append, List.dropLast_concat]
    exact directory_of_at?_append h

theorem isFile_iff {path : String} :
    fs.isFile path = true ↔ ∃ l e, fs.locate path = .ok l ∧ fs.at? l = some e ∧
      ∀ members, e ≠ .directory members := by
  unfold isFile find
  cases hlocate : fs.locate path with
  | error cause => simp [bind, Except.bind]
  | ok l =>
    cases hentry : fs.at? l with
    | none => simp [hentry, bind, Except.bind, throw, throwThe, MonadExceptOf.throw]
    | some e => cases e <;> simp [hentry, bind, Except.bind, pure, Except.pure]

/-- A walk that does not end at a directory ends with a step down. -/
theorem getLast?_of_foldlM_step {parts : List String} {here l : Location} (hne : parts ≠ [])
    (h : parts.foldlM fs.step here = .ok l)
    (hfile : ∀ members, fs.at? l ≠ some (.directory members)) : l.getLast? = parts.getLast? := by
  rcases List.eq_nil_or_concat parts with rfl | ⟨init, last, rfl⟩
  · exact absurd rfl hne
  · rw [List.concat_eq_append] at h
    obtain ⟨mid, -, hstep⟩ := step_of_foldlM_concat h
    obtain ⟨members, hmid, ⟨-, rfl⟩ | ⟨-, rfl⟩ | ⟨-, -, -, rfl⟩⟩ := step_cases hstep
    · exact absurd hmid (hfile members)
    · obtain ⟨members', hup⟩ := directory_dropLast hmid
      exact absurd hup (hfile members')
    · rw [List.concat_eq_append, List.getLast?_concat, List.getLast?_concat]

/-- A path that leads to a file ends with its name. -/
theorem getLast?_of_isFile {path : String} {l : Location} (hfile : fs.isFile path = true)
    (hl : fs.locate path = .ok l) : l.getLast? = some (base path) := by
  obtain ⟨l', e, hl', hentry, hnot⟩ := isFile_iff.mp hfile
  rw [hl] at hl'
  cases hl'
  have hend : ∀ members, fs.at? l ≠ some (.directory members) := by
    intro members hdirectory
    rw [hentry] at hdirectory
    exact hnot members (Option.some.inj hdirectory)
  obtain ⟨init, last, hsplit⟩ := exists_split_eq path
  unfold locate at hl
  split at hl
  · cases hl
  · rw [getLast?_of_foldlM_step (split_ne_nil path) hl hend, hsplit, base_of_split hsplit,
      List.getLast?_concat]

/-- Parts that stay in place do not matter on a walk. -/
theorem foldlM_step_filter {parts : List String} {here l : Location}
    (h : parts.foldlM fs.step here = .ok l) :
    (parts.filter fun name => name != "" && name != ".").foldlM fs.step here = .ok l := by
  induction parts generalizing here with
  | nil => exact h
  | cons part parts ih =>
    obtain ⟨next, hstep, hparts⟩ := step_of_foldlM_cons h
    have hrest := ih hparts
    by_cases hstay : part = "" ∨ part = "."
    · have hnext : next = here := by
        obtain ⟨members, -, ⟨-, hnext⟩ | ⟨rfl, -⟩ | ⟨hmoves, -⟩⟩ := step_cases hstep
        · exact hnext
        · simp at hstay
        · exact absurd hstay hmoves
      have hdrop : (part != "" && part != ".") = false := by
        rcases hstay with rfl | rfl <;> rfl
      rw [List.filter_cons, hdrop, ← hnext]
      exact hrest
    · have hkeep : (part != "" && part != ".") = true := by
        rw [not_or] at hstay
        simp [hstay.1, hstay.2]
      rw [List.filter_cons, hkeep, if_pos rfl, List.foldlM_cons, hstep]
      exact hrest

theorem step_empty {here : Location} {members : List (String × Entry)}
    (h : fs.at? here = some (.directory members)) : fs.step here "" = .ok here := by
  simp [step, h]

theorem locate_slash {path : String} {members : List (String × Entry)}
    (hroot : fs.at? [] = some (.directory members)) :
    fs.locate ("/" ++ path) = (split path).foldlM fs.step [] := by
  have hne : "/" ++ path ≠ "" := by simp
  have habsolute : isAbsolute ("/" ++ path) = true := by simp [isAbsolute]
  rw [locate, if_neg hne, if_pos habsolute, split_slash, List.foldlM_cons, step_empty hroot]
  rfl

/-- A path that is put together from names leads where a walk along them does. -/
theorem locate_ofNames {path : String} {names : List String} {members : List (String × Entry)}
    (hne : names ≠ []) (hnames : ∀ name ∈ names, name ≠ "" ∧ '/' ∉ name.toList)
    (hstart : fs.at? (if isAbsolute path then [] else fs.current) = some (.directory members)) :
    fs.locate (ofNames (Path.root path) names) =
      names.foldlM fs.step (if isAbsolute path then [] else fs.current) := by
  have hsplit := split_intercalate hne fun name hname => (hnames name hname).2
  by_cases habsolute : isAbsolute path = true
  · rw [if_pos habsolute] at hstart ⊢
    rcases root_of_isAbsolute habsolute with hroot | hroot
    · rw [hroot, ofNames_of_ne_empty (by decide), locate_slash hstart, hsplit]
    · have htwo : "//" ++ "/".intercalate names = "/" ++ ("/" ++ "/".intercalate names) := by
        rw [← String.append_assoc]
        rfl
      rw [hroot, ofNames_of_ne_empty (by decide), htwo, locate_slash hstart, split_slash, hsplit,
        List.foldlM_cons, step_empty hstart]
      rfl
  · have hrelative : isAbsolute path = false := Bool.eq_false_iff.mpr habsolute
    have hfirst : ∀ rest, "/".intercalate names ≠ "/" ++ rest := by
      intro rest heq
      rw [heq, split_slash] at hsplit
      have hempty : "" ∈ names := hsplit ▸ List.mem_cons_self
      exact (hnames "" hempty).1 rfl
    have hjoined : "/".intercalate names ≠ "" := by
      intro heq
      rw [heq] at hsplit
      have hempty : "" ∈ names := hsplit ▸ List.mem_cons_self
      exact (hnames "" hempty).1 rfl
    have hplain : ¬ isAbsolute ("/".intercalate names) = true := by
      intro h
      obtain ⟨rest, hrest⟩ := eq_slash_append_of_isAbsolute h
      exact hfirst rest hrest
    rw [if_neg habsolute] at hstart ⊢
    rw [root_of_relative hrelative, ofNames, String.empty_append, if_neg hjoined, locate,
      if_neg hjoined, if_neg hplain, hsplit]

theorem directory_of_step {here next : Location} {name : String}
    (h : fs.step here name = .ok next) : ∃ members, fs.at? here = some (.directory members) := by
  obtain ⟨members, hmembers, -⟩ := step_cases h
  exact ⟨members, hmembers⟩

/-- A walk along the parts of a path starts from a directory. -/
theorem directory_of_walk {path : String} {here l : Location}
    (h : (split path).foldlM fs.step here = .ok l) :
    ∃ members, fs.at? here = some (.directory members) := by
  obtain ⟨first, rest, hsplit⟩ := List.exists_cons_of_ne_nil (split_ne_nil path)
  rw [hsplit] at h
  obtain ⟨next, hstep, -⟩ := step_of_foldlM_cons h
  exact directory_of_step hstep

/-- Tidying the path of a file keeps where it leads. -/
theorem locate_tidy {path : String} (hfile : fs.isFile path = true) :
    fs.locate (tidy path) = fs.locate path := by
  obtain ⟨l, e, hl, hentry, hnot⟩ := isFile_iff.mp hfile
  have hpath : path ≠ "" := by
    rintro rfl
    cases hl
  rw [hl]
  rw [locate, if_neg hpath] at hl
  obtain ⟨members, hstart⟩ := directory_of_walk hl
  have hkept := foldlM_step_filter hl
  have hnames : ∀ name ∈ (split path).filter (fun name => name != "" && name != "."),
      name ≠ "" ∧ '/' ∉ name.toList := by
    intro name hname
    obtain ⟨hmem, hmoves⟩ := List.mem_filter.mp hname
    refine ⟨?_, no_slash_of_mem_split hmem⟩
    rintro rfl
    cases hmoves
  -- the walk starts from a directory, so a name leads down to the file
  have hne : (split path).filter (fun name => name != "" && name != ".") ≠ [] := by
    intro hnil
    rw [hnil] at hkept
    cases hkept
    rw [hentry] at hstart
    exact hnot members (Option.some.inj hstart)
  rw [tidy, locate_ofNames hne hnames hstart]
  exact hkept

theorem step_name {here : Location} {name : String} {e : Entry} (hname : IsName name)
    (h : fs.at? (here ++ [name]) = some e) : fs.step here name = .ok (here ++ [name]) := by
  obtain ⟨members, hhere⟩ := directory_of_at?_append h
  rw [at?_append, hhere] at h
  have hmember : (Table.get? members name).isSome = true := by
    cases hget : Table.get? members name with
    | some sub => rfl
    | none => simp [Entry.at?, Entry.members, hget] at h
  simp [step, hhere, hname.1, hname.2.1, hname.2.2.1, hmember]

/-- Along the names of its location each entry is found. -/
theorem foldlM_step_names {l : Location} {e : Entry} (hnames : ∀ name ∈ l, IsName name)
    (h : fs.at? l = some e) : l.foldlM fs.step [] = .ok l := by
  induction l using List.reverseRecOn generalizing e with
  | nil => rfl
  | append_singleton here name ih =>
    obtain ⟨members, hhere⟩ := directory_of_at?_append h
    have hwalk := ih (fun n hn => hnames n (List.mem_append_left _ hn)) hhere
    have hname := hnames name (List.mem_append_right _ List.mem_cons_self)
    rw [foldlM_step_concat hwalk]
    exact step_name hname h

/-- A path from the root to a file keeps where it leads in its normal form. -/
theorem locate_normalize {path : String} (habsolute : isAbsolute path = true)
    (hfile : fs.isFile path = true) : fs.locate (Path.normalize path) = fs.locate path := by
  obtain ⟨l, e, hl, hentry, hnot⟩ := isFile_iff.mp hfile
  have hpath : path ≠ "" := by
    rintro rfl
    cases hl
  rw [hl]
  rw [locate, if_neg hpath, if_pos habsolute] at hl
  obtain ⟨members, hstart⟩ := directory_of_walk hl
  have hparts : ∀ part ∈ split path, '/' ∉ part.toList := fun _ hpart => no_slash_of_mem_split hpart
  have hclimbs := foldlM_step_eq_climbs (by simp) hparts hl
  have hnames : ∀ name ∈ l, IsName name := by
    intro name hname
    rw [← List.mem_reverse, hclimbs] at hname
    exact isName_of_mem_climbs (by simp) hparts hname
  have hne : l ≠ [] := by
    rintro rfl
    rw [hentry] at hstart
    exact hnot members (Option.some.inj hstart)
  have hnormal : Path.normalize path = ofNames (Path.root path) l := by
    rw [Path.normalize, habsolute, ← List.reverse_nil, ← hclimbs, List.reverse_reverse]
  have hwalk := locate_ofNames hne (fun name hname => ⟨(hnames name hname).1,
    (hnames name hname).2.2.2⟩) (by rwa [if_pos habsolute])
  rw [hnormal, hwalk, if_pos habsolute]
  exact foldlM_step_names hnames hentry

end FileSystem

end JsxOutline
