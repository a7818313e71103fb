import JsxOutline.Proofs.Lookup

/-!
# Parts of paths one below the other

Joining parts leaves out what stands before the last one that is written from the root.  Main
statements: in normal form a joined path has the names of the parts that stay, and it has those of
all parts exactly if the parts that stay are written from the same root as all are, and lead up out
of every directory that the others lead into.
-/

namespace JsxOutline.Path

/-! ### Names that lead up -/

theorem climb_up_cons {top : String} (h : top ≠ "..") (rooted : Bool) (below : List String) :
    climb rooted (top :: below) ".." = below := by
  simp [climb, h]

theorem climb_up_ups (up : Nat) :
    climb false (List.replicate up "..") ".." = List.replicate (up + 1) ".." := by
  cases up <;> rfl

theorem climb_up {kept : List String} (h : ".." ∉ kept) : climb true kept ".." = kept.tail := by
  cases kept with
  | nil => rfl
  | cons top below =>
    have htop : top ≠ ".." := fun heq => h (heq ▸ List.mem_cons_self)
    exact climb_up_cons htop true below

theorem climb_stay {name : String} (h : name = "" ∨ name = ".") (rooted : Bool)
    (kept : List String) : climb rooted kept name = kept := by
  simp [climb, h]

theorem climb_name {name : String} (h : ¬ (name = "" ∨ name = ".")) (hup : name ≠ "..")
    (rooted : Bool) (kept : List String) : climb rooted kept name = name :: kept := by
  simp [climb, h, hup]

/-- Names lead up a number of directories and then down, from wherever they begin; at the root what
leads up is lost. -/
theorem exists_climbs_eq (names : List String) :
    ∃ down up, ".." ∉ down ∧
      names.foldl (climb false) [] = down ++ List.replicate up ".." ∧
      ∀ kept, ".." ∉ kept → names.foldl (climb true) kept = down ++ kept.drop up := by
  -- by the last name, which goes on from where the names before it lead
  induction names using List.reverseRecOn with
  | nil => exact ⟨[], 0, List.not_mem_nil, rfl, fun kept _ => rfl⟩
  | append_singleton names name ih =>
    obtain ⟨down, up, hdown, hfree, hrooted⟩ := ih
    simp only [List.foldl_append, List.foldl_cons, List.foldl_nil]
    by_cases hstay : name = "" ∨ name = "."
    · refine ⟨down, up, hdown, ?_, ?_⟩
      · rw [climb_stay hstay, hfree]
      · intro kept hkept
        rw [climb_stay hstay, hrooted kept hkept]
    by_cases hup : name = ".."
    · subst hup
      cases down with
      | nil =>
        refine ⟨[], up + 1, hdown, ?_, ?_⟩
        · rw [hfree, List.nil_append, climb_up_ups, List.nil_append]
        · intro kept hkept
          rw [hrooted kept hkept, List.nil_append, List.nil_append,
            climb_up (mt List.mem_of_mem_drop hkept), List.tail_drop]
      | cons top below =>
        obtain ⟨htop, hbelow⟩ := not_or.mp (mt List.mem_cons.mpr hdown)
        refine ⟨below, up, hbelow, ?_, ?_⟩
        · rw [hfree, List.cons_append, climb_up_cons (Ne.symm htop)]
        · intro kept hkept
          rw [hrooted kept hkept, List.cons_append, climb_up_cons (Ne.symm htop)]
    · refine ⟨name :: down, up, ?_, ?_, ?_⟩
      · exact mt List.mem_cons.mp (not_or.mpr ⟨Ne.symm hup, hdown⟩)
      · rw [climb_name hstay hup, hfree, List.cons_append]
      · intro kept hkept
        rw [climb_name hstay hup, hrooted kept hkept, List.cons_append]

/-- Names lead from the root where they lead from a directory, exactly if they lead up out of it. -/
theorem climbs_nil_eq_climbs_iff (names : List String) {kept : List String} (h : ".." ∉ kept) :
    names.foldl (climb true) [] = names.foldl (climb true) kept ↔
      kept.length ≤ (names.foldl (climb false) []).count ".." := by
  obtain ⟨down, up, hdown, hfree, hrooted⟩ := exists_climbs_eq names
  have hcount : (down ++ List.replicate up "..").count ".." = up := by
    rw [List.count_append, List.count_eq_zero_of_not_mem hdown, List.count_replicate_self,
      Nat.zero_add]
  rw [hrooted kept h, hrooted [] List.not_mem_nil, hfree, hcount, List.drop_nil, List.append_nil,
    List.self_eq_append_right, List.drop_eq_nil_iff]

/-! ### Roots -/

theorem isAbsolute_iff_root_ne_empty (path : String) : isAbsolute path = (root path != "") := by
  cases h : isAbsolute path with
  | false => rw [root_of_relative h]; rfl
  | true =>
    rcases root_of_isAbsolute h with hroot | hroot <;> rw [hroot] <;> rfl

/-- More at the end of a path does not change its root, unless it adds to the slashes. -/
theorem root_append {path more : String} (hpath : path ≠ "")
    (h : isAbsolute more = false ∨ ∃ c ∈ path.toList, c ≠ '/') :
    root (path ++ more) = root path := by
  have hne : path.toList ≠ [] := mt String.toList_eq_nil_iff.mp hpath
  rw [isAbsolute] at h
  unfold root
  rw [String.toList_append]
  generalize path.toList = p at h hne ⊢
  generalize more.toList = m at h ⊢
  -- the root is told by the first three characters
  rcases p with _ | ⟨c, p⟩
  · exact absurd rfl hne
  by_cases hc : c = '/'
  · rcases p with _ | ⟨d, p⟩
    · have hslash : m.head? ≠ some '/' := by simpa [hc] using h
      rcases m with _ | ⟨f, m⟩
      · rfl
      · have hf : f ≠ '/' := by simpa using hslash
        simp [hc, hf]
    by_cases hd : d = '/'
    · rcases p with _ | ⟨e, p⟩
      · have hslash : m.head? ≠ some '/' := by simpa [hc, hd] using h
        rcases m with _ | ⟨f, m⟩
        · rfl
        · have hf : f ≠ '/' := by simpa using hslash
          simp [hc, hd, hf]
      · by_cases he : e = '/' <;> simp [hc, hd, he]
    · simp [hc, hd]
  · simp [hc]

theorem isAbsolute_intercalate {names : List String}
    (h : ∀ name ∈ names, name ≠ "" ∧ '/' ∉ name.toList) :
    isAbsolute ("/".intercalate names) = false := by
  cases names with
  | nil => rfl
  | cons name rest =>
    obtain ⟨hne, hslash⟩ := h name List.mem_cons_self
    obtain ⟨c, cs, hname⟩ := List.exists_cons_of_ne_nil (mt String.toList_eq_nil_iff.mp hne)
    have hc : c ≠ '/' := by
      rintro rfl
      exact hslash (hname ▸ List.mem_cons_self)
    cases rest with
    | nil => simp [isAbsolute, String.intercalate_singleton, hname, hc]
    | cons other rest => simp [isAbsolute, String.intercalate_cons_cons, hname, hc]

theorem mem_of_mem_climb {rooted : Bool} {kept : List String} {part name : String}
    (h : name ∈ climb rooted kept part) : name ∈ kept ∨ name = part ∧ part ≠ "" := by
  by_cases hstay : part = "" ∨ part = "."
  · rw [climb_stay hstay] at h
    exact .inl h
  by_cases hup : part = ".."
  · subst hup
    cases kept with
    | nil => cases rooted <;> simp_all [climb]
    | cons top below =>
      by_cases htop : top = ".."
      · have hmore : climb rooted (top :: below) ".." = ".." :: top :: below := by
          simp [climb, htop]
        rw [hmore, List.mem_cons] at h
        rcases h with rfl | h
        · exact .inr ⟨rfl, by decide⟩
        · exact .inl h
      · rw [climb_up_cons htop] at h
        exact .inl (List.mem_cons_of_mem _ h)
  · rw [climb_name hstay hup, List.mem_cons] at h
    rcases h with rfl | h
    · exact .inr ⟨rfl, fun hempty => hstay (.inl hempty)⟩
    · exact .inl h

theorem mem_of_mem_climbs {rooted : Bool} {parts kept : List String} {name : String}
    (h : name ∈ parts.foldl (climb rooted) kept) : name ∈ kept ∨ name ∈ parts ∧ name ≠ "" := by
  induction parts generalizing kept with
  | nil => exact .inl h
  | cons part parts ih =>
    rcases ih h with hkept | ⟨hparts, hne⟩
    · rcases mem_of_mem_climb hkept with hkept | ⟨rfl, hne⟩
      · exact .inl hkept
      · exact .inr ⟨List.mem_cons_self, hne⟩
    · exact .inr ⟨List.mem_cons_of_mem _ hparts, hne⟩

/-- A path is written with the root that it is made of. -/
theorem root_ofNames {slashes : String} {names : List String}
    (hslashes : slashes = "" ∨ slashes = "/" ∨ slashes = "//")
    (h : ∀ name ∈ names, name ≠ "" ∧ '/' ∉ name.toList) : root (ofNames slashes names) = slashes := by
  have hnames := isAbsolute_intercalate h
  rcases hslashes with rfl | hslashes
  · rw [ofNames, String.empty_append]
    split
    · rfl
    · exact root_of_relative hnames
  · have hne : slashes ≠ "" := by rcases hslashes with rfl | rfl <;> decide
    rw [ofNames_of_ne_empty hne, root_append hne (.inl hnames)]
    rcases hslashes with rfl | rfl <;> rfl

/-! ### Parts one below the other -/

/-- The names on the way through some parts. -/
def through (parts : List String) : List String := parts.flatMap split

/-- The root that parts begin at: empty parts count for nothing. -/
def rootOf (parts : List String) : String := root ((parts.find? (· != "")).getD "")

/-- The normal path of parts of which each stands below those before it, however it is written. -/
def nest (parts : List String) : String :=
  ofNames (rootOf parts) ((through parts).foldl (climb (rootOf parts != "")) []).reverse

/-- The parts from the last one on that is written from the root. -/
def standing : List String → List String
  | [] => []
  | part :: parts => if parts.any isAbsolute then standing parts else part :: parts

/-- The parts before the last one that is written from the root. -/
def discarded : List String → List String
  | [] => []
  | part :: parts => if parts.any isAbsolute then part :: discarded parts else []

/-- How many directories below the root some parts lead to. -/
def depth (parts : List String) : Nat := ((through parts).foldl (climb true) []).length

/-- How many directories some parts lead up before they lead down. -/
def rise (parts : List String) : Nat := ((through parts).foldl (climb false) []).count ".."

theorem rootOf_empty_cons (parts : List String) : rootOf ("" :: parts) = rootOf parts := rfl

theorem rootOf_cons {part : String} (h : part ≠ "") (parts : List String) :
    rootOf (part :: parts) = root part := by
  have hfind : (part :: parts).find? (· != "") = some part :=
    List.find?_cons_of_pos (bne_iff_ne.mpr h)
  rw [rootOf, hfind, Option.getD_some]

theorem rootOf_cases (parts : List String) :
    rootOf parts = "" ∨ rootOf parts = "/" ∨ rootOf parts = "//" := by
  unfold rootOf
  generalize (parts.find? (· != "")).getD "" = path
  cases h : isAbsolute path with
  | false => exact .inl (root_of_relative h)
  | true => exact .inr (root_of_isAbsolute h)

theorem through_cons (part : String) (parts : List String) :
    through (part :: parts) = split part ++ through parts :=
  List.flatMap_cons

theorem no_slash_of_mem_through {parts : List String} {name : String} (h : name ∈ through parts) :
    '/' ∉ name.toList := by
  obtain ⟨part, -, hname⟩ := List.mem_flatMap.mp h
  exact no_slash_of_mem_split hname

theorem nest_singleton (path : String) : nest [path] = normalize path := by
  have hroot : rootOf [path] = root path := by
    by_cases h : path = ""
    · rw [h]
      rfl
    · exact rootOf_cons h []
  have hthrough : through [path] = split path := List.flatMap_singleton _ _
  rw [nest, normalize, hroot, hthrough, isAbsolute_iff_root_ne_empty]

theorem join_empty {path : String} (h : isAbsolute path = false) : join "" path = path := by
  rw [join, h, if_neg Bool.false_ne_true, if_pos (.inl rfl), String.empty_append]

theorem join_ne_empty {dir path : String} (hdir : dir ≠ "") (h : isAbsolute path = false) :
    join dir path ≠ "" := by
  intro hempty
  rw [join, h, if_neg Bool.false_ne_true] at hempty
  split at hempty
  · exact hdir (String.append_eq_empty_iff.mp hempty).1
  · exact hdir (String.append_eq_empty_iff.mp (String.append_eq_empty_iff.mp hempty).1).1

theorem root_join {dir path : String} (hdir : dir ≠ "") (h : isAbsolute path = false) :
    root (join dir path) = root dir := by
  rw [join, h, if_neg Bool.false_ne_true]
  by_cases hlast : dir.toList.getLast? = some '/'
  · rw [if_pos (.inr hlast), root_append hdir (.inl h)]
  · obtain ⟨c, hc⟩ := Option.isSome_iff_exists.mp
      (List.getLast?_isSome.mpr (mt String.toList_eq_nil_iff.mp hdir))
    have hslash : c ≠ '/' := fun heq => hlast (heq ▸ hc)
    rw [if_neg (not_or.mpr ⟨hdir, hlast⟩), String.append_assoc]
    exact root_append hdir (.inr ⟨c, List.mem_of_getLast? hc, hslash⟩)

theorem nest_join {path : String} (h : isAbsolute path = false) (dir : String)
    (parts : List String) : nest (join dir path :: parts) = nest (dir :: path :: parts) := by
  have hroot : rootOf (join dir path :: parts) = rootOf (dir :: path :: parts) := by
    by_cases hdir : dir = ""
    · rw [hdir, join_empty h, rootOf_empty_cons]
    · rw [rootOf_cons (join_ne_empty hdir h), rootOf_cons hdir, root_join hdir h]
  rw [nest, nest, hroot, through_cons, through_cons, through_cons, List.foldl_append,
    List.foldl_append, List.foldl_append, climbs_join h]

/-- In normal form a joined path has the names of the parts that stay. -/
theorem normalize_joinAll (part : String) (parts : List String) :
    normalize (joinAll part parts) = nest (standing (part :: parts)) := by
  induction parts generalizing part with
  | nil => exact (nest_singleton part).symm
  | cons next rest ih =>
    have hjoin : joinAll part (next :: rest) = joinAll (join part next) rest := rfl
    rw [hjoin, ih, standing, standing]
    by_cases hrest : rest.any isAbsolute = true
    · simp [hrest, standing]
    by_cases hnext : isAbsolute next = true
    · rw [join_of_isAbsolute hnext]
      simp [hrest, hnext, standing]
    · have hrelative := Bool.eq_false_iff.mpr hnext
      simp [hrest, hrelative, nest_join hrelative]

theorem split_intercalate_cons (part : String) (parts : List String) :
    split ("/".intercalate (part :: parts)) = through (part :: parts) := by
  induction parts generalizing part with
  | nil => rw [String.intercalate_singleton, through, List.flatMap_singleton]
  | cons next rest ih =>
    rw [String.intercalate_cons_cons, split_append_slash, ih, through_cons part]

/-- Parts are one below the other as in the text in which slashes stand between them, unless the
first part has slashes only, to which more would add. -/
theorem nest_eq_normalize_intercalate {part : String} (h : ∃ c ∈ part.toList, c ≠ '/')
    (parts : List String) : nest (part :: parts) = normalize ("/".intercalate (part :: parts)) := by
  have hne : part ≠ "" := by
    rintro rfl
    obtain ⟨c, hc, -⟩ := h
    cases hc
  have hroot : root ("/".intercalate (part :: parts)) = root part := by
    cases parts with
    | nil => rw [String.intercalate_singleton]
    | cons next rest =>
      rw [String.intercalate_cons_cons, String.append_assoc]
      exact root_append hne (.inr h)
  rw [nest, rootOf_cons hne, normalize, isAbsolute_iff_root_ne_empty, hroot, split_intercalate_cons]

/-! ### Parts that stay -/

theorem discarded_append_standing (parts : List String) :
    discarded parts ++ standing parts = parts := by
  induction parts with
  | nil => rfl
  | cons part parts ih =>
    rw [discarded, standing]
    split
    · rw [List.cons_append, ih]
    · rfl

theorem rootOf_standing {parts : List String} (h : parts.any isAbsolute = true) :
    rootOf (standing parts) ≠ "" := by
  induction parts with
  | nil => cases h
  | cons part parts ih =>
    rw [standing]
    by_cases hparts : parts.any isAbsolute = true
    · rw [if_pos hparts]
      exact ih hparts
    · rw [List.any_cons, Bool.eq_false_iff.mpr hparts, Bool.or_false] at h
      have hne : part ≠ "" := by
        rintro rfl
        cases h
      rw [isAbsolute_iff_root_ne_empty] at h
      rw [if_neg hparts, rootOf_cons hne]
      exact bne_iff_ne.mp h

/-- Where something is discarded, what stays is written from the root. -/
theorem standing_cases (parts : List String) :
    discarded parts = [] ∧ standing parts = parts ∨ rootOf (standing parts) ≠ "" := by
  cases parts with
  | nil => exact .inl ⟨rfl, rfl⟩
  | cons part rest =>
    rw [discarded, standing]
    by_cases hrest : rest.any isAbsolute = true
    · rw [if_pos hrest, if_pos hrest]
      exact .inr (rootOf_standing hrest)
    · rw [if_neg hrest, if_neg hrest]
      exact .inl ⟨rfl, rfl⟩

theorem climbs_through (parts : List String) :
    (through parts).foldl (climb true) [] =
      (through (standing parts)).foldl (climb true)
        ((through (discarded parts)).foldl (climb true) []) := by
  have hthrough : through parts = through (discarded parts) ++ through (standing parts) := by
    rw [through, through, through, ← List.flatMap_append, discarded_append_standing]
  rw [hthrough, List.foldl_append]

theorem isName_of_mem_climbs_through {parts : List String} {name : String}
    (h : name ∈ (through parts).foldl (climb true) []) : IsName name :=
  isName_of_mem_climbs (by simp) (fun _ => no_slash_of_mem_through) h

theorem root_nest (parts : List String) : root (nest parts) = rootOf parts := by
  apply root_ofNames (rootOf_cases parts)
  intro name hname
  rcases mem_of_mem_climbs (List.mem_reverse.mp hname) with hnil | ⟨hmem, hne⟩
  · cases hnil
  · exact ⟨hne, no_slash_of_mem_through hmem⟩

theorem names_of_nest {parts : List String} (h : rootOf parts ≠ "") :
    (split (nest parts)).filter (· != "") = ((through parts).foldl (climb true) []).reverse := by
  have hrooted : (rootOf parts != "") = true := bne_iff_ne.mpr h
  rw [nest, hrooted]
  apply names_of_ofNames ((rootOf_cases parts).resolve_left h)
  intro name hname
  exact isName_of_mem_climbs_through (List.mem_reverse.mp hname)

theorem nest_eq_nest_iff {parts others : List String} (h : rootOf parts ≠ "") :
    nest parts = nest others ↔ rootOf parts = rootOf others ∧
      (through parts).foldl (climb true) [] = (through others).foldl (climb true) [] := by
  constructor
  · intro heq
    have hroot : rootOf parts = rootOf others := by rw [← root_nest, heq, root_nest]
    have hnames := names_of_nest h
    rw [heq, names_of_nest (hroot ▸ h)] at hnames
    exact ⟨hroot, List.reverse_injective hnames.symm⟩
  · rintro ⟨hroot, hnames⟩
    rw [nest, nest, ← hroot, bne_iff_ne.mpr h, hnames]

/-- What is discarded of some parts does not matter: the rest is written from the same root and
leads up out of every directory that the discarded parts lead into. -/
def LosesNothing (parts : List String) : Prop :=
  rootOf (standing parts) = rootOf parts ∧ depth (discarded parts) ≤ rise (standing parts)

instance : DecidablePred LosesNothing := fun _ => inferInstanceAs (Decidable (_ ∧ _))

theorem nest_standing_iff (parts : List String) :
    nest (standing parts) = nest parts ↔ LosesNothing parts := by
  rcases standing_cases parts with ⟨hdiscarded, hstanding⟩ | hrooted
  · rw [LosesNothing, hdiscarded, hstanding]
    exact iff_of_true rfl ⟨rfl, Nat.zero_le _⟩
  · have hup : ".." ∉ (through (discarded parts)).foldl (climb true) [] :=
      fun h => (isName_of_mem_climbs_through h).2.2.1 rfl
    -- both are written from one root, so their names decide
    rw [nest_eq_nest_iff hrooted, climbs_through parts, climbs_nil_eq_climbs_iff _ hup]
    rfl

-- A part from the root discards the directory before it, unless it leads up out of it.
example : ¬ LosesNothing ["/p", "/src"] ∧ LosesNothing ["/p", "/../src"] := by decide +kernel

end JsxOutline.Path
