import JsxOutline.Proofs.Failure
import JsxOutline.Proofs.Lookup
import Mathlib.Data.Set.Finite.List

/-!
# Finitely many files

A file system has finitely many entries, but a file can be written in infinitely many ways, with
parts that stay in place or lead up.  Main statements: files are written in finitely many ways if
there is a bound on such parts, and the modules of a project mention finitely many specifiers.
-/

namespace JsxOutline

theorem finite_lists {α : Type} {s : Set α} (hs : s.Finite) (bound : Nat) :
    {xs : List α | xs.length ≤ bound ∧ ∀ x ∈ xs, x ∈ s}.Finite := by
  have hfinite : Finite s := hs.to_subtype
  refine ((List.finite_length_le s bound).image (List.map Subtype.val)).subset ?_
  rintro xs ⟨hlength, hmem⟩
  have hattached : (xs.attachWith (· ∈ s) hmem).length ≤ bound := by
    rw [List.length_attachWith]
    exact hlength
  exact ⟨_, hattached, List.attachWith_map_subtype_val hmem⟩

/-! ### Parts that are no names -/

namespace Path

/-- How many parts of a path are no names. -/
def idle (path : String) : Nat := (split path).countP (¬ IsName ·)

theorem idle_slash (path : String) : idle ("/" ++ path) = idle path + 1 := by
  rw [idle, split_slash, List.countP_cons_of_pos (by decide)]
  rfl

theorem idle_append_le (a b : String) : idle (a ++ b) ≤ idle a + idle b := by
  obtain ⟨init, last, ha⟩ := exists_split_eq a
  obtain ⟨first, rest, hb⟩ := List.exists_cons_of_ne_nil (split_ne_nil b)
  have hfirst : '/' ∉ first.toList := no_slash_of_mem_split (hb ▸ List.mem_cons_self)
  rw [idle, idle, idle, split_append ha hb, ha, hb, List.countP_append, List.countP_append,
    List.countP_cons, List.countP_cons, List.countP_cons, List.countP_nil]
  -- a name stays a name when something is added to it
  by_cases hlast : IsName last
  · simp only [hlast, hlast.append hfirst, not_true_eq_false, decide_false, Bool.false_eq_true,
      if_false]
    omega
  · simp only [hlast, not_false_eq_true, decide_true, if_true]
    split <;> omega

theorem idle_le_of_append (a b : String) : idle b ≤ idle (a ++ b) + 1 := by
  obtain ⟨init, last, ha⟩ := exists_split_eq a
  obtain ⟨first, rest, hb⟩ := List.exists_cons_of_ne_nil (split_ne_nil b)
  rw [idle, idle, split_append ha hb, hb, List.countP_append, List.countP_cons, List.countP_cons]
  split <;> omega

theorem idle_intercalate_le {names : List String} (h : ∀ name ∈ names, IsName name) :
    idle ("/".intercalate names) ≤ 1 := by
  cases names with
  | nil => decide
  | cons name names =>
    have hnone : (name :: names).countP (¬ IsName ·) = 0 := by
      refine List.countP_eq_zero.mpr ?_
      intro part hpart
      simp [h part hpart]
    rw [idle, split_intercalate (List.cons_ne_nil _ _) fun n hn => (h n hn).2.2.2, hnone]
    exact Nat.zero_le _

/-- Of a normal path from the root only the slashes at its start make parts that are no names. -/
theorem idle_normalize_le {path : String} (h : isAbsolute path = true) :
    idle (normalize path) ≤ 3 := by
  have hnames : ∀ name ∈ ((split path).foldl (climb true) []).reverse, IsName name := by
    intro name hname
    have hparts : ∀ part ∈ split path, '/' ∉ part.toList :=
      fun _ hpart => no_slash_of_mem_split hpart
    exact isName_of_mem_climbs (by simp) hparts (List.mem_reverse.mp hname)
  have hle := idle_intercalate_le hnames
  rw [normalize, h]
  rcases root_of_isAbsolute h with hroot | hroot
  · rw [hroot, ofNames_of_ne_empty (by decide), idle_slash]
    omega
  · have htwo : ∀ rest : String, "//" ++ rest = "/" ++ ("/" ++ rest) := by
      intro rest
      rw [← String.append_assoc]
      rfl
    rw [hroot, ofNames_of_ne_empty (by decide), htwo, idle_slash, idle_slash]
    omega

theorem split_injective : Function.Injective split := by
  intro a b h
  rw [← intercalate_split a, h, intercalate_split]

theorem finite_idle_parts : {part : String | ¬ IsName part ∧ '/' ∉ part.toList}.Finite := by
  refine (Set.toFinite {"", ".", ".."}).subset ?_
  rintro part ⟨hname, hslash⟩
  by_contra hother
  simp only [Set.mem_insert_iff, Set.mem_singleton_iff, not_or] at hother
  exact hname ⟨hother.1, hother.2.1, hother.2.2, hslash⟩

end Path

/-! ### Entries -/

theorem Entry.exists_member_of_at? {e found : Entry} {name : String} {rest : Location}
    (h : e.at? (name :: rest) = some found) :
    ∃ m ∈ e.members, m.1 = name ∧ m.2.at? rest = some found := by
  obtain ⟨sub, hsub, hrest⟩ := Option.bind_eq_some_iff.mp h
  obtain ⟨m, hm, rfl⟩ := Option.map_eq_some_iff.mp hsub
  have hname : m.1 = name := by simpa using List.find?_some hm
  exact ⟨m, List.mem_of_find?_eq_some hm, hname, hrest⟩

theorem Entry.finite_locations : (e : Entry) → {l : Location | (e.at? l).isSome = true}.Finite
  | .file _ | .lockedFile => by
    refine (Set.finite_singleton []).subset ?_
    intro l hl
    cases l with
    | nil => rfl
    | cons name rest => cases hl
  | .directory members => by
    have hbelow : ∀ m ∈ members, {l : Location | (m.2.at? l).isSome = true}.Finite :=
      fun m _ => finite_locations m.2
    have hmembers : {m | m ∈ members}.Finite := List.finite_toSet members
    refine ((hmembers.biUnion fun m hm => (hbelow m hm).image (m.1 :: ·)).insert []).subset ?_
    intro l hl
    cases l with
    | nil => exact Set.mem_insert _ _
    | cons name rest =>
      obtain ⟨found, hfound⟩ := Option.isSome_iff_exists.mp hl
      obtain ⟨m, hm, rfl, hrest⟩ := exists_member_of_at? hfound
      refine Set.mem_insert_of_mem _ (Set.mem_biUnion hm ?_)
      exact ⟨rest, Option.isSome_iff_exists.mpr ⟨found, hrest⟩, rfl⟩
termination_by e => sizeOf e
decreasing_by
  have hlt := List.sizeOf_lt_of_mem ‹m ∈ members›
  obtain ⟨name, sub⟩ := m
  simp only [Prod.mk.sizeOf_spec, Entry.directory.sizeOf_spec] at hlt ⊢
  omega

namespace FileSystem

open JsxOutline.Path

variable {fs : FileSystem}

theorem finite_locations (fs : FileSystem) : {l : Location | (fs.at? l).isSome = true}.Finite :=
  fs.root.finite_locations

theorem decodes_of_files {dir : String} {members : List (String × Entry)} {current : Location}
    (h : ∀ m ∈ members, ∃ bytes, m.2 = .file bytes ∧ Text.ofBytes? bytes ≠ none) :
    Decodes { root := .directory [(dir, .directory members)], current } := by
  intro l bytes hentry
  cases l with
  | nil => cases hentry
  | cons name rest =>
    obtain ⟨m, hm, -, hrest⟩ := Entry.exists_member_of_at? hentry
    cases List.mem_singleton.mp hm
    cases rest with
    | nil => cases hrest
    | cons name rest =>
      obtain ⟨m, hm, -, hfound⟩ := Entry.exists_member_of_at? hrest
      obtain ⟨held, hfile, htext⟩ := h m hm
      rw [hfile] at hfound
      cases rest with
      | nil =>
        cases hfound
        rw [← Text.ofBytes?_eq_none_iff]
        exact htext
      | cons name rest => cases hfound

/-- A part that is a name leads to an entry of that name; any other part leads up once at most. -/
theorem step_part {here next : Location} {part : String} (h : fs.step here part = .ok next) :
    if IsName part then next = here ++ [part] ∧ (fs.at? next).isSome = true
    else here.length ≤ next.length + 1 := by
  obtain ⟨members, hhere, ⟨hstay, rfl⟩ | ⟨rfl, rfl⟩ | ⟨-, -, hmember, rfl⟩⟩ := step_cases h
  · have hname : ¬ IsName part := by
      rcases hstay with rfl | rfl <;> decide
    rw [if_neg hname]
    exact Nat.le_succ _
  · rw [if_neg (by decide), List.length_dropLast]
    omega
  · have hthere : (fs.at? (here ++ [part])).isSome = true := by
      obtain ⟨e, he⟩ := Option.isSome_iff_exists.mp hmember
      rw [at?_append, hhere, Option.bind_some, Entry.at?, Entry.members, he]
      rfl
    split
    · exact ⟨rfl, hthere⟩
    · rw [List.length_append, List.length_singleton]
      omega

/-- On a walk each name leads to an entry, and there are only as many names as the place where it
ends is deep and as the other parts can lead up. -/
theorem foldlM_step_parts {parts : List String} {here l : Location}
    (h : parts.foldlM fs.step here = .ok l) :
    (∀ part ∈ parts, IsName part → ∃ above, (fs.at? (above ++ [part])).isSome = true) ∧
      here.length + parts.countP (IsName ·) ≤ l.length + parts.countP (¬ IsName ·) := by
  induction parts generalizing here with
  | nil =>
    cases h
    exact ⟨by simp, Nat.le_refl _⟩
  | cons part parts ih =>
    obtain ⟨next, hstep, hrest⟩ := step_of_foldlM_cons h
    obtain ⟨hentries, hcount⟩ := ih hrest
    have hpart := step_part hstep
    rw [List.countP_cons, List.countP_cons]
    by_cases hname : IsName part
    · rw [if_pos hname] at hpart
      obtain ⟨rfl, hthere⟩ := hpart
      refine ⟨List.forall_mem_cons.mpr ⟨fun _ => ⟨here, hthere⟩, hentries⟩, ?_⟩
      rw [List.length_append, List.length_singleton] at hcount
      simp only [hname, decide_true, if_true, not_true_eq_false, decide_false,
        Bool.false_eq_true, if_false]
      omega
    · rw [if_neg hname] at hpart
      refine ⟨List.forall_mem_cons.mpr ⟨fun h => absurd h hname, hentries⟩, ?_⟩
      simp only [hname, not_false_eq_true, decide_true, if_true, decide_false,
        Bool.false_eq_true, if_false]
      omega

theorem finite_names (fs : FileSystem) :
    {name : String | ∃ above, (fs.at? (above ++ [name])).isSome = true}.Finite := by
  refine (fs.finite_locations.image fun l => l.getLast?.getD "").subset ?_
  rintro name ⟨above, hentry⟩
  refine ⟨above ++ [name], hentry, ?_⟩
  simp only [List.getLast?_concat, Option.getD_some]

theorem exists_height (fs : FileSystem) :
    ∃ height, ∀ l e, fs.at? l = some e → l.length ≤ height := by
  obtain ⟨height, hheight⟩ := (fs.finite_locations.image List.length).bddAbove
  refine ⟨height, ?_⟩
  intro l e he
  exact hheight ⟨l, Option.isSome_iff_exists.mpr ⟨e, he⟩, rfl⟩

/-- Files are written in finitely many ways with a bounded number of parts that are no names. -/
theorem finite_files (fs : FileSystem) (bound : Nat) :
    {file : String | fs.isFile file = true ∧ idle file ≤ bound}.Finite := by
  obtain ⟨height, hheight⟩ := fs.exists_height
  have hparts := finite_lists (fs.finite_names.union finite_idle_parts) (height + 2 * bound)
  refine (hparts.preimage split_injective.injOn).subset ?_
  rintro file ⟨hfile, hidle⟩
  obtain ⟨l, e, hl, he, -⟩ := isFile_iff.mp hfile
  unfold locate at hl
  split at hl
  · cases hl
  · -- the names of a path are as many as its file is deep, and one more for each part that leads up
    obtain ⟨hentries, hcount⟩ := foldlM_step_parts hl
    have hdepth := hheight l e he
    have hlength := List.length_eq_countP_add_countP (IsName ·) (l := split file)
    refine ⟨?_, ?_⟩
    · unfold idle at hidle
      simp only [decide_eq_true_eq] at hlength
      omega
    · intro part hpart
      by_cases hname : IsName part
      · exact .inl (hentries part hpart hname)
      · exact .inr ⟨hname, no_slash_of_mem_split hpart⟩

end FileSystem

/-! ### Specifiers -/

namespace Project

variable {p : Project}

theorem finite_texts (p : Project) : {text : String | ∃ file, p.Holds file text}.Finite := by
  have htexts : ∀ l ∈ {l : Location | (p.files.at? l).isSome = true},
      {text | ∃ bytes, p.files.at? l = some (.file bytes) ∧
        Text.ofBytes? bytes = some text}.Finite := by
    intro l _
    refine Set.Subsingleton.finite ?_
    rintro text ⟨bytes, hentry, htext⟩ text' ⟨bytes', hentry', htext'⟩
    rw [hentry] at hentry'
    cases hentry'
    exact Option.some.inj (htext.symm.trans htext')
  refine (p.files.finite_locations.biUnion htexts).subset ?_
  rintro text ⟨file, -, htext⟩
  unfold FileSystem.readText at htext
  split at htext
  · cases htext
  · next bytes hread =>
    obtain ⟨l, hentry⟩ := FileSystem.exists_at?_of_read hread
    split at htext
    · next text' hdecoded =>
      cases htext
      refine Set.mem_biUnion (Option.isSome_iff_exists.mpr ⟨_, hentry⟩) ?_
      exact ⟨bytes, hentry, hdecoded⟩
    · cases htext

/-- The bindings that a text can give, as a module, as an index file or as lines. -/
def textBindings (p : Project) (text : String) : List Binding :=
  Module.reexports ⟨"", p.parser text⟩ ++ ExportLine.bindings text

/-- A specifier stands in a file. -/
def Mentions (p : Project) (specifier : String) : Prop :=
  ∃ file text b, p.Holds file text ∧ b ∈ p.textBindings text ∧ b.source = specifier

theorem finite_mentions (p : Project) : {specifier | p.Mentions specifier}.Finite := by
  have hsources : ∀ text ∈ {text : String | ∃ file, p.Holds file text},
      {specifier | specifier ∈ (p.textBindings text).map (·.source)}.Finite :=
    fun text _ => List.finite_toSet _
  refine (p.finite_texts.biUnion hsources).subset ?_
  rintro _ ⟨file, text, b, hholds, hb, rfl⟩
  exact Set.mem_biUnion ⟨file, hholds⟩ (List.mem_map_of_mem hb)

theorem eq_of_parse {text file : String} {m : Module}
    (h : (Module.parse p.parser text file).result = .ok m) : m = ⟨file, p.parser text⟩ := by
  rw [Module.parse_result] at h
  split at h
  · cases h
  · exact (Except.ok.inj h).symm

theorem mentions_of_childBindings {file text : String} {m : Module} {b : Binding}
    (hholds : p.Holds file text) (hparsed : (Module.parse p.parser text file).result = .ok m)
    (hb : b ∈ m.childBindings.1) : p.Mentions b.source := by
  have himports := Module.mem_imports_of_mem_childBindings hb
  rw [eq_of_parse hparsed] at himports
  refine ⟨file, text, b, hholds, ?_, rfl⟩
  exact List.mem_append_left _ (List.mem_append_left _ (List.mem_append_left _ himports))

theorem mentions_of_indexBinding? {name index text : String} {b : Binding}
    (hholds : p.Holds index text)
    (h : (p.indexBinding? name index text).result = .ok (some b)) : p.Mentions b.source := by
  refine ⟨index, text, b, hholds, ?_, rfl⟩
  unfold indexBinding? at h
  simp only [Outcome.bind_result_eq_ok_iff, Outcome.attempt_result, Except.ok.injEq] at h
  obtain ⟨parsed, rfl, h⟩ := h
  cases hparsed : (Module.parse p.parser text index).result with
  | ok m =>
    simp only [hparsed, Outcome.pure_result, Except.ok.injEq] at h
    have hmem := Binding.mem_of_last? h
    rw [eq_of_parse hparsed] at hmem
    exact List.mem_append_left _ hmem
  | error fault =>
    simp only [hparsed, Outcome.tell_bind_result, Outcome.pure_result, Except.ok.injEq] at h
    exact List.mem_append_right _ (Binding.mem_of_last? h)

end Project

end JsxOutline
