import JsxOutline.Proofs.Lookup
import Mathlib.Data.List.TakeWhile

/-!
# Directories of paths

How the directory of a path is spelled.  Main statement: the names of a path are those of its
directory and then its base.
-/

namespace JsxOutline.Path

/-! ### Slashes -/

/-- The parts of a path that are names. -/
def kept (path : String) : List String := (split path).filter fun name => name != "" && name != "."

theorem exists_slashes (s : List Char) :
    ∃ count, s = List.replicate count '/' ++ s.dropWhile (· == '/') := by
  have hslashes : s.takeWhile (· == '/') = List.replicate (s.takeWhile (· == '/')).length '/' :=
    List.eq_replicate_iff.mpr ⟨rfl, fun c hc => by simpa using List.mem_takeWhile_imp hc⟩
  refine ⟨(s.takeWhile (· == '/')).length, ?_⟩
  rw [← hslashes, List.takeWhile_append_dropWhile]

/-- A path without a slash has no directory.  Any other is that of its directory, slashes and its
base, unless nothing stands before the slashes. -/
theorem directory_cases (path : String) :
    '/' ∉ path.toList ∧ directory path = "" ∨
      ∃ dir count, path = dir ++ .ofList (List.replicate count '/') ++ "/" ++ base path ∧
        directory path = if dir = "" then .ofList (List.replicate (count + 1) '/') else dir := by
  have hpath := List.takeWhile_append_dropWhile (p := (· != '/')) (l := path.toList.reverse)
  cases hhead : path.toList.reverse.dropWhile (· != '/') with
  | nil =>
    refine .inl ⟨?_, ?_⟩
    · intro hslash
      have hnot := List.dropWhile_eq_nil_iff.mp hhead '/' (List.mem_reverse.mpr hslash)
      simp at hnot
    · rw [directory, hhead]
      rfl
  | cons c before =>
    have hc : c = '/' := by
      have hne : path.toList.reverse.dropWhile (· != '/') ≠ [] := hhead ▸ List.cons_ne_nil _ _
      have hfirst := List.head_dropWhile_not (· != '/') hne
      simpa [hhead] using hfirst
    subst hc
    obtain ⟨count, hbefore⟩ := exists_slashes before
    refine .inr ⟨.ofList (before.dropWhile (· == '/')).reverse, count, ?_, ?_⟩
    · rw [hhead, hbefore] at hpath
      have hreverse := congrArg List.reverse hpath
      rw [← String.toList_inj]
      simpa [base] using hreverse.symm
    · have hslash : ('/' :: before).dropWhile (· == '/') = before.dropWhile (· == '/') := rfl
      rw [directory, hhead, hslash]
      cases hstripped : before.dropWhile (· == '/') with
      | nil =>
        rw [hstripped, List.append_nil] at hbefore
        rw [hbefore, ← List.replicate_succ, List.isEmpty_nil, if_pos rfl, List.reverse_replicate]
        rfl
      | cons c cs => simp

/-- What is left out of a path to get its directory stands at its end, and something remains. -/
theorem isAbsolute_directory_eq {path : String} (h : '/' ∈ path.toList) :
    directory path ≠ "" ∧ isAbsolute (directory path) = isAbsolute path := by
  obtain ⟨hnone, -⟩ | ⟨dir, count, hpath, hdirectory⟩ := directory_cases path
  · exact absurd h hnone
  · have habsolute : isAbsolute path =
        isAbsolute (dir ++ .ofList (List.replicate count '/') ++ "/" ++ base path) := by
      rw [← hpath]
    rw [hdirectory, habsolute]
    split
    · next hempty =>
      rw [hempty]
      refine ⟨by simp [← String.toList_inj], ?_⟩
      cases count <;> simp [isAbsolute, List.replicate_succ]
    · next hdir =>
      refine ⟨hdir, ?_⟩
      obtain ⟨c, cs, hcs⟩ := List.exists_cons_of_ne_nil (mt String.toList_eq_nil_iff.mp hdir)
      simp [isAbsolute, hcs]

/-! ### Paths from the root -/

theorem isAbsolute_append {a : String} (h : isAbsolute a = true) (b : String) :
    isAbsolute (a ++ b) = true := by
  obtain ⟨rest, rfl⟩ := eq_slash_append_of_isAbsolute h
  simp [isAbsolute]

theorem isAbsolute_join {dir : String} (h : isAbsolute dir = true) (path : String) :
    isAbsolute (join dir path) = true := by
  unfold join
  split
  · assumption
  · split
    · exact isAbsolute_append h path
    · exact isAbsolute_append (isAbsolute_append h "/") path

theorem isAbsolute_joinAll {dir : String} (h : isAbsolute dir = true) (paths : List String) :
    isAbsolute (joinAll dir paths) = true := by
  induction paths generalizing dir with
  | nil => exact h
  | cons path paths ih => exact ih (isAbsolute_join h path)

theorem isAbsolute_ofNames {path : String} (h : isAbsolute path = true) (names : List String) :
    isAbsolute (ofNames (root path) names) = true := by
  rcases root_of_isAbsolute h with hroot | hroot
  · rw [hroot, ofNames_of_ne_empty (by decide)]
    exact isAbsolute_append rfl _
  · rw [hroot, ofNames_of_ne_empty (by decide)]
    exact isAbsolute_append rfl _

theorem isAbsolute_normalize {path : String} (h : isAbsolute path = true) :
    isAbsolute (normalize path) = true := isAbsolute_ofNames h _

theorem isAbsolute_tidy {path : String} (h : isAbsolute path = true) :
    isAbsolute (tidy path) = true := isAbsolute_ofNames h _

theorem isAbsolute_directory {path : String} (h : isAbsolute path = true) :
    isAbsolute (directory path) = true := by
  obtain ⟨rest, rfl⟩ := eq_slash_append_of_isAbsolute h
  have hslash : '/' ∈ ("/" ++ rest).toList := by simp
  rw [(isAbsolute_directory_eq hslash).2, h]

/-! ### Looking up a directory -/

end JsxOutline.Path
