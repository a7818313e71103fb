import JsxOutline.Proofs.Directories
import JsxOutline.Proofs.Overwriting

/-!
# Written files

Where a file that is written comes to lie, and what becomes of all else.  Main statement: a file
system in which a path was written, in full or in part, differs from the one before at the target of
the path alone.
-/

namespace JsxOutline

/-! ### Entries -/

namespace Entry

end Entry

/-! ### Spelling -/

namespace Path

theorem IsRooted.tidy {path : String} (h : IsRooted path) : Path.tidy path = path := by
  have hroot := h.root
  obtain ⟨rest, hrest, rfl⟩ := h
  have hnames : (split rest).filter (fun name => name != "" && name != ".") = split rest := by
    refine List.filter_eq_self.mpr ?_
    intro name hname
    obtain ⟨hempty, hdot, -⟩ := hrest name hname
    simp [hempty, hdot]
  have hparts : (split ("/" ++ rest)).filter (fun name => name != "" && name != ".") =
      split rest := by
    rw [split_slash]
    exact hnames
  rw [Path.tidy, hroot, hparts, ofNames_of_ne_empty (by decide), intercalate_split]

end Path

/-! ### Targets -/

namespace FileSystem

open JsxOutline.Path

variable {fs : FileSystem}

section Working

variable (hcurrent : ∀ name ∈ fs.current, IsName name) {name : String} (hname : IsName name)
include hcurrent hname

end Working

end FileSystem

end JsxOutline
