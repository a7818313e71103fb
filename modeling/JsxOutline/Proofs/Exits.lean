import JsxOutline.Command.Run
import JsxOutline.Proofs.Cycles
import JsxOutline.Proofs.Writing

/-!
# What runs leave behind

Main statement: the code of a run tells whether there was a tree with components that could be shown
or stored; a run prints the tree or changes nothing but the file that the tree is stored in.  A run
that has neither to show leaves everything as it was, unless the device of that file gave up when the
file was already open: then the file has lost what it held.
-/

namespace JsxOutline

namespace Component

end Component

namespace Command

variable {p : Project} {o : Options}

def rootPath (p : Project) (o : Options) : String := Path.below p.files.currentPath o.root

def documentPath (files : FileSystem) : String :=
  Path.below files.currentPath Component.documentName

/-- A tree with components is built from the root file. -/
structure Shows (p : Project) (o : Options) (c : Component) : Prop where
  isFile : p.files.isFile (rootPath p o) = true
  grown : ∃ g, (grow p o (rootPath p o)).result = .ok g ∧ g.component = c
  children : c.children ≠ []

theorem Shows.unique {c d : Component} (hc : Shows p o c) (hd : Shows p o d) : c = d := by
  obtain ⟨g, hg, rfl⟩ := hc.grown
  obtain ⟨k, hk, rfl⟩ := hd.grown
  rw [hg] at hk
  cases hk
  rfl

/-- The file of a tree is opened at a location, and its device gives up when the file holds the first
bytes of the tree. -/
structure BreaksOff (p : Project) (o : Options) (c : Component) (l : Location) (kept : Nat) :
    Prop where
  shows : Shows p o c
  json : o.json = true
  target : p.files.target (documentPath p.files) = .ok l
  device : ∃ cause, p.files.device l (Text.toBytes c.document) = some (.interrupted cause kept)

theorem BreaksOff.unique {c d : Component} {l m : Location} {kept left : Nat}
    (hc : BreaksOff p o c l kept) (hd : BreaksOff p o d m left) : c = d ∧ l = m ∧ kept = left := by
  obtain rfl := hc.shows.unique hd.shows
  obtain rfl : l = m := Except.ok.inj (hc.target.symm.trans hd.target)
  obtain ⟨cause, hcause⟩ := hc.device
  obtain ⟨other, hother⟩ := hd.device
  rw [hcause] at hother
  cases hother
  exact ⟨rfl, rfl, rfl⟩

/-- All ways in which a run can end. -/
inductive Ends (p : Project) (o : Options) : Exit → Prop
  | empty (errors : List String) : (∀ c, ¬ Shows p o c) →
      Ends p o { code := 1, errors, files := p.files }
  | printed {c : Component} (errors : List String) : Shows p o c → o.json = false →
      Ends p o { code := 0, output := [c.render o.hideContainers], errors, files := p.files }
  | stored {c : Component} {l : Location} (output errors : List String) : Shows p o c →
      o.json = true → p.files.target (documentPath p.files) = .ok l →
      p.files.write (documentPath p.files) (Text.toBytes c.document) =
        (p.files.place (.file (Text.toBytes c.document)) l, .ok ()) →
      Ends p o { code := 0, output, errors,
                 files := p.files.place (.file (Text.toBytes c.document)) l }
  | unopened {c : Component} {fault : FileFault} (errors : List String) : Shows p o c →
      o.json = true →
      p.files.write (documentPath p.files) (Text.toBytes c.document) =
        (p.files, .error (.unopened fault)) →
      Ends p o { code := 1, errors, files := p.files }
  | interrupted {c : Component} {l : Location} {kept : Nat} (errors : List String) :
      BreaksOff p o c l kept →
      Ends p o { code := 1, errors,
                 files := p.files.place (.file ((Text.toBytes c.document).take kept)) l }

end Command

end JsxOutline
